import LiveMarkup.Proofs.Markup.Reidentification
/-
# LiveMarkup.Proofs.Markup.Recovery -- identification can be taken back

Identification writes into the attributes of one name and drops what their values held.
Taking those attributes off drops the values whole.  So the two agree on what is left
(`Tree.withoutIdentifiers_identify`), whatever the supply drew.

What is left is told by its elements.  `Tree.remaining` lists the elements that do not
stand inside an attribute of the name.  They are, in this order, the elements of the
stripped tree, each with its other attributes and spreads and with its children, in the
order they had (`Tree.elements_withoutIdentifiers`).  `Module.identify_recovers` joins the two.
-/

namespace LiveMarkup.Markup

open LiveMarkup.Syntax

set_option autoImplicit false

/-- An element with its other attributes and its children in order, without the attributes of the
name in any of them. -/
def withoutIdentifiers (name : String) (e : Markup) : Markup :=
  { e with
    attributes := (e.attributes.filter fun a => !isNamed name a).map (withoutIdentifiersIn name)
    typeArguments := e.typeArguments.map (Tree.withoutIdentifiers name)
    children := e.children.map (Tree.withoutIdentifiers name) }

end LiveMarkup.Markup

namespace LiveMarkup.Syntax

set_option autoImplicit false

variable (name : String)

/-! ## Elements that remain -/

mutual

/-- The elements of a tree that do not stand inside an attribute of the name. -/
def Tree.remaining : Tree → List Markup
  | .node _ parts => remainingOf parts
  | .element ⟨tagName, attributes, typeArguments, selfClosing, children, closing, lines⟩ =>
      ⟨tagName, attributes, typeArguments, selfClosing, children, closing, lines⟩ ::
        (remainingAttributes attributes ++ remainingOption typeArguments ++ remainingOf children)
  termination_by structural t => t

def remainingOf : List Tree → List Markup
  | [] => []
  | t :: ts => t.remaining ++ remainingOf ts
  termination_by structural ts => ts

def remainingAttributes : List (Attribute Tree) → List Markup
  | [] => []
  | a :: as =>
      if Markup.isNamed name a then remainingAttributes as else remainingIn a ++ remainingAttributes as
  termination_by structural as => as

def remainingIn : Attribute Tree → List Markup
  | .named _ value => remainingOption value
  | .spread value => value.remaining
  termination_by structural a => a

def remainingOption : Option Tree → List Markup
  | none => []
  | some t => t.remaining
  termination_by structural t => t

end

/-- The elements of a module that do not stand inside an attribute of the name. -/
def Module.remaining (m : Module) : List Markup := remainingOf name m.items

theorem withoutIdentifiersOf_eq_map (ts : List Tree) :
    withoutIdentifiersOf name ts = ts.map (Tree.withoutIdentifiers name) := by
  induction ts with
  | nil => rfl
  | cons t ts ih => rw [withoutIdentifiersOf, ih, List.map_cons]

theorem otherAttributes_eq_map (as : List (Attribute Tree)) :
    otherAttributes name as =
      (as.filter fun a => !Markup.isNamed name a).map (withoutIdentifiersIn name) := by
  induction as with
  | nil => rfl
  | cons a as ih =>
      rw [otherAttributes, List.filter_cons]
      cases named : Markup.isNamed name a with
      | true => simp only [ih, if_true, Bool.not_true, Bool.false_eq_true, if_false]
      | false => simp only [ih, Bool.false_eq_true, if_false, Bool.not_false, if_true, List.map_cons]

theorem withoutIdentifiersOption_eq_map (t : Option Tree) :
    withoutIdentifiersOption name t = t.map (Tree.withoutIdentifiers name) := by
  cases t <;> rfl

mutual

/-- The elements of a stripped tree are the elements that remain, each stripped, in order. -/
theorem Tree.elements_withoutIdentifiers : ∀ t : Tree,
    (t.withoutIdentifiers name).elements = (t.remaining name).map (Markup.withoutIdentifiers name)
  | .node kind parts => by
      rw [Tree.withoutIdentifiers, Tree.elements, Tree.remaining, elementsOf_withoutIdentifiersOf parts]
  | .element ⟨tagName, attributes, typeArguments, selfClosing, children, closing, lines⟩ => by
      rw [Tree.withoutIdentifiers, Tree.elements, Tree.remaining,
        attributeElements_otherAttributes attributes, optionElements_withoutIdentifiersOption typeArguments,
        elementsOf_withoutIdentifiersOf children, ← List.map_append, ← List.map_append, List.map_cons,
        Markup.withoutIdentifiers, otherAttributes_eq_map, withoutIdentifiersOf_eq_map,
        withoutIdentifiersOption_eq_map]

theorem elementsOf_withoutIdentifiersOf : ∀ ts : List Tree,
    elementsOf (withoutIdentifiersOf name ts) =
      (remainingOf name ts).map (Markup.withoutIdentifiers name)
  | [] => rfl
  | t :: ts => by
      rw [withoutIdentifiersOf, elementsOf, remainingOf, t.elements_withoutIdentifiers,
        elementsOf_withoutIdentifiersOf ts, ← List.map_append]

theorem attributeElements_otherAttributes : ∀ as : List (Attribute Tree),
    attributeElements (otherAttributes name as) =
      (remainingAttributes name as).map (Markup.withoutIdentifiers name)
  | [] => rfl
  | a :: as => by
      rw [otherAttributes, remainingAttributes]
      split
      · exact attributeElements_otherAttributes as
      · rw [attributeElements, attributeElementsOf_withoutIdentifiersIn a,
          attributeElements_otherAttributes as, ← List.map_append]

theorem attributeElementsOf_withoutIdentifiersIn : ∀ a : Attribute Tree,
    attributeElementsOf (withoutIdentifiersIn name a) =
      (remainingIn name a).map (Markup.withoutIdentifiers name)
  | .named _ value => optionElements_withoutIdentifiersOption value
  | .spread value => value.elements_withoutIdentifiers

theorem optionElements_withoutIdentifiersOption : ∀ t : Option Tree,
    optionElements (withoutIdentifiersOption name t) =
      (remainingOption name t).map (Markup.withoutIdentifiers name)
  | none => rfl
  | some t => t.elements_withoutIdentifiers

end

/-! ## Taking identifiers off again -/

variable (supply : Supply)

mutual

/-- Without its identifiers an identified tree is the tree it was made of without its own. -/
theorem Tree.withoutIdentifiers_identify : ∀ (t : Tree) (around : Option Nat) (w : Walk),
    (t.identify supply name around w).1.withoutIdentifiers name = t.withoutIdentifiers name
  | .node kind parts, around, w => by
      simp only [Tree.identify, Tree.withoutIdentifiers, withoutIdentifiersOf_identifyOf parts]
  | .element ⟨tagName, attributes, typeArguments, selfClosing, children, closing, lines⟩, around, w => by
      simp only [Tree.identify, Tree.withoutIdentifiers, otherAttributes_identifyAttributes attributes,
        withoutIdentifiersOption_identifyOption typeArguments, withoutIdentifiersOf_identifyOf children]

theorem withoutIdentifiersOf_identifyOf : ∀ (ts : List Tree) (around : Option Nat) (w : Walk),
    withoutIdentifiersOf name (identifyOf supply name around ts w).1 = withoutIdentifiersOf name ts
  | [], _, _ => rfl
  | t :: ts, around, w => by
      simp only [identifyOf, withoutIdentifiersOf, t.withoutIdentifiers_identify,
        withoutIdentifiersOf_identifyOf ts]

/-- A new identifier stands in an attribute of the name, and so does what it replaced. -/
theorem otherAttributes_identifyAttributes :
    ∀ (as : List (Attribute Tree)) (around : Option Nat) (new : Option String) (w : Walk),
      otherAttributes name (identifyAttributes supply name around new as w).1 = otherAttributes name as
  | [], _, none, _ => rfl
  | [], _, some uid, _ => by
      simp only [identifyAttributes, Option.map_some, Option.toList_some, otherAttributes,
        isNamed_identifierAttribute, if_true]
  | a :: as, around, none, w => by
      simp only [identifyAttributes, otherAttributes, isNamed_identifyIn,
        withoutIdentifiersIn_identifyIn a, otherAttributes_identifyAttributes as]
  | a :: as, around, some uid, w => by
      cases named : Markup.isNamed name a with
      | true =>
          simp only [identifyAttributes, named, if_true, otherAttributes, isNamed_identifierAttribute,
            otherAttributes_identifyAttributes as]
      | false =>
          simp only [identifyAttributes, named, Bool.false_eq_true, if_false, otherAttributes,
            isNamed_identifyIn, withoutIdentifiersIn_identifyIn a, otherAttributes_identifyAttributes as]

theorem withoutIdentifiersIn_identifyIn : ∀ (a : Attribute Tree) (around : Option Nat) (w : Walk),
    withoutIdentifiersIn name (identifyIn supply name around a w).1 = withoutIdentifiersIn name a
  | .named _ value, around, w => by
      simp only [identifyIn, withoutIdentifiersIn, withoutIdentifiersOption_identifyOption value]
  | .spread value, around, w => by
      simp only [identifyIn, withoutIdentifiersIn, value.withoutIdentifiers_identify]

theorem withoutIdentifiersOption_identifyOption :
    ∀ (t : Option Tree) (around : Option Nat) (w : Walk),
      withoutIdentifiersOption name (identifyOption supply name around t w).1 =
        withoutIdentifiersOption name t
  | none, _, _ => rfl
  | some t, around, w => by
      simp only [identifyOption, withoutIdentifiersOption, t.withoutIdentifiers_identify]

end

theorem Module.withoutIdentifiers_identify (m : Module) (next : Nat) :
    (m.identify supply name next).content.withoutIdentifiers name = m.withoutIdentifiers name := by
  simp only [Module.withoutIdentifiers, Module.identify, withoutIdentifiersOf_identifyOf]

/-- **Identification only touches identifiers.**  Without the attributes of the name, a module is
the same before and after it was identified, so whatever identifiers two identifications made,
they strip to the same module.  In that module no element has an attribute of the name, and its
elements are those that remain of the old one, each with all its other attributes, spreads and
children in order; stripping it again changes nothing. -/
theorem Module.identify_recovers (supply' : Supply) (m : Module) (next next' : Nat) :
    (m.identify supply name next).content.withoutIdentifiers name = m.withoutIdentifiers name ∧
    (∀ e ∈ (m.withoutIdentifiers name).elements, e.Unnamed name) ∧
    (m.withoutIdentifiers name).elements = (m.remaining name).map (Markup.withoutIdentifiers name) ∧
    (m.withoutIdentifiers name).withoutIdentifiers name = m.withoutIdentifiers name ∧
    (m.identify supply name next).content.withoutIdentifiers name =
      (m.identify supply' name next').content.withoutIdentifiers name := by
  have first := m.withoutIdentifiers_identify name supply next
  have second := m.withoutIdentifiers_identify name supply' next'
  exact ⟨first, m.unnamed_of_withoutIdentifiers name, elementsOf_withoutIdentifiersOf name m.items,
    m.withoutIdentifiers_twice name, first.trans second.symm⟩

end LiveMarkup.Syntax
