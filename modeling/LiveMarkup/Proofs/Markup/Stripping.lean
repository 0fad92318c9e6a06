import LiveMarkup.Markup.Identify
/-
# LiveMarkup.Proofs.Markup.Stripping -- trees without identifiers, trees without places

Two things can be taken off a tree.  `Tree.withoutIdentifiers` takes the attributes of a
name; a second time it finds none (`withoutIdentifiers_twice`), and no element at any
depth has one left (`unnamed_of_withoutIdentifiers`).  `Tree.bare` takes what only
tells of the text a tree was read from: lines, and the spelling of strings and numbers.
The two do not get in each other's way (`bare_withoutIdentifiers`), and the elements of a
bare tree are the bare elements (`elements_bare`).
-/

namespace LiveMarkup.Syntax

set_option autoImplicit false

/-- A kind without the spelling of its literal. -/
def Kind.bare : Kind → Kind
  | .string value _ => .string value none
  | .number value _ => .number value none
  | kind => kind

mutual

/-- A tree without lines and without the spelling of literals. -/
def Tree.bare : Tree → Tree
  | .node kind parts => .node kind.bare (bareOf parts)
  | .element ⟨tagName, attributes, typeArguments, selfClosing, children, closing, _⟩ =>
      .element ⟨tagName, bareAttributes attributes, bareOption typeArguments, selfClosing,
        bareOf children, closing, none⟩
  termination_by structural t => t

def bareOf : List Tree → List Tree
  | [] => []
  | t :: ts => t.bare :: bareOf ts
  termination_by structural ts => ts

def bareAttributes : List (Attribute Tree) → List (Attribute Tree)
  | [] => []
  | a :: as => bareIn a :: bareAttributes as
  termination_by structural as => as

def bareIn : Attribute Tree → Attribute Tree
  | .named n value => .named n (bareOption value)
  | .spread value => .spread value.bare
  termination_by structural a => a

def bareOption : Option Tree → Option Tree
  | none => none
  | some t => some t.bare
  termination_by structural t => t

end

end LiveMarkup.Syntax

namespace LiveMarkup.Markup

open LiveMarkup.Syntax

/-- An element without its lines, over bare trees. -/
def bare (e : Markup) : Markup :=
  ⟨e.name, bareAttributes e.attributes, bareOption e.typeArguments, e.selfClosing,
    bareOf e.children, e.closing, none⟩

/-- Has an element no attribute of the name? -/
def Unnamed (name : String) (e : Markup) : Prop := ∀ a ∈ e.attributes, isNamed name a = false

end LiveMarkup.Markup

namespace LiveMarkup.Syntax

open LiveMarkup.Markup (Unnamed)

def Module.bare (m : Module) : Module := { m with items := bareOf m.items, lines := none }

variable (name : String)

/-! ## Without places -/

@[simp] theorem isNamed_bareIn (a : Attribute Tree) :
    Markup.isNamed name (bareIn a) = Markup.isNamed name a := by
  match a with
  | .named (.plain _) _ => rfl
  | .named (.namespaced _ _) _ => rfl
  | .spread _ => rfl

theorem bareAttributes_eq_map (as : List (Attribute Tree)) : bareAttributes as = as.map bareIn := by
  induction as with
  | nil => rfl
  | cons a as ih => simp only [bareAttributes, ih, List.map_cons]

mutual

theorem Tree.elements_bare : ∀ t : Tree, t.bare.elements = t.elements.map Markup.bare
  | .node kind parts => by simpa only [Tree.bare, Tree.elements] using elementsOf_bare parts
  | .element ⟨tagName, attributes, typeArguments, selfClosing, children, closing, lines⟩ => by
      simp only [Tree.bare, Tree.elements, List.map_cons, List.map_append, Markup.bare,
        attributeElements_bare attributes, optionElements_bare typeArguments,
        elementsOf_bare children]

theorem elementsOf_bare : ∀ ts : List Tree, elementsOf (bareOf ts) = (elementsOf ts).map Markup.bare
  | [] => rfl
  | t :: ts => by
      simp only [bareOf, elementsOf, List.map_append, t.elements_bare, elementsOf_bare ts]

theorem attributeElements_bare : ∀ as : List (Attribute Tree),
    attributeElements (bareAttributes as) = (attributeElements as).map Markup.bare
  | [] => rfl
  | a :: as => by
      simp only [bareAttributes, attributeElements, List.map_append, attributeElementsOf_bare a,
        attributeElements_bare as]

theorem attributeElementsOf_bare : ∀ a : Attribute Tree,
    attributeElementsOf (bareIn a) = (attributeElementsOf a).map Markup.bare
  | .named _ value => optionElements_bare value
  | .spread value => value.elements_bare

theorem optionElements_bare : ∀ t : Option Tree,
    optionElements (bareOption t) = (optionElements t).map Markup.bare
  | none => rfl
  | some t => t.elements_bare

end

mutual

theorem Tree.bare_withoutIdentifiers : ∀ t : Tree,
    (t.withoutIdentifiers name).bare = t.bare.withoutIdentifiers name
  | .node kind parts => by
      simp only [Tree.withoutIdentifiers, Tree.bare, bareOf_withoutIdentifiersOf parts]
  | .element ⟨tagName, attributes, typeArguments, selfClosing, children, closing, lines⟩ => by
      simp only [Tree.withoutIdentifiers, Tree.bare, bareAttributes_otherAttributes attributes,
        bareOption_withoutIdentifiersOption typeArguments, bareOf_withoutIdentifiersOf children]

theorem bareOf_withoutIdentifiersOf : ∀ ts : List Tree,
    bareOf (withoutIdentifiersOf name ts) = withoutIdentifiersOf name (bareOf ts)
  | [] => rfl
  | t :: ts => by
      simp only [withoutIdentifiersOf, bareOf, t.bare_withoutIdentifiers,
        bareOf_withoutIdentifiersOf ts]

theorem bareAttributes_otherAttributes : ∀ as : List (Attribute Tree),
    bareAttributes (otherAttributes name as) = otherAttributes name (bareAttributes as)
  | [] => rfl
  | a :: as => by
      simp only [otherAttributes, bareAttributes, isNamed_bareIn]
      split
      · exact bareAttributes_otherAttributes as
      · simp only [bareAttributes, bareIn_withoutIdentifiersIn a, bareAttributes_otherAttributes as]

theorem bareIn_withoutIdentifiersIn : ∀ a : Attribute Tree,
    bareIn (withoutIdentifiersIn name a) = withoutIdentifiersIn name (bareIn a)
  | .named n value => by
      simp only [withoutIdentifiersIn, bareIn, bareOption_withoutIdentifiersOption value]
  | .spread value => by simp only [withoutIdentifiersIn, bareIn, value.bare_withoutIdentifiers]

theorem bareOption_withoutIdentifiersOption : ∀ t : Option Tree,
    bareOption (withoutIdentifiersOption name t) = withoutIdentifiersOption name (bareOption t)
  | none => rfl
  | some t => by simp only [withoutIdentifiersOption, bareOption, t.bare_withoutIdentifiers]

end

theorem Module.bare_withoutIdentifiers (m : Module) :
    (m.withoutIdentifiers name).bare = m.bare.withoutIdentifiers name := by
  simp only [Module.withoutIdentifiers, Module.bare, bareOf_withoutIdentifiersOf]

theorem Module.elements_bare (m : Module) : m.bare.elements = m.elements.map Markup.bare :=
  elementsOf_bare m.items

/-! ## Without identifiers -/

@[simp] theorem isNamed_withoutIdentifiersIn (a : Attribute Tree) :
    Markup.isNamed name (withoutIdentifiersIn name a) = Markup.isNamed name a := by
  match a with
  | .named (.plain _) _ => rfl
  | .named (.namespaced _ _) _ => rfl
  | .spread _ => rfl

mutual

theorem Tree.withoutIdentifiers_twice : ∀ t : Tree,
    (t.withoutIdentifiers name).withoutIdentifiers name = t.withoutIdentifiers name
  | .node kind parts => by
      simp only [Tree.withoutIdentifiers, withoutIdentifiersOf_twice parts]
  | .element ⟨tagName, attributes, typeArguments, selfClosing, children, closing, lines⟩ => by
      simp only [Tree.withoutIdentifiers, otherAttributes_twice attributes,
        withoutIdentifiersOption_twice typeArguments, withoutIdentifiersOf_twice children]

theorem withoutIdentifiersOf_twice : ∀ ts : List Tree,
    withoutIdentifiersOf name (withoutIdentifiersOf name ts) = withoutIdentifiersOf name ts
  | [] => rfl
  | t :: ts => by
      simp only [withoutIdentifiersOf, t.withoutIdentifiers_twice, withoutIdentifiersOf_twice ts]

theorem otherAttributes_twice : ∀ as : List (Attribute Tree),
    otherAttributes name (otherAttributes name as) = otherAttributes name as
  | [] => rfl
  | a :: as => by
      cases named : Markup.isNamed name a with
      | true => simpa only [otherAttributes, named, if_true] using otherAttributes_twice as
      | false =>
          simp only [otherAttributes, named, Bool.false_eq_true, if_false,
            isNamed_withoutIdentifiersIn, withoutIdentifiersIn_twice a, otherAttributes_twice as]

theorem withoutIdentifiersIn_twice : ∀ a : Attribute Tree,
    withoutIdentifiersIn name (withoutIdentifiersIn name a) = withoutIdentifiersIn name a
  | .named n value => by simp only [withoutIdentifiersIn, withoutIdentifiersOption_twice value]
  | .spread value => by simp only [withoutIdentifiersIn, value.withoutIdentifiers_twice]

theorem withoutIdentifiersOption_twice : ∀ t : Option Tree,
    withoutIdentifiersOption name (withoutIdentifiersOption name t) = withoutIdentifiersOption name t
  | none => rfl
  | some t => by simp only [withoutIdentifiersOption, t.withoutIdentifiers_twice]

end

theorem Module.withoutIdentifiers_twice (m : Module) :
    (m.withoutIdentifiers name).withoutIdentifiers name = m.withoutIdentifiers name := by
  simp only [Module.withoutIdentifiers, withoutIdentifiersOf_twice]

theorem otherAttributes_unnamed {as : List (Attribute Tree)} :
    ∀ a ∈ otherAttributes name as, Markup.isNamed name a = false := by
  induction as with
  | nil => simp [otherAttributes]
  | cons a as ih =>
      cases named : Markup.isNamed name a with
      | true => simpa only [otherAttributes, named, if_true] using ih
      | false =>
          simpa only [otherAttributes, named, Bool.false_eq_true, if_false, List.forall_mem_cons,
            isNamed_withoutIdentifiersIn, true_and] using ih

mutual

theorem Tree.unnamed_of_withoutIdentifiers : ∀ t : Tree,
    ∀ e ∈ (t.withoutIdentifiers name).elements, Unnamed name e
  | .node kind parts => by
      simpa only [Tree.withoutIdentifiers, Tree.elements] using
        unnamed_of_withoutIdentifiersOf parts
  | .element ⟨tagName, attributes, typeArguments, selfClosing, children, closing, lines⟩ => by
      simp only [Tree.withoutIdentifiers, Tree.elements, List.forall_mem_cons, List.forall_mem_append]
      exact ⟨otherAttributes_unnamed name,
        ⟨unnamed_of_otherAttributes attributes, unnamed_of_withoutIdentifiersOption typeArguments⟩,
        unnamed_of_withoutIdentifiersOf children⟩

theorem unnamed_of_withoutIdentifiersOf : ∀ ts : List Tree,
    ∀ e ∈ elementsOf (withoutIdentifiersOf name ts), Unnamed name e
  | [] => by simp [withoutIdentifiersOf, elementsOf]
  | t :: ts => by
      simp only [withoutIdentifiersOf, elementsOf, List.forall_mem_append]
      exact ⟨t.unnamed_of_withoutIdentifiers, unnamed_of_withoutIdentifiersOf ts⟩

theorem unnamed_of_otherAttributes : ∀ as : List (Attribute Tree),
    ∀ e ∈ attributeElements (otherAttributes name as), Unnamed name e
  | [] => by simp [otherAttributes, attributeElements]
  | a :: as => by
      cases named : Markup.isNamed name a with
      | true => simpa only [otherAttributes, named, if_true] using unnamed_of_otherAttributes as
      | false =>
          simp only [otherAttributes, named, Bool.false_eq_true, if_false, attributeElements,
            List.forall_mem_append]
          exact ⟨unnamed_of_withoutIdentifiersIn a, unnamed_of_otherAttributes as⟩

theorem unnamed_of_withoutIdentifiersIn : ∀ a : Attribute Tree,
    ∀ e ∈ attributeElementsOf (withoutIdentifiersIn name a), Unnamed name e
  | .named _ value => unnamed_of_withoutIdentifiersOption value
  | .spread value => value.unnamed_of_withoutIdentifiers

theorem unnamed_of_withoutIdentifiersOption : ∀ t : Option Tree,
    ∀ e ∈ optionElements (withoutIdentifiersOption name t), Unnamed name e
  | none => by simp [withoutIdentifiersOption, optionElements]
  | some t => t.unnamed_of_withoutIdentifiers

end

/-- No element at any depth keeps an attribute of the name. -/
theorem Module.unnamed_of_withoutIdentifiers (m : Module) :
    ∀ e ∈ (m.withoutIdentifiers name).elements, Unnamed name e :=
  unnamed_of_withoutIdentifiersOf name m.items

/-- Places do not matter for the names of attributes. -/
theorem Module.unnamed_of_bare {m m' : Module} (same : m.bare = m'.bare)
    (unnamed : ∀ e ∈ m'.elements, Unnamed name e) : ∀ e ∈ m.elements, Unnamed name e := by
  intro e member a held
  have bare : e.bare ∈ m'.elements.map Markup.bare := by
    rw [← Module.elements_bare, ← same, Module.elements_bare]
    exact List.mem_map_of_mem member
  obtain ⟨e', member', equal⟩ := List.mem_map.mp bare
  have attributes : e'.attributes.map bareIn = e.attributes.map bareIn := by
    have := congrArg Element.attributes equal
    simpa only [Markup.bare, bareAttributes_eq_map] using this
  obtain ⟨a', held', alike⟩ := List.mem_map.mp (attributes ▸ List.mem_map_of_mem held)
  rw [← isNamed_bareIn, ← alike, isNamed_bareIn]
  exact unnamed e' member' a' held'

end LiveMarkup.Syntax
