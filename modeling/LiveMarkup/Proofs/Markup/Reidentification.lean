import LiveMarkup.Proofs.Markup.Identification
import LiveMarkup.Proofs.Markup.Stripping
/-
# LiveMarkup.Proofs.Markup.Reidentification -- identifying what has identifiers

An element is settled when its first attribute of the name holds a string that is not
empty.  A walk that comes to settled elements whose identifiers differ from each other and
from all that it has met (`Walk.Free`) leaves them as they are (`Tree.identify_free`).
Identification settles every element (`Module.identify_settled`).

Places do not matter for any of this: the identified bare tree is the bare identified tree
(`Module.identify_bare`).
-/

namespace LiveMarkup.Syntax

set_option autoImplicit false

variable (supply : Supply) (name : String)

/-! ## What is read of attributes -/

/-- What the attributes of the name hold, in order. -/
def readings (as : List (Attribute Tree)) : List (Option String) :=
  (as.filter (Markup.isNamed name)).map (Markup.stringOf? name)

variable {name}

theorem readings_cons (a : Attribute Tree) (as : List (Attribute Tree)) :
    readings name (a :: as) =
      if Markup.isNamed name a then Markup.stringOf? name a :: readings name as else readings name as := by
  rw [readings, List.filter_cons]
  split <;> rfl

theorem readings_append (as bs : List (Attribute Tree)) :
    readings name (as ++ bs) = readings name as ++ readings name bs := by
  simp only [readings, List.filter_append, List.map_append]

theorem readings_eq_nil {as : List (Attribute Tree)} (other : ∀ a ∈ as, Markup.isNamed name a = false) :
    readings name as = [] := by
  rw [readings, List.filter_eq_nil_iff.mpr (by simpa using other), List.map_nil]

/-- The walk looks at the first attribute of the name. -/
theorem keptIdentifier?_eq (taken : List String) (as : List (Attribute Tree)) :
    keptIdentifier? name taken as =
      (readings name as).head?.join.bind fun uid => if uid = "" ∨ uid ∈ taken then none else some uid := by
  simp only [readings, List.head?_map, List.head?_filter, keptIdentifier?]
  cases found : as.find? (Markup.isNamed name) with
  | none => rfl
  | some a =>
      have named := List.find?_some found
      match a with
      | .named (.plain n) value =>
          have same : n = name := by simpa [Markup.isNamed] using named
          simp only [Option.map_some, Markup.stringOf?, same, if_true, Option.join_some]
          cases Markup.stringValue? value <;> rfl
      | .named (.namespaced _ _) _ => cases named
      | .spread _ => cases named

/-- Everyone else looks at the first string under the name. -/
theorem identifierIn?_eq (as : List (Attribute Tree)) :
    Markup.identifierIn? name as = (readings name as).findSome? id := by
  induction as with
  | nil => rfl
  | cons a as ih =>
      rw [readings_cons, Markup.identifierIn?, List.findSome?_cons]
      cases named : Markup.isNamed name a with
      | true =>
          rw [if_pos rfl, List.findSome?_cons, ← ih]
          rfl
      | false =>
          rw [stringOf?_eq_none name named]
          exact ih

theorem keptIdentifier?_congr {as bs : List (Attribute Tree)} (same : readings name as = readings name bs)
    (taken : List String) : keptIdentifier? name taken as = keptIdentifier? name taken bs := by
  rw [keptIdentifier?_eq, keptIdentifier?_eq, same]

theorem identifierIn?_congr {as bs : List (Attribute Tree)} (same : readings name as = readings name bs) :
    Markup.identifierIn? name as = Markup.identifierIn? name bs := by
  rw [identifierIn?_eq, identifierIn?_eq, same]

/-- What is taken stands in the way of that identifier alone. -/
theorem keptIdentifier?_eq_some_iff {taken : List String} {as : List (Attribute Tree)} {uid : String} :
    keptIdentifier? name taken as = some uid ↔ keptIdentifier? name [] as = some uid ∧ uid ∉ taken := by
  simp only [keptIdentifier?_eq, Option.bind_eq_some_iff, List.not_mem_nil, or_false,
    Option.ite_none_left_eq_some, Option.some.injEq, not_or]
  constructor
  · rintro ⟨shown, string, ⟨nonempty, free⟩, rfl⟩
    exact ⟨⟨shown, string, nonempty, rfl⟩, free⟩
  · rintro ⟨⟨shown, string, nonempty, rfl⟩, free⟩
    exact ⟨shown, string, ⟨nonempty, free⟩, rfl⟩

theorem stringValue?_bare (v : Option Tree) : Markup.stringValue? (bareOption v) = Markup.stringValue? v := by
  match v with
  | none => rfl
  | some (.element ⟨_, _, _, _, _, _, _⟩) => rfl
  | some (.node kind parts) =>
      cases kind with
      | container =>
          match parts with
          | [] => rfl
          | [.element ⟨_, _, _, _, _, _, _⟩] => rfl
          | [.node inner _] => cases inner <;> rfl
          | .element ⟨_, _, _, _, _, _, _⟩ :: _ :: _ => rfl
          | .node inner _ :: _ :: _ => cases inner <;> rfl
      | _ => rfl

theorem stringOf?_bareIn (a : Attribute Tree) :
    Markup.stringOf? name (bareIn a) = Markup.stringOf? name a := by
  match a with
  | .named (.plain _) value => simp only [bareIn, Markup.stringOf?, stringValue?_bare]
  | .named (.namespaced _ _) _ => rfl
  | .spread _ => rfl

theorem readings_bare (as : List (Attribute Tree)) :
    readings name (bareAttributes as) = readings name as := by
  induction as with
  | nil => rfl
  | cons a as ih => rw [bareAttributes, readings_cons, readings_cons, isNamed_bareIn, stringOf?_bareIn, ih]

theorem isNamed_identifierAttribute (uid : String) :
    Markup.isNamed name (Markup.identifierAttribute name uid) = true := beq_self_eq_true name

theorem isNamed_identifyIn (around : Option Nat) (a : Attribute Tree) (w : Walk) :
    Markup.isNamed name (identifyIn supply name around a w).1 = Markup.isNamed name a := by
  match a with
  | .named (.plain _) _ => rfl
  | .named (.namespaced _ _) _ => rfl
  | .spread _ => rfl

theorem readings_identifyAttributes (around : Option Nat) (as : List (Attribute Tree)) (w : Walk) :
    readings name (identifyAttributes supply name around none as w).1 = readings name as := by
  induction as generalizing w with
  | nil => rfl
  | cons a as ih =>
      simp only [identifyAttributes, readings_cons, isNamed_identifyIn, stringOf?_identifyIn, ih]

end LiveMarkup.Syntax

namespace LiveMarkup.Markup

open LiveMarkup.Syntax

/-- The first attribute of the name holds a string that is not empty. -/
def Settled (name : String) (e : Markup) : Prop := ∃ uid, keptIdentifier? name [] e.attributes = some uid

end LiveMarkup.Markup

namespace LiveMarkup.Syntax

open LiveMarkup.Markup (Settled)

variable {supply : Supply} {name : String}

/-! ## Walks among settled elements -/

/-- The walk through an element, behind its opening tag. -/
theorem Tree.identify_element (e : Markup) (around : Option Nat) (w : Walk) :
    (Tree.element e).identify supply name around w =
      let chosen := chooseIdentifier supply name e.attributes w
      let here := some chosen.2.2.arena.size
      let as := identifyAttributes supply name here chosen.2.1 e.attributes
        (w.enter supply name around e.attributes e)
      let ts := identifyOption supply name here e.typeArguments as.2
      let cs := identifyOf supply name here e.children ts.2
      (.element { e with attributes := as.1, typeArguments := ts.1, children := cs.1 }, cs.2) := by
  obtain ⟨tagName, attributes, typeArguments, selfClosing, children, closing, lines⟩ := e
  rfl

/-- A walk has met some elements, each with the identifier it shows. -/
def Walk.Passed (name : String) (w : Walk) (es : List Markup) (w' : Walk) : Prop :=
  w'.arena.uids.map some = w.arena.uids.map some ++ es.map (Markup.identifier? name)

/-- Elements that a walk will leave as they are: they are settled, and their identifiers
differ from each other and from all that the walk has met. -/
structure Walk.Free (name : String) (w : Walk) (es : List Markup) : Prop where
  settled : ∀ e ∈ es, e.Settled name
  distinct : (w.arena.uids.map some ++ es.map (Markup.identifier? name)).Nodup

theorem Visits.passed {around : Option Nat} {w w' : Walk} {es : List Markup}
    (visits : Visits supply name around w es w') : w.Passed name es w' := by
  obtain ⟨uids, grown, shown, -⟩ := visits.uids
  rw [Walk.Passed, grown, List.map_append, shown]

theorem Walk.Passed.append {w w' w'' : Walk} {es fs : List Markup} (first : w.Passed name es w')
    (second : w'.Passed name fs w'') : w.Passed name (es ++ fs) w'' := by
  rw [Walk.Passed, second, first, List.map_append, List.append_assoc]

theorem Walk.Free.append {w : Walk} {es fs : List Markup} (free : w.Free name (es ++ fs)) :
    w.Free name es ∧ ∀ {w' : Walk}, w.Passed name es w' → w'.Free name fs := by
  obtain ⟨settled, distinct⟩ := free
  rw [List.map_append, ← List.append_assoc] at distinct
  refine ⟨⟨fun e member => settled e (List.mem_append_left _ member), (List.nodup_append.mp distinct).1⟩,
    fun passed => ⟨fun e member => settled e (List.mem_append_right _ member), ?_⟩⟩
  rwa [passed]

theorem Walk.Free.tail {w w' : Walk} {e : Markup} {es : List Markup} (free : w.Free name (e :: es))
    (passed : w.Passed name [e] w') : w'.Free name es := by
  rw [← List.singleton_append] at free
  exact free.append.2 passed

/-- A settled element whose identifier is free keeps it. -/
theorem Walk.Free.choose (supply : Supply) {w : Walk} {e : Markup} {es : List Markup}
    (free : w.Free name (e :: es)) :
    ∃ uid, e.identifier? name = some uid ∧ chooseIdentifier supply name e.attributes w = (uid, none, w) := by
  obtain ⟨uid, kept⟩ := free.settled e List.mem_cons_self
  obtain ⟨shown, -, -⟩ := keptIdentifier?_eq_some name kept
  have untaken : uid ∉ w.arena.uids := by
    intro taken
    have apart := (List.nodup_append.mp free.distinct).2.2 (some uid) (List.mem_map_of_mem taken)
      (e.identifier? name) List.mem_cons_self
    exact apart shown.symm
  refine ⟨uid, shown, ?_⟩
  simp only [chooseIdentifier, keptIdentifier?_eq_some_iff.mpr ⟨kept, untaken⟩]

theorem Walk.passed_enter {w : Walk} {e : Markup} {uid : String} {given : List (Attribute Tree)}
    (around : Option Nat) (e' : Markup) (shown : e.identifier? name = some uid)
    (chosen : chooseIdentifier supply name given w = (uid, none, w)) :
    w.Passed name [e] (w.enter supply name around given e') := by
  simp [Walk.Passed, Walk.enter_uids, chosen, shown]

variable (supply)

mutual

/-- A walk leaves a tree of free elements as it is. -/
theorem Tree.identify_free : ∀ (t : Tree) (around : Option Nat) (w : Walk), w.Free name t.elements →
    (t.identify supply name around w).1 = t ∧
      w.Passed name t.elements (t.identify supply name around w).2
  | .node kind parts, around, w, free => by
      rw [Tree.elements] at free ⊢
      obtain ⟨same, passed⟩ := identifyOf_free parts around w free
      exact ⟨by simp only [Tree.identify, same], passed⟩
  | .element ⟨tagName, attributes, typeArguments, selfClosing, children, closing, lines⟩,
      around, w, free => by
      rw [Tree.elements] at free ⊢
      obtain ⟨uid, shown, chosen⟩ := free.choose supply
      have entered := Walk.passed_enter around
        ⟨tagName, attributes, typeArguments, selfClosing, children, closing, lines⟩ shown chosen
      obtain ⟨front, back⟩ := (free.tail entered).append
      obtain ⟨sameA, passedA⟩ := identifyAttributes_free attributes (some w.arena.size) _ front.append.1
      obtain ⟨sameT, passedT⟩ :=
        identifyOption_free typeArguments (some w.arena.size) _ (front.append.2 passedA)
      obtain ⟨sameC, passedC⟩ :=
        identifyOf_free children (some w.arena.size) _ (back (passedA.append passedT))
      simp only [Tree.identify_element, chosen, sameA, sameT, sameC, true_and]
      exact entered.append ((passedA.append passedT).append passedC)

theorem identifyOf_free : ∀ (ts : List Tree) (around : Option Nat) (w : Walk),
    w.Free name (elementsOf ts) →
    (identifyOf supply name around ts w).1 = ts ∧
      w.Passed name (elementsOf ts) (identifyOf supply name around ts w).2
  | [], _, _, _ => ⟨rfl, (List.append_nil _).symm⟩
  | t :: ts, around, w, free => by
      obtain ⟨same, passed⟩ := t.identify_free around w free.append.1
      obtain ⟨sameRest, passedRest⟩ := identifyOf_free ts around _ (free.append.2 passed)
      exact ⟨by simp only [identifyOf, same, sameRest], passed.append passedRest⟩

theorem identifyAttributes_free : ∀ (as : List (Attribute Tree)) (around : Option Nat) (w : Walk),
    w.Free name (attributeElements as) →
    (identifyAttributes supply name around none as w).1 = as ∧
      w.Passed name (attributeElements as) (identifyAttributes supply name around none as w).2
  | [], _, _, _ => ⟨rfl, (List.append_nil _).symm⟩
  | a :: as, around, w, free => by
      obtain ⟨same, passed⟩ := identifyIn_free a around w free.append.1
      obtain ⟨sameRest, passedRest⟩ := identifyAttributes_free as around _ (free.append.2 passed)
      exact ⟨by simp only [identifyAttributes, same, sameRest], passed.append passedRest⟩

theorem identifyIn_free : ∀ (a : Attribute Tree) (around : Option Nat) (w : Walk),
    w.Free name (attributeElementsOf a) →
    (identifyIn supply name around a w).1 = a ∧
      w.Passed name (attributeElementsOf a) (identifyIn supply name around a w).2
  | .named n value, around, w, free => by
      obtain ⟨same, passed⟩ := identifyOption_free value around w free
      exact ⟨by simp only [identifyIn, same], passed⟩
  | .spread value, around, w, free => by
      obtain ⟨same, passed⟩ := value.identify_free around w free
      exact ⟨by simp only [identifyIn, same], passed⟩

theorem identifyOption_free : ∀ (t : Option Tree) (around : Option Nat) (w : Walk),
    w.Free name (optionElements t) →
    (identifyOption supply name around t w).1 = t ∧
      w.Passed name (optionElements t) (identifyOption supply name around t w).2
  | none, _, _, _ => ⟨rfl, (List.append_nil _).symm⟩
  | some t, around, w, free => by
      obtain ⟨same, passed⟩ := t.identify_free around w free
      exact ⟨by simp only [identifyOption, same], passed⟩

end

variable (name)

/-- A walk leaves the attributes, the type arguments and the children of an element as they are. -/
theorem identifyInside_free (as : List (Attribute Tree)) (t : Option Tree) (ts : List Tree)
    (around : Option Nat) (w : Walk)
    (free : w.Free name (attributeElements as ++ optionElements t ++ elementsOf ts)) :
    let rA := identifyAttributes supply name around none as w
    let rT := identifyOption supply name around t rA.2
    rA.1 = as ∧ rT.1 = t ∧ (identifyOf supply name around ts rT.2).1 = ts := by
  obtain ⟨front, back⟩ := free.append
  obtain ⟨sameA, passedA⟩ := identifyAttributes_free supply as around w front.append.1
  obtain ⟨sameT, passedT⟩ := identifyOption_free supply t around _ (front.append.2 passedA)
  obtain ⟨sameC, -⟩ := identifyOf_free supply ts around _ (back (passedA.append passedT))
  exact ⟨sameA, sameT, sameC⟩

/-! ## Identified trees are settled -/

theorem head_readings_identifyAttributes (around : Option Nat) (uid : String) :
    ∀ (as : List (Attribute Tree)) (w : Walk),
      (readings name (identifyAttributes supply name around (some uid) as w).1).head? = some (some uid)
  | [], _ => by
      simp [identifyAttributes, readings_cons, isNamed_identifierAttribute,
        Markup.stringOf?_identifierAttribute]
  | a :: as, w => by
      simp only [identifyAttributes]
      cases named : Markup.isNamed name a with
      | true =>
          simp [readings_cons, isNamed_identifierAttribute, Markup.stringOf?_identifierAttribute]
      | false =>
          simpa only [Bool.false_eq_true, if_false, readings_cons, isNamed_identifyIn, named] using
            head_readings_identifyAttributes around uid as _

/-- Behind a walk the attributes of an element hold the identifier that was chosen for it. -/
theorem keptIdentifier?_identifyAttributes (given : List (Attribute Tree)) (w : Walk)
    (around : Option Nat) (w' : Walk) :
    keptIdentifier? name []
        (identifyAttributes supply name around (chooseIdentifier supply name given w).2.1 given w').1 =
      some (chooseIdentifier supply name given w).1 := by
  unfold chooseIdentifier
  split
  · rename_i uid kept
    rw [keptIdentifier?_congr (readings_identifyAttributes supply around given w')]
    exact (keptIdentifier?_eq_some_iff.mp kept).1
  · have nonempty := supply.fresh_ne_empty w.arena.uids w.next
    simp [keptIdentifier?_eq, head_readings_identifyAttributes, nonempty]

mutual

theorem Tree.identify_settled : ∀ (t : Tree) (around : Option Nat) (w : Walk),
    ∀ e ∈ (t.identify supply name around w).1.elements, e.Settled name
  | .node kind parts, around, w => by
      simpa only [Tree.identify, Tree.elements] using identifyOf_settled parts around w
  | .element ⟨tagName, attributes, typeArguments, selfClosing, children, closing, lines⟩, around, w => by
      simp only [Tree.identify, Tree.elements, List.forall_mem_cons, List.forall_mem_append]
      exact ⟨⟨_, keptIdentifier?_identifyAttributes supply name attributes w _ _⟩,
        ⟨identifyAttributes_settled attributes _ _ _, identifyOption_settled typeArguments _ _⟩,
        identifyOf_settled children _ _⟩

theorem identifyOf_settled : ∀ (ts : List Tree) (around : Option Nat) (w : Walk),
    ∀ e ∈ elementsOf (identifyOf supply name around ts w).1, e.Settled name
  | [], _, _ => by simp [identifyOf, elementsOf]
  | t :: ts, around, w =>
      List.forall_mem_append.mpr ⟨t.identify_settled around w, identifyOf_settled ts around _⟩

theorem identifyAttributes_settled :
    ∀ (as : List (Attribute Tree)) (around : Option Nat) (new : Option String) (w : Walk),
      ∀ e ∈ attributeElements (identifyAttributes supply name around new as w).1, e.Settled name
  | [], _, none, _ => by simp [identifyAttributes, attributeElements]
  | [], _, some _, _ => by
      simp [identifyAttributes, attributeElements, attributeElementsOf, Markup.identifierAttribute,
        optionElements, Tree.leaf, Tree.elements, elementsOf]
  | a :: as, around, none, w =>
      List.forall_mem_append.mpr
        ⟨identifyIn_settled a around w, identifyAttributes_settled as around none _⟩
  | a :: as, around, some uid, w => by
      simp only [identifyAttributes]
      split
      · exact identifyAttributes_settled as around none w
      · exact List.forall_mem_append.mpr
          ⟨identifyIn_settled a around w, identifyAttributes_settled as around (some uid) _⟩

theorem identifyIn_settled : ∀ (a : Attribute Tree) (around : Option Nat) (w : Walk),
    ∀ e ∈ attributeElementsOf (identifyIn supply name around a w).1, e.Settled name
  | .named _ value, around, w => identifyOption_settled value around w
  | .spread value, around, w => value.identify_settled around w

theorem identifyOption_settled : ∀ (t : Option Tree) (around : Option Nat) (w : Walk),
    ∀ e ∈ optionElements (identifyOption supply name around t w).1, e.Settled name
  | none, _, _ => by simp [identifyOption, optionElements]
  | some t, around, w => t.identify_settled around w

end

/-- Every element of an identified module is settled. -/
theorem Module.identify_settled (m : Module) (next : Nat) :
    ∀ e ∈ (m.identify supply name next).content.elements, e.Settled name :=
  identifyOf_settled supply name m.items none _

/-- A walk that has met nothing yet. -/
theorem Walk.free_start {es : List Markup} (settled : ∀ e ∈ es, e.Settled name)
    (distinct : (es.map (Markup.identifier? name)).Nodup) (next : Nat) :
    Walk.Free name ⟨.empty, [], next⟩ es :=
  ⟨settled, by simpa only [Arena.empty, Arena.uids, List.map_nil, List.nil_append] using distinct⟩

/-! ## Places do not matter -/

/-- A walk that did not note lines. -/
def Walk.bare (w : Walk) : Walk :=
  { w with arena := ⟨w.arena.nodes.map fun n => { n with lines := none }, w.arena.positions⟩ }

@[simp] theorem Walk.bare_uids (w : Walk) : w.bare.arena.uids = w.arena.uids := by
  simp [Walk.bare, Arena.uids]

@[simp] theorem Walk.bare_size (w : Walk) : w.bare.arena.size = w.arena.size := by
  simp [Walk.bare, Arena.size]

theorem chooseIdentifier_bare (as : List (Attribute Tree)) (w : Walk) :
    chooseIdentifier supply name (bareAttributes as) w.bare =
      ((chooseIdentifier supply name as w).1, (chooseIdentifier supply name as w).2.1,
        (chooseIdentifier supply name as w).2.2.bare) := by
  simp only [chooseIdentifier, Walk.bare_uids, keptIdentifier?_congr (readings_bare as)]
  cases keptIdentifier? name w.arena.uids as <;> rfl

/-- Links do not depend on lines. -/
theorem link_bare (nodes : List ArenaNode) (parent : Option Nat) (child : Nat) :
    Arena.link (nodes.map fun n => { n with lines := none }) parent child =
      (Arena.link nodes parent child).map fun n => { n with lines := none } := by
  cases parent with
  | none => rfl
  | some p =>
      refine List.ext_getElem? fun i => ?_
      simp only [Arena.link, List.getElem?_map, List.getElem?_modify]
      cases nodes[i]? with
      | none => rfl
      | some n =>
          simp only [Option.map_eq_map, Option.map_some]
          split <;> rfl

theorem Walk.enter_bare (w : Walk) (around : Option Nat) (e : Markup) :
    w.bare.enter supply name around e.bare.attributes e.bare =
      (w.enter supply name around e.attributes e).bare := by
  simp only [Walk.enter, Markup.bare, chooseIdentifier_bare]
  simp [Walk.bare, Arena.push, Arena.size, link_bare, Markup.tag, Markup.isComponent]

mutual

theorem Tree.identify_bare : ∀ (t : Tree) (around : Option Nat) (w : Walk),
    t.bare.identify supply name around w.bare =
      ((t.identify supply name around w).1.bare, (t.identify supply name around w).2.bare)
  | .node kind parts, around, w => by
      simp only [Tree.bare, Tree.identify, identifyOf_bare parts around w]
  | .element ⟨tagName, attributes, typeArguments, selfClosing, children, closing, lines⟩, around, w => by
      have entered := Walk.enter_bare supply name w around
        ⟨tagName, attributes, typeArguments, selfClosing, children, closing, lines⟩
      simp only [Markup.bare] at entered
      simp only [Tree.bare, Tree.identify_element, chooseIdentifier_bare, Walk.bare_size, entered,
        identifyAttributes_bare attributes, identifyOption_bare typeArguments, identifyOf_bare children]

theorem identifyOf_bare : ∀ (ts : List Tree) (around : Option Nat) (w : Walk),
    identifyOf supply name around (bareOf ts) w.bare =
      (bareOf (identifyOf supply name around ts w).1, (identifyOf supply name around ts w).2.bare)
  | [], _, _ => rfl
  | t :: ts, around, w => by
      simp only [bareOf, identifyOf, t.identify_bare, identifyOf_bare ts]

theorem identifyAttributes_bare :
    ∀ (as : List (Attribute Tree)) (around : Option Nat) (new : Option String) (w : Walk),
      identifyAttributes supply name around new (bareAttributes as) w.bare =
        (bareAttributes (identifyAttributes supply name around new as w).1,
          (identifyAttributes supply name around new as w).2.bare)
  | [], _, none, _ => rfl
  | [], _, some _, _ => rfl
  | a :: as, around, none, w => by
      simp only [bareAttributes, identifyAttributes, identifyIn_bare a, identifyAttributes_bare as]
  | a :: as, around, some uid, w => by
      simp only [bareAttributes, identifyAttributes, isNamed_bareIn]
      split
      · simp only [identifyAttributes_bare as]
        rfl
      · simp only [identifyIn_bare a, identifyAttributes_bare as]
        rfl

theorem identifyIn_bare : ∀ (a : Attribute Tree) (around : Option Nat) (w : Walk),
    identifyIn supply name around (bareIn a) w.bare =
      (bareIn (identifyIn supply name around a w).1, (identifyIn supply name around a w).2.bare)
  | .named _ value, around, w => by simp only [bareIn, identifyIn, identifyOption_bare value]
  | .spread value, around, w => by simp only [bareIn, identifyIn, value.identify_bare]

theorem identifyOption_bare : ∀ (t : Option Tree) (around : Option Nat) (w : Walk),
    identifyOption supply name around (bareOption t) w.bare =
      (bareOption (identifyOption supply name around t w).1, (identifyOption supply name around t w).2.bare)
  | none, _, _ => rfl
  | some t, around, w => by simp only [bareOption, identifyOption, t.identify_bare]

end

/-- The identified bare module is the bare identified module. -/
theorem Module.identify_bare (m : Module) (next : Nat) :
    (m.bare.identify supply name next).content = (m.identify supply name next).content.bare :=
  congrArg (fun r : List Tree × Walk => (⟨m.interpreter, r.1, none⟩ : Module))
    (identifyOf_bare supply name m.items none ⟨.empty, [], next⟩)

end LiveMarkup.Syntax
