import LiveMarkup.Proofs.Markup.Place
/-
# LiveMarkup.Proofs.Markup.Surroundings -- trees with a hole in the place of an element

`Surroundings` are a tree that lacks one element, and a `Spot` is a module that does.  Filling it
with different elements gives trees that are the same everywhere else, so two trees that are
fillings of the same surroundings differ in that one element only.  The elements around the hole change
with what it is filled with, but they keep their identifiers (`Surroundings.identifiers_ahead`):
an identifier is a string, and a string has no room for a hole.

Every element has surroundings, and what opens ahead of it there is what comes before it in
the list of elements (`Tree.exists_surroundings`, `Surroundings.elements_fill`).
-/

namespace LiveMarkup.Syntax

set_option autoImplicit false

/-- An attribute of that name, or spread properties, with a tree as the value. -/
def Attribute.holding : Option AttributeName → Tree → Attribute Tree
  | some name, t => .named name (some t)
  | none, t => .spread t

/-- A tree with a hole in the place of an element.  What is said of an element around the hole
leaves open the part in which the hole is. -/
inductive Surroundings where
  | hole
  | part (kind : Kind) (before : List Tree) (inside : Surroundings) (after : List Tree)
  | value (e : Markup) (before : List (Attribute Tree)) (slot : Option AttributeName) (inside : Surroundings)
      (after : List (Attribute Tree))
  | typeArguments (e : Markup) (inside : Surroundings)
  | child (e : Markup) (before : List Tree) (inside : Surroundings) (after : List Tree)

namespace Surroundings

/-- The tree with an element in the hole. -/
def fill : Surroundings → Markup → Tree
  | hole, x => .element x
  | part kind before inside after, x => .node kind (before ++ inside.fill x :: after)
  | value e before slot inside after, x =>
      .element { e with attributes := before ++ .holding slot (inside.fill x) :: after }
  | typeArguments e inside, x => .element { e with typeArguments := some (inside.fill x) }
  | child e before inside after, x => .element { e with children := before ++ inside.fill x :: after }

/-- The elements whose tags open ahead of the hole. -/
def ahead : Surroundings → Markup → List Markup
  | hole, _ => []
  | part _ before inside _, x => elementsOf before ++ inside.ahead x
  | value e before slot inside after, x =>
      { e with attributes := before ++ .holding slot (inside.fill x) :: after } ::
        (attributeElements before ++ inside.ahead x)
  | typeArguments e inside, x =>
      { e with typeArguments := some (inside.fill x) } :: (attributeElements e.attributes ++ inside.ahead x)
  | child e before inside after, x =>
      { e with children := before ++ inside.fill x :: after } ::
        (attributeElements e.attributes ++ optionElements e.typeArguments ++ elementsOf before ++ inside.ahead x)

/-- The elements whose tags open behind the hole. -/
def behind : Surroundings → List Markup
  | hole => []
  | part _ _ inside after => inside.behind ++ elementsOf after
  | value e _ _ inside after =>
      inside.behind ++ attributeElements after ++ optionElements e.typeArguments ++ elementsOf e.children
  | typeArguments e inside => inside.behind ++ elementsOf e.children
  | child _ _ inside after => inside.behind ++ elementsOf after

end Surroundings

theorem elementsOf_append (ts us : List Tree) : elementsOf (ts ++ us) = elementsOf ts ++ elementsOf us := by
  induction ts with
  | nil => rfl
  | cons t ts ih => simp only [List.cons_append, elementsOf, ih, List.append_assoc]

theorem attributeElementsOf_holding (slot : Option AttributeName) (t : Tree) :
    attributeElementsOf (.holding slot t) = t.elements := by
  cases slot <;> rfl

/-- The elements of filled surroundings: those ahead of the hole, those that fill it, those behind it. -/
theorem Surroundings.elements_fill (c : Surroundings) (x : Markup) :
    (c.fill x).elements = c.ahead x ++ (Tree.element x).elements ++ c.behind := by
  induction c with
  | hole => simp only [fill, ahead, behind, List.nil_append, List.append_nil]
  | part kind before inside after ih =>
      simp only [fill, ahead, behind, Tree.elements, elementsOf_append, elementsOf, ih, List.append_assoc]
  | value e before slot inside after ih =>
      simp only [fill, ahead, behind, Tree.elements_element, attributeElements_append, attributeElements,
        attributeElementsOf_holding, ih, List.append_assoc, List.cons_append]
  | typeArguments e inside ih =>
      simp only [fill, ahead, behind, Tree.elements_element, optionElements, ih, List.append_assoc,
        List.cons_append]
  | child e before inside after ih =>
      simp only [fill, ahead, behind, Tree.elements_element, elementsOf_append, elementsOf, ih,
        List.append_assoc, List.cons_append]

/-! ## Identifiers around a hole -/

/-- What a hole is filled with does not show in the kinds around it. -/
theorem Surroundings.kind?_fill (c : Surroundings) (x y : Markup) : (c.fill x).kind? = (c.fill y).kind? := by
  cases c <;> rfl

theorem Surroundings.kinds_fill (c : Surroundings) (x y : Markup) :
    (c.fill x).parts.map Tree.kind? = (c.fill y).parts.map Tree.kind? := by
  cases c with
  | part kind before inside after =>
      simp only [fill, Tree.parts, List.map_append, List.map_cons, inside.kind?_fill x y]
  | hole => rfl
  | value => rfl
  | typeArguments => rfl
  | child => rfl

variable {name uid : String}

theorem Surroundings.stringOf?_holding (name : String) (c : Surroundings) (slot : Option AttributeName)
    (x y : Markup) :
    Markup.stringOf? name (.holding slot (c.fill x)) = Markup.stringOf? name (.holding slot (c.fill y)) := by
  match slot with
  | none => rfl
  | some (.namespaced _ _) => rfl
  | some (.plain n) =>
      have same := stringValue?_congr (c.kind?_fill x y) (c.kinds_fill x y)
      simp only [Attribute.holding, Markup.stringOf?, same]

/-- The elements around a hole, and all others ahead of it, have their identifiers whatever it is
filled with. -/
theorem Surroundings.identifiers_ahead (c : Surroundings) (x y : Markup) :
    (c.ahead x).map (Markup.identifier? name) = (c.ahead y).map (Markup.identifier? name) := by
  induction c with
  | hole => rfl
  | part kind before inside after ih => simp only [ahead, List.map_append, ih]
  | value e before slot inside after ih =>
      have same := inside.stringOf?_holding name slot x y
      simp only [ahead, List.map_cons, List.map_append, ih, Markup.identifier?, Markup.identifierIn?,
        List.findSome?_append, List.findSome?_cons, same]
  | typeArguments e inside ih => simp only [ahead, List.map_cons, List.map_append, ih, Markup.identifier?]
  | child e before inside after ih =>
      simp only [ahead, List.map_cons, List.map_append, ih, Markup.identifier?]

/-! ## Every element has surroundings -/

/-- No element of a list carries an identifier. -/
theorem carries_of_identifiers {es es' : List Markup}
    (same : es.map (Markup.identifier? name) = es'.map (Markup.identifier? name))
    (none : ∀ e ∈ es, e.carries name uid = false) : ∀ e ∈ es', e.carries name uid = false := by
  intro e' member
  have listed := same ▸ List.mem_map_of_mem (f := Markup.identifier? name) member
  obtain ⟨e, there, equal⟩ := List.mem_map.mp listed
  rw [Markup.carries, ← equal]
  exact none e there

variable {p : Markup → Bool} {e : Markup}

/-- The first of two lists has the first element that passes, or else the second has it and the
first has none. -/
theorem find?_append_cases {es fs : List Markup} (found : (es ++ fs).find? p = some e) :
    es.find? p = some e ∨ (∀ x ∈ es, p x = false) ∧ fs.find? p = some e := by
  rw [List.find?_append, Option.or_eq_some_iff] at found
  refine found.imp_right fun later => ⟨?_, later.2⟩
  simpa using List.find?_eq_none.mp later.1

mutual

/-- The first element that passes has surroundings, and none passes ahead of it. -/
theorem Tree.exists_surroundings : ∀ t : Tree, t.elements.find? p = some e →
    ∃ c : Surroundings, c.fill e = t ∧ ∀ x ∈ c.ahead e, p x = false
  | .node kind parts, found => by
      obtain ⟨before, c, after, rfl, first⟩ := exists_surroundingsOf parts found
      exact ⟨.part kind before c after, rfl, first⟩
  | .element ⟨name, attributes, typeArguments, selfClosing, children, closing, lines⟩, found => by
      rw [Tree.elements, List.find?_cons] at found
      split at found
      · obtain rfl := Option.some.inj found
        exact ⟨.hole, rfl, nofun⟩
      · rename_i refused
        let x : Markup := ⟨name, attributes, typeArguments, selfClosing, children, closing, lines⟩
        rcases find?_append_cases found with front | ⟨noneFront, found⟩
        · rcases find?_append_cases front with found | ⟨noneAttributes, found⟩
          · obtain ⟨before, slot, c, after, rfl, first⟩ := exists_surroundingsAttributes attributes found
            exact ⟨.value x before slot c after, rfl, List.forall_mem_cons.mpr ⟨refused, first⟩⟩
          · obtain ⟨c, rfl, first⟩ := exists_surroundingsOption typeArguments found
            exact ⟨.typeArguments x c, rfl, List.forall_mem_cons.mpr
              ⟨refused, List.forall_mem_append.mpr ⟨noneAttributes, first⟩⟩⟩
        · obtain ⟨before, c, after, rfl, first⟩ := exists_surroundingsOf children found
          refine ⟨.child x before c after, rfl, List.forall_mem_cons.mpr ⟨refused, ?_⟩⟩
          rw [List.append_assoc]
          exact List.forall_mem_append.mpr ⟨noneFront, first⟩

theorem exists_surroundingsOf : ∀ ts : List Tree, (elementsOf ts).find? p = some e →
    ∃ before c after, ts = before ++ Surroundings.fill c e :: after ∧
      ∀ x ∈ elementsOf before ++ c.ahead e, p x = false
  | [], found => by cases found
  | t :: ts, found => by
      rcases find?_append_cases found with here | ⟨none, later⟩
      · obtain ⟨c, rfl, first⟩ := t.exists_surroundings here
        exact ⟨[], c, ts, rfl, first⟩
      · obtain ⟨before, c, after, rfl, first⟩ := exists_surroundingsOf ts later
        refine ⟨t :: before, c, after, rfl, ?_⟩
        rw [elementsOf, List.append_assoc]
        exact List.forall_mem_append.mpr ⟨none, first⟩

theorem exists_surroundingsAttributes : ∀ as : List (Attribute Tree), (attributeElements as).find? p = some e →
    ∃ before slot c after, as = before ++ .holding slot (Surroundings.fill c e) :: after ∧
      ∀ x ∈ attributeElements before ++ c.ahead e, p x = false
  | [], found => by cases found
  | a :: as, found => by
      rcases find?_append_cases found with here | ⟨none, later⟩
      · obtain ⟨slot, c, rfl, first⟩ := exists_surroundingsIn a here
        exact ⟨[], slot, c, as, rfl, first⟩
      · obtain ⟨before, slot, c, after, rfl, first⟩ := exists_surroundingsAttributes as later
        refine ⟨a :: before, slot, c, after, rfl, ?_⟩
        rw [attributeElements, List.append_assoc]
        exact List.forall_mem_append.mpr ⟨none, first⟩

theorem exists_surroundingsIn : ∀ a : Attribute Tree, (attributeElementsOf a).find? p = some e →
    ∃ slot c, a = .holding slot (Surroundings.fill c e) ∧ ∀ x ∈ c.ahead e, p x = false
  | .named name value, found => by
      obtain ⟨c, rfl, first⟩ := exists_surroundingsOption value found
      exact ⟨some name, c, rfl, first⟩
  | .spread value, found => by
      obtain ⟨c, rfl, first⟩ := value.exists_surroundings found
      exact ⟨none, c, rfl, first⟩

theorem exists_surroundingsOption : ∀ t : Option Tree, (optionElements t).find? p = some e →
    ∃ c : Surroundings, t = some (c.fill e) ∧ ∀ x ∈ c.ahead e, p x = false
  | none, found => by cases found
  | some t, found => by
      obtain ⟨c, rfl, first⟩ := t.exists_surroundings found
      exact ⟨c, rfl, first⟩

end

/-! ## Modules -/

/-- A module with a hole in the place of an element. -/
structure Spot where
  interpreter : Option String
  before : List Tree
  inside : Surroundings
  after : List Tree
  lines : Option LineRange

namespace Spot

/-- The module with an element in the hole. -/
def fill (s : Spot) (x : Markup) : Module :=
  ⟨s.interpreter, s.before ++ s.inside.fill x :: s.after, s.lines⟩

/-- The elements whose tags open ahead of the hole. -/
def ahead (s : Spot) (x : Markup) : List Markup := elementsOf s.before ++ s.inside.ahead x

/-- The elements whose tags open behind the hole. -/
def behind (s : Spot) : List Markup := s.inside.behind ++ elementsOf s.after

theorem elements_fill (s : Spot) (x : Markup) :
    (s.fill x).elements = s.ahead x ++ (Tree.element x).elements ++ s.behind := by
  simp only [Module.elements, fill, ahead, behind, elementsOf_append, elementsOf, s.inside.elements_fill x,
    List.append_assoc]

/-- Nothing ahead of a hole carries an identifier, whatever the hole is filled with. -/
theorem ahead_carries (s : Spot) {x : Markup} (none : ∀ e ∈ s.ahead x, e.carries name uid = false)
    (y : Markup) : ∀ e ∈ s.ahead y, e.carries name uid = false := by
  refine carries_of_identifiers ?_ none
  simp only [ahead, List.map_append, s.inside.identifiers_ahead x y]

end Spot

/-- The element that is found stands in a spot, and no element ahead of it carries the identifier. -/
theorem Module.exists_spot {m : Module} (found : m.find? name uid = some e) :
    ∃ s : Spot, s.fill e = m ∧ ∀ x ∈ s.ahead e, x.carries name uid = false := by
  obtain ⟨interpreter, items, lines⟩ := m
  obtain ⟨before, c, after, rfl, first⟩ := exists_surroundingsOf items found
  exact ⟨⟨interpreter, before, c, after, lines⟩, rfl, first⟩

end LiveMarkup.Syntax
