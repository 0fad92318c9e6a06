import LiveMarkup.Proofs.Markup.Reidentification
/-
# LiveMarkup.Proofs.Markup.Idempotence -- a second identification finds nothing to do

What identification left behind is walked again, perhaps with another supply.  The second
walk need not stand where the first one stood: what counts of it is the arena, and
`Walk.moved` puts the arena of the first walk into it.  From there the second walk keeps
pace with the first (`Tree.identify_again`): at each element it finds the identifier that
the first walk chose, untaken, so it enters the same node and draws nothing.

`Module.identify_identified` is that for whole modules: the same tree, the same arena,
no identifier made, and the supply where it was.
-/

namespace LiveMarkup.Syntax

set_option autoImplicit false

/-- A walk with another arena behind it. -/
def Walk.moved (w : Walk) (arena : Arena) : Walk := { w with arena := arena }

@[simp] theorem Walk.moved_arena (w : Walk) (arena : Arena) : (w.moved arena).arena = arena := rfl

variable (supply supply' : Supply) (name : String)

theorem chooseIdentifier_arena (given : List (Attribute Tree)) (w : Walk) :
    (chooseIdentifier supply name given w).2.2.arena = w.arena :=
  (chooseIdentifier_spec supply name given w).2.2.1

/-- An element that was given an identifier keeps it. -/
theorem chooseIdentifier_again (given : List (Attribute Tree)) (around : Option Nat) (w v w' : Walk) :
    chooseIdentifier supply' name
        (identifyAttributes supply name around (chooseIdentifier supply name given w).2.1 given v).1
        (w'.moved w.arena) =
      ((chooseIdentifier supply name given w).1, none, w'.moved w.arena) := by
  obtain ⟨-, free, -, -⟩ := chooseIdentifier_spec supply name given w
  have held := keptIdentifier?_identifyAttributes supply name given w around v
  have kept := keptIdentifier?_eq_some_iff.mpr ⟨held, free⟩
  rw [chooseIdentifier, Walk.moved_arena, kept]

/-- Two walks that note the same of an element. -/
theorem Walk.moved_enter {given given' : List (Attribute Tree)} {e' : Markup} {w w' : Walk}
    (around : Option Nat) (e : Markup) (tag : e'.name = e.name) (lines : e'.lines = e.lines)
    (again : chooseIdentifier supply' name given' (w'.moved w.arena) =
      ((chooseIdentifier supply name given w).1, none, w'.moved w.arena)) :
    (w'.moved w.arena).enter supply' name around given' e' =
      w'.moved (w.enter supply name around given e).arena := by
  have component : e'.isComponent = e.isComponent := by rw [Markup.isComponent, Markup.isComponent, tag]
  simp only [Walk.enter, again, chooseIdentifier_arena, Markup.tag, tag, lines, component]
  rfl

theorem identifyIn_identifierAttribute (uid : String) (around : Option Nat) (w : Walk) :
    identifyIn supply name around (Markup.identifierAttribute name uid) w =
      (Markup.identifierAttribute name uid, w) := rfl

mutual

/-- A walk through an identified tree keeps pace with the walk that identified it. -/
theorem Tree.identify_again : ∀ (t : Tree) (around : Option Nat) (w w' : Walk),
    (t.identify supply name around w).1.identify supply' name around (w'.moved w.arena) =
      ((t.identify supply name around w).1, w'.moved (t.identify supply name around w).2.arena)
  | .node kind parts, around, w, w' => by
      have inside := identifyOf_again parts around w w'
      simp only [Tree.identify, inside]
  | .element ⟨tagName, attributes, typeArguments, selfClosing, children, closing, lines⟩, around, w, w' => by
      rw [Tree.identify_element, Tree.identify_element]
      dsimp only
      -- the element that comes out is entered with the same node
      have kept := chooseIdentifier_again supply supply' name attributes
        (some (chooseIdentifier supply name attributes w).2.2.arena.size) w
        (w.enter supply name around attributes
          ⟨tagName, attributes, typeArguments, selfClosing, children, closing, lines⟩) w'
      rw [Walk.moved_enter supply supply' name around
        ⟨tagName, attributes, typeArguments, selfClosing, children, closing, lines⟩ ?tag ?lines kept, kept]
      case tag => rfl
      case lines => rfl
      simp only [Walk.moved_arena, chooseIdentifier_arena, identifyAttributes_again attributes,
        identifyOption_again typeArguments, identifyOf_again children]

theorem identifyOf_again : ∀ (ts : List Tree) (around : Option Nat) (w w' : Walk),
    identifyOf supply' name around (identifyOf supply name around ts w).1 (w'.moved w.arena) =
      ((identifyOf supply name around ts w).1, w'.moved (identifyOf supply name around ts w).2.arena)
  | [], _, _, _ => rfl
  | t :: ts, around, w, w' => by
      simp only [identifyOf, t.identify_again, identifyOf_again ts]

/-- Attributes are walked again without a new identifier: the first walk has put it in. -/
theorem identifyAttributes_again :
    ∀ (as : List (Attribute Tree)) (around : Option Nat) (new : Option String) (w w' : Walk),
      identifyAttributes supply' name around none (identifyAttributes supply name around new as w).1
          (w'.moved w.arena) =
        ((identifyAttributes supply name around new as w).1,
          w'.moved (identifyAttributes supply name around new as w).2.arena)
  | [], _, none, _, _ => rfl
  | [], _, some _, _, _ => rfl
  | a :: as, around, none, w, w' => by
      simp only [identifyAttributes, identifyIn_again a, identifyAttributes_again as]
  | a :: as, around, some uid, w, w' => by
      simp only [identifyAttributes]
      split
      · -- the new value is a string, in which there is nothing to enter
        have rest := identifyAttributes_again as around none w w'
        rw [identifyAttributes, identifyIn_identifierAttribute, rest]
      · simp only [identifyAttributes, identifyIn_again a, identifyAttributes_again as]

theorem identifyIn_again : ∀ (a : Attribute Tree) (around : Option Nat) (w w' : Walk),
    identifyIn supply' name around (identifyIn supply name around a w).1 (w'.moved w.arena) =
      ((identifyIn supply name around a w).1, w'.moved (identifyIn supply name around a w).2.arena)
  | .named _ value, around, w, w' => by simp only [identifyIn, identifyOption_again value]
  | .spread value, around, w, w' => by simp only [identifyIn, value.identify_again]

theorem identifyOption_again : ∀ (t : Option Tree) (around : Option Nat) (w w' : Walk),
    identifyOption supply' name around (identifyOption supply name around t w).1 (w'.moved w.arena) =
      ((identifyOption supply name around t w).1,
        w'.moved (identifyOption supply name around t w).2.arena)
  | none, _, _, _ => rfl
  | some t, around, w, w' => by simp only [identifyOption, t.identify_again]

end

/-- **Identification is idempotent.**  A module that was identified is identified again, with
whatever supply: no identifier is made and none is drawn, the tree is the same, and the arena has
the same nodes in the same order, so parents, children and look-ups are the same, too. -/
theorem Module.identify_identified (m : Module) (next next' : Nat) :
    ((m.identify supply name next).content.identify supply' name next').assigned = [] ∧
    ((m.identify supply name next).content.identify supply' name next').next = next' ∧
    ((m.identify supply name next).content.identify supply' name next').content =
      (m.identify supply name next).content ∧
    ((m.identify supply name next).content.identify supply' name next').arena =
      (m.identify supply name next).arena := by
  have again := identifyOf_again supply supply' name m.items none ⟨.empty, [], next⟩ ⟨.empty, [], next'⟩
  have start : (⟨.empty, [], next'⟩ : Walk).moved (⟨.empty, [], next⟩ : Walk).arena = ⟨.empty, [], next'⟩ := rfl
  rw [start] at again
  simp only [Module.identify, again, Walk.moved, and_self]

end LiveMarkup.Syntax
