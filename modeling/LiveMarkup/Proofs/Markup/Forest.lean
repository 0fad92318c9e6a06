import LiveMarkup.Proofs.Markup.Identification
import LiveMarkup.Proofs.Markup.Links
import Mathlib.Data.List.Forall2
import Mathlib.Data.List.Nodup
/-
# LiveMarkup.Proofs.Markup.Forest -- the arena is the forest of the elements

What a walk leaves in the arena is told by the elements that it visits: a node for each of
them, in order (`Visits.rows`), with links that hang together (`Visits.linked`).  What is
around an element is told by the elements alone: it is inside another one when it is among
`elementsInside` of that one.  `Visits.ancestors` says that climbing from a node comes past
just these; the induction is on the visits, the arena being the one that the whole walk
leaves, and the elements have to differ, or else an element could not be told from its
double elsewhere.

`IsForestOf` is all that one can ask of an arena, and `Module.identify_forest` says that
identification makes such an arena.
-/

namespace LiveMarkup.Syntax

set_option autoImplicit false

variable {supply : Supply} {name : String} {around : Option Nat} {w w' : Walk} {es fs : List Markup}

/-! ## What a walk pushes -/

/-- What a node says of its element, links apart. -/
structure Shows (name : String) (e : Markup) (n : ArenaNode) : Prop where
  uid : e.identifier? name = some n.uid
  tag : n.tag = e.tag
  isComponent : n.isComponent = e.isComponent
  lines : n.lines = e.lines

/-- The node of an element that is entered. -/
def Walk.newNode (supply : Supply) (name : String) (around : Option Nat) (w : Walk)
    (given : List (Attribute Tree)) (e : Markup) : ArenaNode :=
  ⟨(chooseIdentifier supply name given w).1, e.tag, e.isComponent, around, [], e.lines⟩

theorem Walk.enter_arena (given : List (Attribute Tree)) (e : Markup) :
    (w.enter supply name around given e).arena = w.arena.push (w.newNode supply name around given e) := by
  obtain ⟨-, -, arena, -⟩ := chooseIdentifier_spec supply name given w
  simp only [Walk.enter, arena]
  rfl

theorem Walk.enter_size (given : List (Attribute Tree)) (e : Markup) :
    (w.enter supply name around given e).arena.size = w.arena.size + 1 := by
  rw [Walk.enter_arena, Arena.size_push]

theorem Walk.enter_linked (linked : w.arena.Linked) (there : ∀ p, around = some p → p < w.arena.size)
    (given : List (Attribute Tree)) (e : Markup) : (w.enter supply name around given e).arena.Linked := by
  obtain ⟨-, fresh, -, -⟩ := chooseIdentifier_spec supply name given w
  rw [Walk.enter_arena]
  exact linked.push rfl there fresh

/-- A walk pushes a node for each element that it visits, and leaves the others as they came in. -/
theorem Visits.rows (visits : Visits supply name around w es w') :
    ∃ rows, w'.arena.rows = w.arena.rows ++ rows ∧ List.Forall₂ (Shows name) es rows := by
  induction visits with
  | done around w => exact ⟨[], (List.append_nil _).symm, .nil⟩
  | @enter around w w' w'' e es given shown inside rest ihInside ihRest =>
      obtain ⟨rows, grown, shows⟩ := ihInside
      obtain ⟨rows', grown', shows'⟩ := ihRest
      rw [Walk.enter_arena, Arena.rows_push] at grown
      refine ⟨w.newNode supply name around given e :: (rows ++ rows'), ?_,
        .cons ⟨shown, rfl, rfl, rfl⟩ (List.rel_append shows shows')⟩
      rw [grown', grown]
      simp [ArenaNode.row, Walk.newNode]

theorem Visits.size (visits : Visits supply name around w es w') :
    w'.arena.size = w.arena.size + es.length := by
  obtain ⟨rows, grown, shows⟩ := visits.rows
  rw [← Arena.length_rows, ← Arena.length_rows, grown, List.length_append, shows.length_eq]

theorem Visits.linked (visits : Visits supply name around w es w') :
    w.arena.Linked → (∀ p, around = some p → p < w.arena.size) → w'.arena.Linked := by
  induction visits with
  | done around w => exact fun linked _ => linked
  | @enter around w w' w'' e es given shown inside rest ihInside ihRest =>
      intro linked there
      have here : w.arena.size < (w.enter supply name around given e).arena.size := by
        rw [Walk.enter_size]
        exact Nat.lt_succ_self _
      have size := inside.size
      refine ihRest (ihInside (Walk.enter_linked linked there given e) fun p same => ?_) fun p same => ?_
      · exact Option.some.inj same ▸ here
      · have := there p same
        omega

/-! ## What is around an element -/

/-- The elements inside an element that is visited are visited, too. -/
theorem Visits.closed (visits : Visits supply name around w es w') :
    ∀ x ∈ es, ∀ e ∈ elementsInside x, e ∈ es := by
  induction visits with
  | done around w => exact fun _ member => absurd member List.not_mem_nil
  | enter given shown inside rest ihInside ihRest =>
      intro x member e within
      refine List.mem_cons_of_mem _ (List.mem_append.mpr ?_)
      rcases List.mem_cons.mp member with rfl | member
      · exact Or.inl within
      · rcases List.mem_append.mp member with member | member
        · exact Or.inl (ihInside x member e within)
        · exact Or.inr (ihRest x member e within)

/-- Of elements that stand at the positions from `n` on, one at position `i` has another inside. -/
def Encloses (n : Nat) (es : List Markup) (i : Nat) (e : Markup) : Prop :=
  ∃ k x, i = n + k ∧ es[k]? = some x ∧ e ∈ elementsInside x

theorem encloses_cons {n i : Nat} {x e : Markup} :
    Encloses n (x :: es) i e ↔ (i = n ∧ e ∈ elementsInside x) ∨ Encloses (n + 1) es i e := by
  constructor
  · rintro ⟨k, y, rfl, here, within⟩
    cases k with
    | zero =>
        obtain rfl := Option.some.inj here
        exact Or.inl ⟨rfl, within⟩
    | succ k => exact Or.inr ⟨k, y, by omega, here, within⟩
  · rintro (⟨rfl, within⟩ | ⟨k, y, rfl, here, within⟩)
    · exact ⟨0, x, rfl, rfl, within⟩
    · exact ⟨k + 1, y, by omega, here, within⟩

theorem encloses_append {n i : Nat} {e : Markup} :
    Encloses n (es ++ fs) i e ↔ Encloses n es i e ∨ Encloses (n + es.length) fs i e := by
  induction es generalizing n with
  | nil => simp [Encloses]
  | cons x es ih =>
      rw [List.cons_append, encloses_cons, encloses_cons, ih, or_assoc, List.length_cons]
      rw [show n + 1 + es.length = n + (es.length + 1) by omega]

theorem Visits.mem_of_encloses (visits : Visits supply name around w es w') {n i : Nat} {e : Markup}
    (encloses : Encloses n es i e) : e ∈ es := by
  obtain ⟨k, x, -, here, within⟩ := encloses
  exact visits.closed x (List.mem_of_getElem? here) e within

/-- A node that was entered keeps the node around it. -/
theorem Visits.parent_entered {a : Arena} {given : List (Attribute Tree)} {e : Markup}
    (inside : Visits supply name (some w.arena.size) (w.enter supply name around given e) es w')
    (final : w'.arena.rows <+: a.rows) : a.parent? w.arena.size = around := by
  obtain ⟨rows, grown, -⟩ := inside.rows
  obtain ⟨behind, all⟩ := final
  rw [grown, Walk.enter_arena, Arena.rows_push] at all
  have here : a.rows[w.arena.size]? = some (w.newNode supply name around given e).row := by
    rw [← all, List.append_assoc, List.append_assoc, ← Arena.length_rows, List.getElem?_append_right
      (Nat.le_refl _), Nat.sub_self]
    rfl
  rw [Arena.parent?_eq, here]
  rfl

/-- Climbing from an element that was visited comes past the elements that have it inside, and
then past what is around them all. -/
theorem Visits.ancestors {a : Arena} (linked : a.Linked) (visits : Visits supply name around w es w') :
    w'.arena.rows <+: a.rows → es.Nodup → ∀ k e, es[k]? = some e →
      ∃ inner, a.ancestors (w.arena.size + k) = inner ++ a.outwards around ∧
        ∀ i, i ∈ inner ↔ Encloses w.arena.size es i e := by
  induction visits with
  | done around w => exact fun _ _ k e here => by cases here
  | @enter around w w' w'' x es given shown inside rest ihInside ihRest =>
      intro final distinct k e here
      obtain ⟨rows, grown, -⟩ := rest.rows
      have finalInside : w'.arena.rows <+: a.rows := (grown ▸ List.prefix_append _ _).trans final
      have outside : a.ancestors w.arena.size = a.outwards around := by
        rw [linked.ancestors_eq, inside.parent_entered finalInside]
      have size : w'.arena.size = w.arena.size + 1 + (elementsInside x).length := by
        rw [inside.size, Walk.enter_size]
      obtain ⟨other, distinct⟩ := List.nodup_cons.mp distinct
      obtain ⟨distinctInside, distinctRest, apart⟩ := List.nodup_append.mp distinct
      have notInside : ∀ i, e ∉ elementsInside x → ¬ Encloses (w.arena.size + 1) (elementsInside x) i e :=
        fun i absent encloses => absent (inside.mem_of_encloses encloses)
      have notBehind : ∀ i, e ∉ es →
          ¬ Encloses (w.arena.size + 1 + (elementsInside x).length) es i e :=
        fun i absent encloses => absent (rest.mem_of_encloses encloses)
      simp only [encloses_cons, encloses_append]
      cases k with
      | zero =>
          -- the element itself: nothing among these has it inside
          obtain rfl := Option.some.inj here
          obtain ⟨otherInside, otherRest⟩ := not_or.mp (fun member => other (List.mem_append.mpr member))
          refine ⟨[], outside, fun i => ?_⟩
          simp [otherInside, notInside i otherInside, notBehind i otherRest]
      | succ k =>
          rw [List.getElem?_cons_succ] at here
          by_cases early : k < (elementsInside x).length
          · -- an element inside it
            rw [List.getElem?_append_left early] at here
            have member := List.mem_of_getElem? here
            have absent : e ∉ es := fun later => apart e member e later rfl
            obtain ⟨inner, climbed, encloses⟩ := ihInside finalInside distinctInside k e here
            rw [Walk.enter_size] at climbed encloses
            refine ⟨inner ++ [w.arena.size], ?_, fun i => ?_⟩
            · rw [show w.arena.size + (k + 1) = w.arena.size + 1 + k by omega, climbed, Arena.outwards,
                outside, List.append_assoc]
              rfl
            · rw [List.mem_append, encloses, List.mem_singleton]
              simp only [member, and_true, notBehind i absent, or_false]
              exact or_comm
          · -- an element behind it
            rw [List.getElem?_append_right (by omega)] at here
            have member := List.mem_of_getElem? here
            have absent : e ∉ elementsInside x := fun before => apart e before e member rfl
            obtain ⟨inner, climbed, encloses⟩ := ihRest final distinctRest _ e here
            rw [size] at climbed encloses
            refine ⟨inner, ?_, fun i => ?_⟩
            · rw [← climbed]
              congr 1
              omega
            · rw [encloses]
              simp only [absent, and_false, notInside i absent, false_or]

/-! ## Forests -/

/-- The nearest of the elements that have an element inside. -/
structure Nearest (es : List Markup) (x e : Markup) : Prop where
  around : e ∈ elementsInside x
  nearest : ∀ y ∈ es, e ∈ elementsInside y → y = x ∨ x ∈ elementsInside y

/-- An arena is the forest of some elements, which are listed in the order in which their tags
open. -/
structure IsForestOf (name : String) (es : List Markup) (a : Arena) : Prop where
  size : a.size = es.length
  node : ∀ i e, es[i]? = some e → ∃ n, a.get? i = some n ∧ Shows name e n
  /-- A node names the nearest element around it, -/
  parent : ∀ i e p, es[i]? = some e → (a.parent? i = some p ↔ ∃ x, es[p]? = some x ∧ Nearest es x e)
  /-- which comes earlier, -/
  earlier : ∀ i p, a.parent? i = some p → p < i
  /-- or none when there is none. -/
  outermost : ∀ i e, es[i]? = some e → (a.parent? i = none ↔ ∀ x ∈ es, e ∉ elementsInside x)
  children : ∀ i, (a.children i).Pairwise (· < ·) ∧ ∀ j, j ∈ a.children i ↔ a.parent? j = some i
  roots : a.roots.Pairwise (· < ·) ∧ ∀ j, j ∈ a.roots ↔ j < a.size ∧ a.parent? j = none
  lookup : ∀ uid i, a.lookup? uid = some i ↔ ∃ n, a.get? i = some n ∧ n.uid = uid
  /-- Climbing ends, whatever the position. -/
  climbs : ∀ i, a.Climbs i (a.ancestors i)
  distinct : ∀ i, (a.ancestors i).Nodup
  ancestors : ∀ i e, es[i]? = some e →
    ∀ j, j ∈ a.ancestors i ↔ ∃ x, es[j]? = some x ∧ e ∈ elementsInside x
  nearestFirst : ∀ i, (a.ancestors i).Pairwise fun j k =>
    ∃ x y, es[j]? = some x ∧ es[k]? = some y ∧ x ∈ elementsInside y

section Around

variable {a : Arena} (linked : a.Linked)
  (enclosing : ∀ i e, es[i]? = some e →
    ∀ j, j ∈ a.ancestors i ↔ ∃ x, es[j]? = some x ∧ e ∈ elementsInside x)

include linked enclosing

theorem nearest_of_parent {i p : Nat} {e : Markup} (here : es[i]? = some e) (parent : a.parent? i = some p) :
    ∃ x, es[p]? = some x ∧ Nearest es x e := by
  have climbed : a.ancestors i = p :: a.ancestors p := by rw [linked.ancestors_eq, parent, Arena.outwards]
  obtain ⟨x, there, within⟩ := (enclosing i e here p).mp (climbed ▸ List.mem_cons_self)
  refine ⟨x, there, within, fun y member within' => ?_⟩
  obtain ⟨q, at_⟩ := List.mem_iff_getElem?.mp member
  have passed : q ∈ a.ancestors i := (enclosing i e here q).mpr ⟨y, at_, within'⟩
  rw [climbed] at passed
  rcases List.mem_cons.mp passed with rfl | later
  · exact Or.inl (Option.some.inj (at_.symm.trans there))
  · obtain ⟨y', at', around⟩ := (enclosing p x there q).mp later
    obtain rfl := Option.some.inj (at_.symm.trans at')
    exact Or.inr around

theorem parent_of_nearest {i p : Nat} {e x : Markup} (here : es[i]? = some e) (there : es[p]? = some x)
    (nearest : Nearest es x e) : a.parent? i = some p := by
  have passed : p ∈ a.ancestors i := (enclosing i e here p).mpr ⟨x, there, nearest.around⟩
  rw [linked.ancestors_eq] at passed
  cases parent : a.parent? i with
  | none =>
      rw [parent] at passed
      cases passed
  | some q =>
      rw [parent] at passed
      obtain ⟨y, at_, other⟩ := nearest_of_parent linked enclosing here parent
      rcases List.mem_cons.mp passed with rfl | later
      · rfl
      · -- then each of the two would come before the other
        have before := List.rel_of_pairwise_cons ((linked.climbs q).decreasing linked) later
        have after : q ∈ a.ancestors p := by
          refine (enclosing p x there q).mpr ⟨y, at_, ?_⟩
          rcases nearest.nearest y (List.mem_of_getElem? at_) other.around with rfl | around
          · obtain ⟨y', at', around⟩ := (enclosing q y at_ p).mp later
            obtain rfl := Option.some.inj (there.symm.trans at')
            exact around
          · exact around
        exact absurd (List.rel_of_pairwise_cons ((linked.climbs p).decreasing linked) after)
          (Nat.lt_asymm before)

theorem parent_none_iff {i : Nat} {e : Markup} (here : es[i]? = some e) :
    a.parent? i = none ↔ ∀ x ∈ es, e ∉ elementsInside x := by
  constructor
  · intro outermost x member within
    obtain ⟨j, there⟩ := List.mem_iff_getElem?.mp member
    have passed := (enclosing i e here j).mpr ⟨x, there, within⟩
    rw [linked.ancestors_eq, outermost] at passed
    cases passed
  · intro alone
    cases parent : a.parent? i with
    | none => rfl
    | some p =>
        obtain ⟨x, there, nearest⟩ := nearest_of_parent linked enclosing here parent
        exact absurd nearest.around (alone x (List.mem_of_getElem? there))

theorem ancestors_nested (size : a.size = es.length) (i : Nat) : (a.ancestors i).Pairwise fun j k =>
    ∃ x y, es[j]? = some x ∧ es[k]? = some y ∧ x ∈ elementsInside y := by
  induction i using Nat.strongRecOn with
  | ind i ih =>
      rw [linked.ancestors_eq]
      cases parent : a.parent? i with
      | none => exact .nil
      | some p =>
          have before := linked.earlier i p parent
          obtain ⟨n, here, -⟩ := Option.bind_eq_some_iff.mp parent
          have inside : p < es.length := size ▸ Nat.lt_trans before (Arena.lt_size_of_get? here)
          refine .cons (fun k passed => ?_) (ih p before)
          obtain ⟨y, at_, within⟩ := (enclosing p _ (List.getElem?_eq_getElem inside) k).mp passed
          exact ⟨_, y, List.getElem?_eq_getElem inside, at_, within⟩

end Around

/-- A walk that starts with nothing leaves the forest of the elements that it visits. -/
theorem Visits.forest {next : Nat} (visits : Visits supply name none ⟨.empty, [], next⟩ es w') :
    IsForestOf name es w'.arena := by
  have linked := visits.linked Arena.linked_empty nofun
  obtain ⟨rows, pushed, shows⟩ := visits.rows
  have size : w'.arena.size = es.length := visits.size.trans (Nat.zero_add _)
  have node : ∀ i e, es[i]? = some e → ∃ n, w'.arena.get? i = some n ∧ Shows name e n := by
    intro i e here
    obtain ⟨inside, rfl⟩ := List.getElem?_eq_some_iff.mp here
    have placed : i < rows.length := shows.length_eq ▸ inside
    have row : (w'.arena.get? i).map ArenaNode.row = some rows[i] := by
      rw [← Arena.getElem?_rows, pushed]
      exact List.getElem?_eq_getElem placed
    obtain ⟨n, there, same⟩ := Option.map_eq_some_iff.mp row
    have shown : Shows name es[i] n.row := same ▸ shows.get inside placed
    exact ⟨n, there, shown.uid, shown.tag, shown.isComponent, shown.lines⟩
  have enclosing : ∀ i e, es[i]? = some e →
      ∀ j, j ∈ w'.arena.ancestors i ↔ ∃ x, es[j]? = some x ∧ e ∈ elementsInside x := by
    intro i e here j
    have start : (⟨.empty, [], next⟩ : Walk).arena.size = 0 := rfl
    have distinct : es.Nodup := visits.identifiers.2.1.of_map
    obtain ⟨inner, climbed, encloses⟩ := visits.ancestors linked (List.prefix_refl _) distinct i e here
    rw [start, Nat.zero_add, Arena.outwards, List.append_nil] at climbed
    rw [climbed, encloses, start]
    simp only [Encloses, Nat.zero_add]
    constructor
    · rintro ⟨k, x, rfl, there⟩
      exact ⟨x, there⟩
    · rintro ⟨x, there⟩
      exact ⟨j, x, rfl, there⟩
  have parent : ∀ i e p, es[i]? = some e →
      (w'.arena.parent? i = some p ↔ ∃ x, es[p]? = some x ∧ Nearest es x e) := by
    intro i e p here
    constructor
    · exact nearest_of_parent linked enclosing here
    · rintro ⟨x, there, nearest⟩
      exact parent_of_nearest linked enclosing here there nearest
  exact
    { size, node, parent
      earlier := linked.earlier
      outermost := fun i e here => parent_none_iff linked enclosing here
      children := fun i => by
        rw [linked.children_eq]
        exact ⟨Arena.withParent_increasing _ _, fun j => Arena.mem_withParent_some⟩
      roots := ⟨Arena.withParent_increasing _ _, fun j => Arena.mem_withParent_none⟩
      lookup := linked.lookup?_iff
      climbs := linked.climbs
      distinct := fun i => ((linked.climbs i).decreasing linked).of_cons.imp Nat.ne_of_gt
      ancestors := enclosing
      nearestFirst := ancestors_nested linked enclosing size }

/-- **The arena is the forest of the elements.**  Whatever module is identified, the arena has
one node for each element of the identified tree, in the order in which the tags open.  A node
shows the identifier, the tag and the lines of its element and names the nearest element around
it, which comes earlier, as its parent, or none when there is none; its children are those that
name it, in order, and the roots those that name none.  An identifier is looked up at the one
node that has it.  Climbing from a node ends, and comes past every element around it just once,
the nearest first. -/
theorem Module.identify_forest (supply : Supply) (name : String) (next : Nat) (m : Module) :
    IsForestOf name (m.identify supply name next).content.elements (m.identify supply name next).arena :=
  (identifyOf_visits supply name m.items none ⟨.empty, [], next⟩).forest

end LiveMarkup.Syntax
