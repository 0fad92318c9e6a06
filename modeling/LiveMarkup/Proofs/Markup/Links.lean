import LiveMarkup.Markup.Arena
import LiveMarkup.Proofs.OrderedMap
import Mathlib.Data.List.Basic
/-
# LiveMarkup.Proofs.Markup.Links -- the links of an arena hang together

An arena says some things twice: a node names the node around it, and that one lists it
among its children; a node has an identifier, and the identifier has a position.
`Arena.Linked` says that the two always agree, and that the node around comes earlier.  A
new node keeps this when its identifier is new and the node it names is there
(`Linked.push`).

Climbing from a node to the one around it, and so on, is a loop that nothing counts.
`Arena.Climbs` is the loop as it runs; in a linked arena it comes to an end from every
position, and `ancestors` is what it comes past (`Linked.climbs`).
-/

namespace LiveMarkup

set_option autoImplicit false

/-- A node as it comes in, with nothing inside it yet. -/
def ArenaNode.row (n : ArenaNode) : ArenaNode := { n with children := [] }

namespace Arena

variable {a : Arena} {n : ArenaNode}

/-! ## A new node -/

/-- The nodes as they came in. -/
def rows (a : Arena) : List ArenaNode := a.nodes.map ArenaNode.row

/-- The position of the element around a node. -/
def parent? (a : Arena) (i : Nat) : Option Nat := (a.get? i).bind (·.parent)

theorem length_rows (a : Arena) : a.rows.length = a.size := by simp only [rows, size, List.length_map]

theorem getElem?_rows (a : Arena) (i : Nat) : a.rows[i]? = (a.get? i).map ArenaNode.row := by
  simp only [rows, get?, List.getElem?_map]

theorem parent?_eq (a : Arena) (i : Nat) : a.parent? i = a.rows[i]?.bind (·.parent) := by
  rw [getElem?_rows, parent?]
  cases a.get? i <;> rfl

theorem rows_push (a : Arena) (n : ArenaNode) : (a.push n).rows = a.rows ++ [n.row] := by
  simp only [rows, push, List.map_append, List.map_cons, List.map_nil,
    map_link ArenaNode.row (fun _ _ => rfl)]

theorem getElem?_snoc {α : Type} (xs : List α) (x : α) (i : Nat) :
    (xs ++ [x])[i]? = if i = xs.length then some x else xs[i]? := by grind

theorem parent?_push (a : Arena) (n : ArenaNode) (i : Nat) :
    (a.push n).parent? i = if i = a.size then n.parent else a.parent? i := by
  rw [parent?_eq, parent?_eq, rows_push, getElem?_snoc, length_rows]
  split <;> rfl

/-- The nodes that were there, of which the one around has one more child, and the new one. -/
theorem get?_push (a : Arena) (n : ArenaNode) (i : Nat) :
    (a.push n).get? i =
      if i = a.size then some n
      else (a.get? i).map fun m =>
        if n.parent = some i then { m with children := m.children ++ [a.size] } else m := by
  rw [get?, push, getElem?_snoc, length_link, size]
  split
  · rfl
  · cases n.parent with
    | none => simp [link, get?]
    | some p => simp [link, get?, List.getElem?_modify]

theorem lookup?_push (a : Arena) (n : ArenaNode) (uid : String) :
    (a.push n).lookup? uid = if uid = n.uid then some a.size else a.lookup? uid := by
  simp only [lookup?, push, OrderedMap.get?_insert, Std.LawfulEqOrd.compare_eq_iff_eq]

theorem lt_size_of_get? {i : Nat} (here : a.get? i = some n) : i < a.size :=
  (List.getElem?_eq_some_iff.mp here).1

theorem mem_withParent {parent : Option Nat} {i : Nat} :
    i ∈ a.withParent parent ↔ ∃ m, a.get? i = some m ∧ m.parent = parent := by
  simp only [withParent, List.mem_filter, List.mem_range, beq_iff_eq, Option.map_eq_some_iff]
  exact and_iff_right_of_imp fun ⟨_, here, _⟩ => lt_size_of_get? here

theorem withParent_increasing (a : Arena) (parent : Option Nat) : (a.withParent parent).Pairwise (· < ·) :=
  List.pairwise_lt_range.filter _

theorem withParent_push (a : Arena) (n : ArenaNode) (parent : Option Nat) :
    (a.push n).withParent parent = a.withParent parent ++ if n.parent = parent then [a.size] else [] := by
  have parents : ∀ i, ((a.push n).get? i).map (·.parent) =
      if i = a.size then some n.parent else (a.get? i).map (·.parent) := by
    intro i
    rw [get?_push]
    split
    · rfl
    · cases a.get? i with
      | none => rfl
      | some m =>
          simp only [Option.map_some]
          split <;> rfl
  have old : (List.range a.size).filter (fun i => ((a.push n).get? i).map (·.parent) == some parent) =
      a.withParent parent := by
    refine List.filter_congr fun i inside => ?_
    rw [parents, if_neg (Nat.ne_of_lt (List.mem_range.mp inside))]
  rw [withParent, size_push, List.range_succ, List.filter_append, old, List.filter_cons, parents,
    if_pos rfl, List.filter_nil]
  simp only [Option.some_beq_some, beq_iff_eq]

/-! ## Linked arenas -/

/-- The links of an arena agree. -/
structure Linked (a : Arena) : Prop where
  /-- The node around comes earlier. -/
  earlier : ∀ i p, a.parent? i = some p → p < i
  children : ∀ i m, a.get? i = some m → m.children = a.withParent (some i)
  positions : ∀ uid i, a.lookup? uid = some i ↔ a.uids[i]? = some uid

theorem linked_empty : Arena.empty.Linked where
  earlier _ _ parent := by cases parent
  children _ _ here := by cases here
  positions _ _ := ⟨nofun, nofun⟩

/-- A new node with an identifier that is new, in a node that is there or in none. -/
theorem Linked.push (linked : a.Linked) (alone : n.children = [])
    (there : ∀ p, n.parent = some p → p < a.size) (fresh : n.uid ∉ a.uids) : (a.push n).Linked where
  earlier i p parent := by
    rw [parent?_push] at parent
    split at parent
    · rename_i here
      exact here ▸ there p parent
    · exact linked.earlier i p parent
  children i m here := by
    rw [get?_push] at here
    rw [withParent_push]
    split at here
    · -- nothing can be inside the new node yet, itself included
      rename_i new
      obtain rfl := Option.some.inj here
      have none : a.withParent (some a.size) = [] := by
        refine List.eq_nil_iff_forall_not_mem.mpr fun j inside => ?_
        obtain ⟨m, at_, parent⟩ := mem_withParent.mp inside
        have before := linked.earlier j a.size (by rw [parent?, at_]; exact parent)
        exact Nat.lt_asymm before (lt_size_of_get? at_)
      have other : n.parent ≠ some a.size := fun self => Nat.lt_irrefl _ (there _ self)
      rw [new, none, if_neg other, alone, List.append_nil]
    · obtain ⟨old, at_, rfl⟩ := Option.map_eq_some_iff.mp here
      have children := linked.children i old at_
      split
      · rw [children]
      · rw [children, List.append_nil]
  positions uid i := by
    rw [lookup?_push, uids_push, getElem?_snoc, length_uids]
    by_cases new : uid = n.uid
    · rw [if_pos new, Option.some_inj]
      split
      · rename_i here
        exact iff_of_true here.symm (congrArg some new.symm)
      · rename_i other
        refine iff_of_false (fun here => other here.symm) fun taken => fresh ?_
        exact new ▸ List.mem_of_getElem? taken
    · rw [if_neg new, linked.positions]
      split
      · rename_i here
        have behind : a.uids[i]? = none :=
          List.getElem?_eq_none (Nat.le_of_eq ((length_uids a).trans here.symm))
        rw [behind]
        exact iff_of_false nofun fun same => new (Option.some.inj same).symm
      · rfl

theorem mem_withParent_some {i p : Nat} : i ∈ a.withParent (some p) ↔ a.parent? i = some p := by
  rw [mem_withParent, parent?, Option.bind_eq_some_iff]

theorem mem_withParent_none {i : Nat} : i ∈ a.withParent none ↔ i < a.size ∧ a.parent? i = none := by
  rw [mem_withParent]
  constructor
  · rintro ⟨m, here, outermost⟩
    exact ⟨lt_size_of_get? here, by rw [parent?, here]; exact outermost⟩
  · rintro ⟨inside, outermost⟩
    have here : a.get? i = some _ := List.getElem?_eq_getElem inside
    rw [parent?, here] at outermost
    exact ⟨_, here, outermost⟩

/-- The children of a node are the nodes that name it. -/
theorem Linked.children_eq (linked : a.Linked) (i : Nat) : a.children i = a.withParent (some i) := by
  rw [Arena.children]
  cases here : a.get? i with
  | some m => exact linked.children i m here
  | none =>
      refine (List.eq_nil_iff_forall_not_mem.mpr fun j named => ?_).symm
      have parent := mem_withParent_some.mp named
      obtain ⟨m, at_, -⟩ := mem_withParent.mp named
      have inside : i < a.size := Nat.lt_trans (linked.earlier j i parent) (lt_size_of_get? at_)
      exact absurd here (by rw [get?, List.getElem?_eq_getElem inside]; simp)

theorem Linked.lookup?_iff (linked : a.Linked) (uid : String) (i : Nat) :
    a.lookup? uid = some i ↔ ∃ m, a.get? i = some m ∧ m.uid = uid := by
  rw [linked.positions, uids, List.getElem?_map, Option.map_eq_some_iff]
  rfl

/-! ## Climbing -/

/-- Climbing outwards from a position, as it runs: it ends where there is nothing around, and
the positions that it came past are these. -/
inductive Climbs (a : Arena) : Nat → List Nat → Prop
  | done {i : Nat} (outermost : a.parent? i = none) : Climbs a i []
  | up {i p : Nat} {ps : List Nat} (around : a.parent? i = some p) (rest : Climbs a p ps) :
      Climbs a i (p :: ps)

/-- The positions around something: the nearest, and those around that one. -/
def outwards (a : Arena) : Option Nat → List Nat
  | none => []
  | some p => p :: a.ancestors p

theorem Linked.ancestors_eq (linked : a.Linked) (i : Nat) : a.ancestors i = a.outwards (a.parent? i) := by
  rw [ancestors]
  show (match a.parent? i with
    | none => []
    | some p => if _ : p < i then p :: a.ancestors p else []) = _
  cases around : a.parent? i with
  | none => rfl
  | some p => exact dif_pos (linked.earlier i p around)

/-- Climbing comes to an end, and `ancestors` is what it comes past. -/
theorem Linked.climbs (linked : a.Linked) (i : Nat) : a.Climbs i (a.ancestors i) := by
  induction i using Nat.strongRecOn with
  | ind i ih =>
      rw [linked.ancestors_eq]
      cases around : a.parent? i with
      | none => exact .done around
      | some p => exact .up around (ih p (linked.earlier i p around))

/-- Every step goes to an earlier position. -/
theorem Climbs.decreasing (linked : a.Linked) {i : Nat} {ps : List Nat} (climbs : a.Climbs i ps) :
    (i :: ps).Pairwise (· > ·) := by
  induction climbs with
  | done outermost => exact List.pairwise_singleton _ _
  | @up i p ps around rest ih =>
      have before := linked.earlier i p around
      refine List.pairwise_cons.mpr ⟨?_, ih⟩
      intro j member
      rcases List.mem_cons.mp member with rfl | later
      · exact before
      · exact Nat.lt_trans (List.rel_of_pairwise_cons ih later) before

end Arena

end LiveMarkup
