import LiveMarkup.Component.Map
import LiveMarkup.Proofs.Path
import Mathlib.Data.List.Induction
/-
# LiveMarkup.Proofs.Component.Inventory -- no component is lost without a word

The map is built from the files that qualify, one after the other (`build_value`).  What
holds of both maps and of the collisions together is one invariant, `Inventory`: a path
that gives up its name leaves the one map at the moment at which it enters the log.  An
entry is new by name or takes the name of an earlier one, and these are the two cases of
the step (`Inventory.enter_new` and `Inventory.enter_again`).
-/

namespace LiveMarkup

set_option autoImplicit false

open LiveMarkup.Syntax

/-- The name and the path of a file that qualifies: it has a default export, and a name can be
derived from its path. -/
def Component.entry? (file : Path × Module) : Option (String × Path) :=
  if hasDefaultExport file.2 then
    match (name file.1).value with
    | .ok name => some (pascalCase name, file.1)
    | .error _ => none
  else none

/-- The files that qualify, in order. -/
def Component.qualified (files : List (Path × Module)) : List (String × Path) := files.filterMap entry?

/-- The last path of a name. -/
def lastNamed (name : String) (listed : List (String × Path)) : Option Path :=
  ((listed.filter (·.1 == name)).getLast?).map (·.2)

theorem lastNamed_snoc (name : String) (listed : List (String × Path)) (e : String × Path) :
    lastNamed name (listed ++ [e]) = if e.1 = name then some e.2 else lastNamed name listed := by
  unfold lastNamed
  rw [List.filter_append]
  by_cases same : e.1 = name
  · simp [same]
  · simp [same]

/-- The last path of a name is listed under it, and not again behind that. -/
theorem lastNamed_split {name : String} {path : Path} {listed : List (String × Path)}
    (last : lastNamed name listed = some path) :
    ∃ before after, listed = before ++ (name, path) :: after ∧ ∀ e ∈ after, e.1 ≠ name := by
  induction listed using List.reverseRecOn with
  | nil => cases last
  | append_singleton listed e ih =>
      rw [lastNamed_snoc] at last
      split at last
      · rename_i same
        obtain ⟨name', path'⟩ := e
        obtain rfl : name' = name := same
        obtain rfl : path' = path := Option.some.inj last
        exact ⟨listed, [], rfl, by simp⟩
      · rename_i other
        obtain ⟨before, after, split, none⟩ := ih last
        refine ⟨before, after ++ [e], by simp [split], ?_⟩
        intro e' member
        rcases List.mem_append.mp member with early | late
        · exact none e' early
        · obtain rfl := List.mem_singleton.mp late
          exact other

namespace ComponentMap

/-! ## One entry -/

/-- How often a path was dropped. -/
def drops (m : ComponentMap) (p : Path) : Nat := m.collisions.countP (·.dropped == p)

variable {m : ComponentMap} {name : String} {path previous : Path}

theorem enter_new (fresh : m.path? name = none) : (m.enter name path).value =
    ⟨m.byName.insert name path, m.byPath.insert path name, m.collisions⟩ := by
  unfold path? at fresh
  unfold enter
  rw [fresh]
  rfl

theorem enter_again (taken : m.path? name = some previous) : (m.enter name path).value =
    ⟨m.byName.insert name path, (m.byPath.erase previous).insert path name,
      m.collisions ++ [⟨name, previous, path⟩]⟩ := by
  unfold path? at taken
  unfold enter
  rw [taken]

/-- The path that is entered has the name from then on, and every other name stays. -/
theorem enter_path? (m : ComponentMap) (name : String) (path : Path) (n : String) :
    (m.enter name path).value.path? n = if name = n then some path else m.path? n := by
  have inserted : (m.byName.insert name path).get? n = if name = n then some path else m.byName.get? n := by
    rw [OrderedMap.get?_insert]
    by_cases same : name = n
    · rw [if_pos same, if_pos (Std.LawfulEqOrd.compare_eq_iff_eq.mpr same.symm)]
    · rw [if_neg same, if_neg (fun equal => same (Std.LawfulEqOrd.compare_eq_iff_eq.mp equal).symm)]
  cases taken : m.path? name with
  | none =>
      rw [enter_new taken]
      exact inserted
  | some previous =>
      rw [enter_again taken]
      exact inserted

/-- A file that qualifies is entered, and no other file makes a difference. -/
theorem addFile_value (m : ComponentMap) (path : Path) (content : Module) :
    (m.addFile path content).value =
      match Component.entry? (path, content) with
      | some e => (m.enter e.1 e.2).value
      | none => m := by
  unfold addFile Component.entry?
  split
  · simp only [Logged.bind_value]
    cases (Component.name path).value with
    | ok name => rfl
    | error unnamed => rfl
  · rfl

theorem foldl_addFile (files : List (Path × Module)) (m : ComponentMap) :
    (files.foldlM (fun (m : ComponentMap) f => m.addFile f.1 f.2) m).value =
      (Component.qualified files).foldl (fun m e => (m.enter e.1 e.2).value) m := by
  induction files generalizing m with
  | nil => rfl
  | cons file files ih =>
      rw [List.foldlM_cons, Logged.bind_value, ih, addFile_value, Component.qualified, Component.qualified,
        List.filterMap_cons]
      cases Component.entry? file with
      | none => rfl
      | some e => rfl

theorem build_value (files : List (Path × Module)) : (build files).value =
    (Component.qualified files).foldl (fun m e => (m.enter e.1 e.2).value) empty := foldl_addFile files empty

/-! ## All entries -/

/-- What the two maps and the log come to when these entries were made. -/
structure Inventory (listed : List (String × Path)) (m : ComponentMap) : Prop where
  /-- The two maps are inverse to each other. -/
  inverse : ∀ p n, m.name? p = some n ↔ ∃ q, m.path? n = some q ∧ q.components = p.components
  /-- The last path of a name has it. -/
  latest : ∀ n, m.path? n = lastNamed n listed
  /-- A path has its name, or it was dropped once, and never both. -/
  kept : ∀ e ∈ listed, m.name? e.2 = some e.1 ∧ m.drops e.2 = 0 ∨ m.name? e.2 = none ∧ m.drops e.2 = 1
  /-- A collision is between two paths of a name with no other one between them. -/
  joined : ∀ x ∈ m.collisions, ∃ before between after,
    listed = before ++ (x.name, x.dropped) :: (between ++ (x.name, x.kept) :: after) ∧
      ∀ e ∈ between, e.1 ≠ x.name
  counted : listed.length = m.size + m.collisions.length

variable {listed : List (String × Path)}

theorem inventory_empty : Inventory [] empty := by
  constructor
  · intro p n
    simp [name?, path?, empty]
  · intro n
    rfl
  · simp
  · simp [empty]
  · rfl

/-- What stands under a name was listed with it. -/
theorem Inventory.listed_of_path? (inventory : Inventory listed m) {n : String} {q : Path}
    (found : m.path? n = some q) : (n, q) ∈ listed := by
  rw [inventory.latest n] at found
  obtain ⟨before, after, split, -⟩ := lastNamed_split found
  simp [split]

/-- A path that was not listed was not dropped. -/
theorem Inventory.drops_new (inventory : Inventory listed m) {p : Path}
    (new : ∀ e ∈ listed, e.2.components ≠ p.components) : m.drops p = 0 := by
  unfold drops
  rw [List.countP_eq_zero]
  intro x member same
  obtain ⟨before, between, after, split, -⟩ := inventory.joined x member
  apply new (x.name, x.dropped) (by simp [split])
  exact Path.beq_iff.mp same

/-- A path has at most one name, and a path that was not listed has none. -/
theorem Inventory.name?_new (inventory : Inventory listed m) {p : Path}
    (new : ∀ e ∈ listed, e.2.components ≠ p.components) : m.name? p = none := by
  cases named : m.name? p with
  | none => rfl
  | some n =>
      obtain ⟨q, found, same⟩ := (inventory.inverse p n).mp named
      exact absurd same (new (n, q) (inventory.listed_of_path? found))

theorem Inventory.not_named (inventory : Inventory listed m) (fresh : m.path? name = none) (p : Path) :
    m.name? p ≠ some name := by
  intro named
  obtain ⟨q, found, -⟩ := (inventory.inverse p name).mp named
  rw [fresh] at found
  cases found

theorem Inventory.named_iff (inventory : Inventory listed m) (taken : m.path? name = some previous)
    (p : Path) : m.name? p = some name ↔ p.components = previous.components := by
  rw [inventory.inverse, taken]
  simp [eq_comm]

/-- A path that is entered takes its name from the path that had it. -/
theorem Inventory.enter_name? (inventory : Inventory listed m) (name : String) (path p : Path) :
    (m.enter name path).value.name? p =
      if p.components = path.components then some name
      else if m.name? p = some name then none else m.name? p := by
  cases taken : m.path? name with
  | none =>
      rw [enter_new taken, if_neg (inventory.not_named taken p)]
      simp only [name?, OrderedMap.get?_insert, Path.compare_eq_iff]
  | some previous =>
      have named := inventory.named_iff taken p
      rw [enter_again taken]
      simp only [name?] at named
      simp only [name?, OrderedMap.get?_insert, OrderedMap.get?_erase, Path.compare_eq_iff, named]

theorem Inventory.enter_inverse (inventory : Inventory listed m)
    (new : ∀ e ∈ listed, e.2.components ≠ path.components) (p : Path) (n : String) :
    (m.enter name path).value.name? p = some n ↔
      ∃ q, (m.enter name path).value.path? n = some q ∧ q.components = p.components := by
  rw [inventory.enter_name?, enter_path?]
  by_cases here : p.components = path.components
  · rw [if_pos here]
    by_cases same : name = n
    · simp [same, here]
    · -- no other name leads to a path that is new
      have none : ¬ ∃ q, m.path? n = some q ∧ q.components = p.components := by
        rintro ⟨q, found, equal⟩
        exact new (n, q) (inventory.listed_of_path? found) (equal.trans here)
      simp [same, none]
  · rw [if_neg here]
    have apart : path.components ≠ p.components := fun equal => here equal.symm
    by_cases same : name = n
    · subst same
      by_cases named : m.name? p = some name
      · simp [named, apart]
      · simp [named, apart]
    · rw [if_neg same, ← inventory.inverse]
      by_cases named : m.name? p = some name
      · simp [named, same]
      · simp [named]

/-- The path that had the name is dropped, and no other one. -/
theorem Inventory.enter_drops (inventory : Inventory listed m) (name : String) (path p : Path) :
    (m.enter name path).value.drops p = m.drops p + if m.name? p = some name then 1 else 0 := by
  cases taken : m.path? name with
  | none =>
      rw [enter_new taken, if_neg (inventory.not_named taken p)]
      rfl
  | some previous =>
      have named : m.name? p = some name ↔ (previous == p) = true := by
        rw [inventory.named_iff taken p, Path.beq_iff, eq_comm]
      rw [enter_again taken]
      simp only [drops, List.countP_append, List.countP_singleton, named]

theorem Inventory.enter_kept (inventory : Inventory listed m)
    (new : ∀ e ∈ listed, e.2.components ≠ path.components) :
    ∀ e ∈ listed ++ [(name, path)],
      (m.enter name path).value.name? e.2 = some e.1 ∧ (m.enter name path).value.drops e.2 = 0 ∨
      (m.enter name path).value.name? e.2 = none ∧ (m.enter name path).value.drops e.2 = 1 := by
  intro e member
  rw [inventory.enter_name?, inventory.enter_drops]
  rcases List.mem_append.mp member with early | late
  · rw [if_neg (new e early)]
    rcases inventory.kept e early with ⟨named, never⟩ | ⟨unnamed, once⟩
    · rw [named, never]
      by_cases same : e.1 = name
      · right
        simp [same]
      · left
        simp [same]
    · right
      simp [unnamed, once]
  · obtain rfl := List.mem_singleton.mp late
    left
    rw [inventory.name?_new new, inventory.drops_new new]
    simp

theorem Inventory.enter_joined (inventory : Inventory listed m) :
    ∀ x ∈ (m.enter name path).value.collisions, ∃ before between after,
      listed ++ [(name, path)] = before ++ (x.name, x.dropped) :: (between ++ (x.name, x.kept) :: after) ∧
        ∀ e ∈ between, e.1 ≠ x.name := by
  have still : ∀ x ∈ m.collisions, ∃ before between after,
      listed ++ [(name, path)] = before ++ (x.name, x.dropped) :: (between ++ (x.name, x.kept) :: after) ∧
        ∀ e ∈ between, e.1 ≠ x.name := by
    intro x member
    obtain ⟨before, between, after, split, apart⟩ := inventory.joined x member
    exact ⟨before, between, after ++ [(name, path)], by simp [split], apart⟩
  cases taken : m.path? name with
  | none =>
      rw [enter_new taken]
      exact still
  | some previous =>
      rw [enter_again taken]
      intro x member
      rcases List.mem_append.mp member with old | new
      · exact still x old
      · obtain rfl := List.mem_singleton.mp new
        rw [inventory.latest] at taken
        obtain ⟨before, between, split, apart⟩ := lastNamed_split taken
        exact ⟨before, between, [], by simp [split], apart⟩

/-- Each entry makes the map longer, or the log. -/
theorem enter_counted (ordered : m.byName.Ordered) (name : String) (path : Path) :
    (m.enter name path).value.size + (m.enter name path).value.collisions.length =
      m.size + m.collisions.length + 1 := by
  cases taken : m.path? name with
  | none =>
      have longer : (m.byName.insert name path).size = m.byName.size + 1 :=
        OrderedMap.size_insert_new taken path
      rw [enter_new taken]
      show (m.byName.insert name path).size + m.collisions.length = _
      rw [longer, size]
      omega
  | some previous =>
      have same : (m.byName.insert name path).size = m.byName.size := ordered.size_insert_old taken path
      rw [enter_again taken]
      show (m.byName.insert name path).size + (m.collisions ++ [_]).length = _
      rw [same, List.length_append, size]
      rfl

theorem enter_ordered (ordered : m.byName.Ordered) (name : String) (path : Path) :
    (m.enter name path).value.byName.Ordered := by
  have inserted := OrderedMap.Ordered.insert ordered name path
  cases taken : m.path? name with
  | none =>
      rw [enter_new taken]
      exact inserted
  | some previous =>
      rw [enter_again taken]
      exact inserted

/-- An entry of a path that is new keeps the inventory. -/
theorem Inventory.enter (inventory : Inventory listed m) (ordered : m.byName.Ordered)
    (new : ∀ e ∈ listed, e.2.components ≠ path.components) :
    Inventory (listed ++ [(name, path)]) (m.enter name path).value := by
  constructor
  · exact inventory.enter_inverse new
  · intro n
    rw [enter_path?, lastNamed_snoc, inventory.latest]
  · exact inventory.enter_kept new
  · exact inventory.enter_joined
  · have counted := inventory.counted
    rw [enter_counted ordered, ← counted, List.length_append]
    rfl

theorem foldl_inventory (entries : List (String × Path)) (inventory : Inventory listed m)
    (ordered : m.byName.Ordered)
    (apart : (listed ++ entries).Pairwise fun a b => a.2.components ≠ b.2.components) :
    Inventory (listed ++ entries) (entries.foldl (fun m e => (m.enter e.1 e.2).value) m) := by
  induction entries generalizing listed m with
  | nil =>
      rw [List.append_nil]
      exact inventory
  | cons e entries ih =>
      obtain ⟨name, path⟩ := e
      have new : ∀ e ∈ listed, e.2.components ≠ path.components := by
        intro e member
        exact (List.pairwise_append.mp apart).2.2 e member (name, path) List.mem_cons_self
      have rest := ih (inventory.enter ordered new) (enter_ordered ordered name path)
        (by simpa using apart)
      rw [List.append_assoc] at rest
      exact rest

theorem entry?_path {file : Path × Module} {e : String × Path} (qualifies : Component.entry? file = some e) :
    e.2 = file.1 := by
  unfold Component.entry? at qualifies
  split at qualifies
  · split at qualifies
    · obtain rfl := Option.some.inj qualifies
      rfl
    · cases qualifies
  · cases qualifies

/-- Files with paths of their own have entries with paths of their own. -/
theorem qualified_apart {files : List (Path × Module)}
    (apart : files.Pairwise fun a b => a.1.components ≠ b.1.components) :
    (Component.qualified files).Pairwise fun a b => a.2.components ≠ b.2.components := by
  rw [Component.qualified, List.pairwise_filterMap]
  apply apart.imp
  intro a b differs e first e' second
  rw [entry?_path first, entry?_path second]
  exact differs

/-- The map loses no component without a word: its two sides are inverse to each other, the last
path of a name has it, and every file that qualifies is in the map or is dropped in the log, once. -/
theorem build_inventory (files : List (Path × Module))
    (apart : files.Pairwise fun a b => a.1.components ≠ b.1.components) :
    Inventory (Component.qualified files) (build files).value := by
  rw [build_value]
  exact foldl_inventory _ inventory_empty OrderedMap.ordered_empty (qualified_apart apart)

def exporting (path : String) : Path × Module :=
  (⟨path⟩, ⟨none, [.node .exportDefaultExpression []], none⟩)

/-- A name that three files have, another one that comes in between, and a file that is no
component. -/
def doubles : List (Path × Module) :=
  [exporting "/p/src/Button/index.tsx", exporting "/p/src/nav-bar.tsx", exporting "/p/src/button.tsx",
    (⟨"/p/src/util.ts"⟩, ⟨none, [], none⟩), exporting "/p/lib/nav_bar.tsx", exporting "/p/lib/button.tsx"]

theorem build_inventory_doubles :
    doubles.Pairwise (fun a b => a.1.components ≠ b.1.components) ∧
    ((build doubles).value.path? "Button").map Path.text = some "/p/lib/button.tsx" ∧
    (build doubles).value.collisions.length = 3 ∧
    Inventory (Component.qualified doubles) (build doubles).value := by
  have apart : doubles.Pairwise (fun a b => a.1.components ≠ b.1.components) := by decide +kernel
  refine ⟨apart, by decide +kernel, by decide +kernel, build_inventory doubles apart⟩

end ComponentMap

end LiveMarkup
