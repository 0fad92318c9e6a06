import LiveMarkup.Proofs.Path.Below
import LiveMarkup.Store.Disk
/-
# LiveMarkup.Proofs.Store.Ignoring -- ignored directories, on a walk and in a path

A store on a disk leaves out directories by their names in two ways.  Listing does not enter
them (`Reached`), and a path is ignored when one of its names below the root is among them.

A walk lists exactly the sources that it reaches (`mem_walk`), and it reaches a file exactly
when no directory on the way has an ignored name (`reached_iff`).  The path of the file is
ignored when any of its names is, and its last name is that of no directory.  So the two agree
on a file unless it has an ignored name itself and lies in no ignored directory
(`reached_iff_not_ignores_iff`).

Poles: a source below an ignored directory, and one that is called like one
(`file_called_ignored`): it is listed, and its changes are not followed.
-/

namespace LiveMarkup

set_option autoImplicit false

open LiveMarkup.Path (IsName)

namespace DiskNode

/-- The names in a tree are names of files and directories. -/
inductive WellNamed : DiskNode → Prop where
  | file {content : FileContent} : WellNamed (.file content)
  | directory {entries : List (String × DiskNode)} (named : ∀ e ∈ entries, IsName e.1)
      (below : ∀ e ∈ entries, WellNamed e.2) : WellNamed (.directory entries)

/-- A walk that enters no directory with an ignored name comes to the file at the end of names. -/
inductive Reached (ignored : List String) : DiskNode → List String → Prop where
  | file {content : FileContent} : Reached ignored (.file content) []
  | entry {entries : List (String × DiskNode)} {name : String} {n : DiskNode} {names : List String}
      (listed : (name, n) ∈ entries) (entered : n.isDirectory = true → name ∉ ignored)
      (below : Reached ignored n names) : Reached ignored (.directory entries) (name :: names)

variable {ignored names : List String} {n : DiskNode} {p path : Path} {content : FileContent}

/-! ## The walk -/

theorem mem_walk_entries {entries : List (String × DiskNode)} : p ∈ walk.ofEntries ignored path entries ↔
    ∃ e ∈ entries, (e.2.isDirectory = true → e.1 ∉ ignored) ∧ p ∈ walk ignored (path.child e.1) e.2 := by
  induction entries with
  | nil => simp [walk.ofEntries]
  | cons e entries ih =>
      obtain ⟨name, n⟩ := e
      simp only [walk.ofEntries, List.mem_append, ih, List.mem_cons, exists_eq_or_imp]
      refine or_congr_left ?_
      by_cases pruned : (n.isDirectory && ignored.contains name) = true
      · simp_all
      · simp_all

/-- A walk lists the sources that it reaches. -/
theorem mem_walk (ignored : List String) (p : Path) : ∀ (n : DiskNode) (path : Path),
    p ∈ walk ignored path n ↔ ∃ names, Reached ignored n names ∧ p = path.under names ∧ p.isSource = true
  | .file content, path => by
      rw [walk]
      constructor
      · intro listed
        split at listed
        · rename_i source
          obtain rfl := List.mem_singleton.mp listed
          exact ⟨[], .file, rfl, source⟩
        · cases listed
      · rintro ⟨names, ⟨⟩, rfl, source⟩
        exact (if_pos source).symm ▸ List.mem_singleton_self _
  | .directory entries, path => by
      rw [walk, mem_walk_entries]
      constructor
      · rintro ⟨⟨name, n⟩, listed, entered, inside⟩
        obtain ⟨names, below, rfl, source⟩ := (mem_walk ignored p n (path.child name)).mp inside
        exact ⟨name :: names, .entry listed entered below, rfl, source⟩
      · rintro ⟨names, reached, same, source⟩
        cases reached with
        | @entry _ name n names listed entered below =>
            exact ⟨(name, n), listed, entered,
              (mem_walk ignored p n (path.child name)).mpr ⟨names, below, same, source⟩⟩
termination_by n => sizeOf n
decreasing_by
  all_goals
    have smaller := List.sizeOf_lt_of_mem listed
    simp_all
    omega

/-! ## The way to a file -/

theorem Reached.isDirectory {name : String} (reached : Reached ignored n (name :: names)) :
    n.isDirectory = true := by
  cases reached
  rfl

theorem Reached.above_not_ignored (reached : Reached ignored n names) :
    ∀ name ∈ names.dropLast, name ∉ ignored := by
  induction reached with
  | file => nofun
  | @entry entries name n names listed entered below ih =>
      cases names with
      | nil => nofun
      | cons next more => exact List.forall_mem_cons.mpr ⟨entered below.isDirectory, ih⟩

theorem at?_cons {name : String} {m : DiskNode} (found : n.at? (name :: names) = some m) :
    ∃ entries below, n = .directory entries ∧ (name, below) ∈ entries ∧ below.at? names = some m := by
  cases n with
  | file content => cases found
  | directory entries =>
      obtain ⟨below, listed, inside⟩ := Option.bind_eq_some_iff.mp found
      obtain ⟨before, behind, rfl, -⟩ := List.lookup_eq_some_iff.mp listed
      exact ⟨_, below, rfl, List.mem_append_right before List.mem_cons_self, inside⟩

/-- A file is reached when no directory on the way has an ignored name. -/
theorem reached_iff (file : n.at? names = some (.file content)) :
    Reached ignored n names ↔ ∀ name ∈ names.dropLast, name ∉ ignored := by
  refine ⟨Reached.above_not_ignored, fun free => ?_⟩
  induction names generalizing n with
  | nil =>
      obtain rfl := Option.some.inj file
      exact .file
  | cons name names ih =>
      obtain ⟨entries, below, rfl, listed, file⟩ := at?_cons file
      cases names with
      | nil =>
          obtain rfl := Option.some.inj file
          exact .entry listed nofun .file
      | cons next more =>
          obtain ⟨here, rest⟩ := List.forall_mem_cons.mp free
          exact .entry listed (fun _ => here) (ih file rest)

theorem WellNamed.of_at? (named : WellNamed n) {m : DiskNode} (found : n.at? names = some m) :
    ∀ name ∈ names, IsName name := by
  induction names generalizing n with
  | nil => nofun
  | cons name names ih =>
      obtain ⟨entries, below, rfl, listed, found⟩ := at?_cons found
      cases named with
      | directory named inside => exact List.forall_mem_cons.mpr ⟨named _ listed, ih (inside _ listed) found⟩

theorem WellNamed.of_reached (named : WellNamed n) (reached : Reached ignored n names) :
    ∀ name ∈ names, IsName name := by
  induction reached with
  | file => nofun
  | entry listed entered below ih =>
      cases named with
      | directory named inside => exact List.forall_mem_cons.mpr ⟨named _ listed, ih (inside _ listed)⟩

end DiskNode

/-! ## The path of a file -/

namespace DiskStore

variable {s : DiskStore} {here names : List String} {tree : DiskNode} {content : FileContent}

/-- A directory that is there has a path of some component. -/
theorem root_components (opened : s.disk.node s.root = .ok (here, tree)) : s.root.components ≠ [] := by
  refine Path.components_ne_nil fun vacant => ?_
  rw [Disk.node, Disk.place, vacant, if_pos (by rfl)] at opened
  cases opened

/-- A path below the root is ignored when one of its names is. -/
theorem ignores_under (some : s.root.components ≠ []) (named : ∀ name ∈ names, IsName name) :
    s.ignores (s.root.under names) = true ↔ ∃ name ∈ names, name ∈ s.ignored := by
  have components := Path.components_under s.root named
  have above : s.root.isAbove (s.root.under names) = true := by
    rw [Path.isAbove, components, List.isPrefixOf_iff_prefix]
    exact List.prefix_append _ _
  rw [ignores, Path.components_below some above, components, List.drop_left]
  simp [PathStep.text]

/-- The file at the end of names has an ignored name, and no directory on the way to it has one. -/
def CalledIgnored (ignored names : List String) : Prop :=
  (∃ name ∈ names.getLast?, name ∈ ignored) ∧ ∀ name ∈ names.dropLast, name ∉ ignored

theorem exists_ignored_iff (ignored names : List String) : (∃ name ∈ names, name ∈ ignored) ↔
    (∃ name ∈ names.dropLast, name ∈ ignored) ∨ CalledIgnored ignored names := by
  rcases List.eq_nil_or_concat names with rfl | ⟨above, last, rfl⟩
  · simp [CalledIgnored]
  · by_cases inside : ∃ name ∈ above, name ∈ ignored
    · obtain ⟨name, member, is⟩ := inside
      exact iff_of_true ⟨name, by simp [member], is⟩ (.inl ⟨name, by simpa using member, is⟩)
    · have free : ∀ name ∈ above, name ∉ ignored := fun name member is => inside ⟨name, member, is⟩
      simpa [CalledIgnored, or_and_right, exists_or, inside] using fun _ => free

/-- **A walk and a path agree about ignored directories, except on a file that is itself called like
one.**  A listing holds the sources that the walk reaches; of a file the walk reaches and whose
path is not ignored it is the one if and only if it is the other, unless the file's own name is
the only ignored one on its path. -/
theorem reached_iff_not_ignores_iff (opened : s.disk.node s.root = .ok (here, tree)) (named : tree.WellNamed)
    (file : tree.at? names = some (.file content)) :
    (∃ paths, SourceStore.list s = .ok paths ∧
      (s.root.under names ∈ paths ↔
        tree.Reached s.ignored names ∧ (s.root.under names).isSource = true)) ∧
    ((tree.Reached s.ignored names ↔ SourceStore.ignores s (s.root.under names) = false) ↔
      ¬ CalledIgnored s.ignored names) := by
  have some := root_components opened
  have valid := named.of_at? file
  refine ⟨⟨(tree.walk s.ignored s.root).mergeSort fun p q => (compare p q).isLE, ?_, ?_⟩, ?_⟩
  · simp only [SourceStore.list, opened]
  · rw [List.mem_mergeSort, DiskNode.mem_walk]
    constructor
    · rintro ⟨names', reached, same, source⟩
      -- the path of a file tells its names
      have equal := congrArg Path.components same
      rw [Path.components_under _ valid, Path.components_under _ (named.of_reached reached)] at equal
      have names_eq : names = names' := by
        simpa [List.map_inj_right] using List.append_cancel_left equal
      exact ⟨names_eq ▸ reached, source⟩
    · rintro ⟨reached, source⟩
      exact ⟨names, reached, rfl, source⟩
  · have ignored : SourceStore.ignores s (s.root.under names) = false ↔ ¬ ∃ name ∈ names, name ∈ s.ignored := by
      rw [← ignores_under some valid, Bool.not_eq_true]
      rfl
    rw [ignored, exists_ignored_iff, DiskNode.reached_iff file]
    by_cases called : CalledIgnored s.ignored names
    · simpa [called] using called.2
    · simp [called]

/-! ## Poles -/

/-- A directory with one script of its own and one that was brought along. -/
def yardTree : DiskNode :=
  .directory [("legacy.js", .file (.text "")), ("node_modules", .directory [("a.js", .file (.text ""))])]

/-- A store on that directory, which ignores a directory by its name and takes the script for one. -/
def yard : DiskStore := ⟨⟨.directory [("p", yardTree)], []⟩, ⟨"/p"⟩, ["node_modules", "legacy.js"]⟩

theorem yard_opened : yard.disk.node yard.root = .ok (["p"], yardTree) := rfl

theorem yardTree_wellNamed : yardTree.WellNamed := by
  have named : ∀ name ∈ ["legacy.js", "node_modules", "a.js"], IsName name := by
    intro name member
    simp only [List.mem_cons, List.not_mem_nil, or_false] at member
    rcases member with rfl | rfl | rfl <;> exact ⟨by decide, by decide, by decide, by decide⟩
  refine .directory (by simp [named]) ?_
  simp only [List.forall_mem_cons]
  exact ⟨.file, .directory (by simp [named]) (by simpa using .file), nofun⟩

theorem reached_iff_not_ignores_iff_bundled :
    yard.disk.node yard.root = .ok (["p"], yardTree) ∧ yardTree.WellNamed ∧
    yardTree.at? ["node_modules", "a.js"] = some (.file (.text "")) ∧
    (∃ paths, SourceStore.list yard = .ok paths ∧
      (yard.root.under ["node_modules", "a.js"] ∈ paths ↔
        yardTree.Reached yard.ignored ["node_modules", "a.js"] ∧
          (yard.root.under ["node_modules", "a.js"]).isSource = true)) ∧
    ((yardTree.Reached yard.ignored ["node_modules", "a.js"] ↔
        SourceStore.ignores yard (yard.root.under ["node_modules", "a.js"]) = false) ↔
      ¬ CalledIgnored yard.ignored ["node_modules", "a.js"]) :=
  ⟨yard_opened, yardTree_wellNamed, rfl, reached_iff_not_ignores_iff yard_opened yardTree_wellNamed rfl⟩

/-- A file that is called like an ignored directory is reached and listed, and its path is ignored. -/
theorem file_called_ignored :
    yard.disk.node yard.root = .ok (["p"], yardTree) ∧ yardTree.WellNamed ∧
    yardTree.at? ["legacy.js"] = some (.file (.text "")) ∧
    SourceStore.list yard = .ok [⟨"/p/legacy.js"⟩] ∧
    ¬ (yardTree.Reached yard.ignored ["legacy.js"] ↔
      SourceStore.ignores yard (yard.root.under ["legacy.js"]) = false) := by
  refine ⟨yard_opened, yardTree_wellNamed, rfl, ?_, ?_⟩
  · have walked : yardTree.walk yard.ignored yard.root = [⟨"/p/legacy.js"⟩] := rfl
    show Except.ok ((yardTree.walk yard.ignored yard.root).mergeSort fun p q => (compare p q).isLE) = _
    rw [walked, List.mergeSort_singleton]
  · have reached : yardTree.Reached yard.ignored ["legacy.js"] := (DiskNode.reached_iff rfl).mpr nofun
    have ignored : SourceStore.ignores yard (yard.root.under ["legacy.js"]) = true := rfl
    intro agree
    cases (agree.mp reached).symm.trans ignored

end DiskStore

end LiveMarkup
