import LiveMarkup.Proofs.Project.Following
import LiveMarkup.Proofs.Store.Memory
import Mathlib.Data.List.Basic
/-
# LiveMarkup.Proofs.Project.Notification -- notifications keep a registry in step

A registry is in step with a store (`Registry.InStep`) when of every file that it reads and the
store holds there is an entry or a diagnostic, of no other file there is either, and every
entry is of the text that is held.

Something is done to the files of the store (`FileOperation`), and it is told in one of several
shapes (`FileOperation.Describes`): a rename as one notification of both paths, as two of one
side each, or as one or two that name the paths without a side.  Of the changes that come of
it only this matters (`Accounts`): a file whose text is another one is told of, and a file that
is told last to be deleted is gone.  From that a registry that was in step is in step again
(`InStep.followAll`), file by file (`Knowledge.matches_follow`).
-/

namespace LiveMarkup

set_option autoImplicit false

/-! ## Operations on files -/

/-- What is done to the files of a store. -/
inductive FileOperation where
  /-- A file is created, or a text is written over its own. -/
  | write (p : Path) (text : String)
  | remove (p : Path)
  | rename (source target : Path)

namespace FileOperation

/-- The store behind an operation; there is nothing to rename where no file is. -/
def apply (s : MemoryStore) : FileOperation → MemoryStore
  | write p text => s.put p text
  | remove p => s.delete p
  | rename source target =>
      match s.get? source with
      | some text => (s.delete source).put target text
      | none => s

/-- The notifications that tell of an operation, in order; how the paths are spelled does not matter. -/
inductive Describes : FileOperation → List Notification → Prop where
  | created {p p' : Path} {text : String} (named : p'.components = p.components) :
      Describes (.write p text) [⟨.create, [p']⟩]
  | modified {p p' : Path} {text : String} (named : p'.components = p.components) :
      Describes (.write p text) [⟨.modify, [p']⟩]
  | removed {p p' : Path} (named : p'.components = p.components) :
      Describes (.remove p) [⟨.remove, [p']⟩]
  | renamedBoth {p q p' q' : Path} (source : p'.components = p.components)
      (target : q'.components = q.components) :
      Describes (.rename p q) [⟨.rename .both, [p', q']⟩]
  | renamedSides {p q p' q' : Path} (source : p'.components = p.components)
      (target : q'.components = q.components) :
      Describes (.rename p q) [⟨.rename .before, [p']⟩, ⟨.rename .after, [q']⟩]
  | renamedUnknown {p q : Path} {ns : List Notification} (kind : ∀ n ∈ ns, n.kind = .rename .unknown)
      (source : ∃ p' ∈ ns.flatMap Notification.paths, p'.components = p.components)
      (target : ∃ q' ∈ ns.flatMap Notification.paths, q'.components = q.components) :
      Describes (.rename p q) ns

end FileOperation

/-! ## What changes account for -/

/-- The changes tell of every source file whose text is another one, and of none in the end that it is
deleted while it is held. -/
structure Accounts (before after : MemoryStore) (cs : List Change) : Prop where
  told : ∀ q, q.isSource = true → Change.latest? q cs = none → after.get? q = before.get? q
  gone : ∀ q c, q.isSource = true → Change.latest? q cs = some c → c.kind = .deleted → after.get? q = none

section Accounts

variable {s s' : MemoryStore} {cs : List Change} {p q : Path} {op : FileOperation} {ns : List Notification}

theorem flatMap_changes (ns : List Notification) : ns.flatMap Notification.changes =
    (ns.flatMap Notification.allChanges).filter fun c => c.path.isSource :=
  (List.filter_flatMap ..).symm

/-- Leaving out what is not source leaves out nothing that is to be accounted for. -/
theorem Accounts.filter (accounts : Accounts s s' cs) :
    Accounts s s' (cs.filter fun c => c.path.isSource) := by
  have same : ∀ q : Path, q.isSource = true →
      Change.latest? q (cs.filter fun c => c.path.isSource) = Change.latest? q cs := fun q source =>
    Change.latest?_filter fun c here => (Path.isSource_congr here).symm.trans source
  refine ⟨fun q source untold => ?_, fun q c source latest => ?_⟩
  · exact accounts.told q source (same q source ▸ untold)
  · exact accounts.gone q c source (same q source ▸ latest)

/-- One change accounts for a store that differs at its path, if it is a deletion only when the file
is gone. -/
theorem Accounts.single {c : Change} (elsewhere : ∀ q : Path, q.components ≠ c.path.components → s'.get? q = s.get? q)
    (gone : c.kind = .deleted → s'.get? c.path = none) : Accounts s s' [c] := by
  refine ⟨fun q _ untold => ?_, fun q c' _ latest deleted => ?_⟩
  · exact elsewhere q (Change.latest?_eq_none_iff.mp untold c List.mem_cons_self)
  · obtain rfl := List.mem_singleton.mp (Change.mem_of_latest? latest)
    rw [MemoryStore.get?_congr (Change.latest?_split latest).1, gone deleted]

theorem get?_rename_elsewhere (source : q.components ≠ p.components) {target : Path}
    (other : q.components ≠ target.components) :
    ((FileOperation.rename p target).apply s).get? q = s.get? q := by
  simp only [FileOperation.apply]
  split
  · rw [MemoryStore.get?_put, if_neg other, MemoryStore.get?_delete, if_neg source]
  · rfl

/-- What is renamed is gone, unless it is renamed to itself. -/
theorem get?_rename_source (source : q.components = p.components) {target : Path}
    (other : q.components ≠ target.components) :
    ((FileOperation.rename p target).apply s).get? q = none := by
  simp only [FileOperation.apply]
  split
  · rw [MemoryStore.get?_put, if_neg other, MemoryStore.get?_delete, if_pos source]
  · rename_i missing
    rw [MemoryStore.get?_congr source, missing]

/-- A deletion and a creation account for a rename. -/
theorem accounts_rename {p' q' : Path} (source : p'.components = p.components)
    (target : q'.components = q.components) :
    Accounts s ((FileOperation.rename p q).apply s) [⟨.deleted, p'⟩, ⟨.created, q'⟩] := by
  have latest : ∀ x : Path, Change.latest? x [⟨.deleted, p'⟩, ⟨.created, q'⟩] =
      if x.components = q.components then some ⟨.created, q'⟩
      else if x.components = p.components then some ⟨.deleted, p'⟩ else none := fun x => by
    simp only [Change.latest?, List.foldl_cons, List.foldl_nil, source, target]
  refine ⟨fun x _ untold => ?_, fun x c _ found deleted => ?_⟩
  · rw [latest] at untold
    split at untold
    case isTrue => cases untold
    split at untold
    case isTrue => cases untold
    case isFalse other elsewhere => exact get?_rename_elsewhere elsewhere other
  · rw [latest] at found
    split at found
    case isTrue =>
      cases found
      cases deleted
    split at found
    case isTrue other here => exact get?_rename_source here other
    case isFalse => cases found

/-- Changes of unknown kind account for a rename when they name both of its paths. -/
theorem accounts_unknown (kind : ∀ c ∈ cs, c.kind = .changed)
    (source : ∃ c ∈ cs, c.path.components = p.components)
    (target : ∃ c ∈ cs, c.path.components = q.components) :
    Accounts s ((FileOperation.rename p q).apply s) cs := by
  refine ⟨fun x _ untold => ?_, fun x c _ latest deleted => ?_⟩
  · rw [Change.latest?_eq_none_iff] at untold
    obtain ⟨c, listed, here⟩ := source
    obtain ⟨d, listed', there⟩ := target
    exact get?_rename_elsewhere (here ▸ untold c listed) (there ▸ untold d listed')
  · rw [kind c (Change.mem_of_latest? latest)] at deleted
    cases deleted

/-- Whatever the shape in which it is told of an operation, what is told accounts for it. -/
theorem FileOperation.Describes.accounts (describes : op.Describes ns) (s : MemoryStore) :
    Accounts s (op.apply s) (ns.flatMap Notification.changes) := by
  rw [flatMap_changes]
  apply Accounts.filter
  cases describes with
  | created named | modified named =>
      refine .single (fun q other => ?_) nofun
      rw [apply, MemoryStore.get?_put, if_neg (named ▸ other)]
  | removed named =>
      refine .single (fun q other => ?_) fun _ => ?_
      · rw [apply, MemoryStore.get?_delete, if_neg (named ▸ other)]
      · rw [apply, MemoryStore.get?_delete, if_pos named]
  | renamedBoth source target => exact accounts_rename source target
  | renamedSides source target => exact accounts_rename source target
  | renamedUnknown kind source target =>
      have all : ns.flatMap Notification.allChanges =
          (ns.flatMap Notification.paths).map fun x => ⟨.changed, x⟩ := by
        rw [List.map_flatMap]
        refine List.flatMap_congr fun n listed => ?_
        simp only [Notification.allChanges, kind n listed]
      rw [all]
      have named : ∀ {x : Path}, (∃ x' ∈ ns.flatMap Notification.paths, x'.components = x.components) →
          ∃ c ∈ (ns.flatMap Notification.paths).map fun x => (⟨.changed, x⟩ : Change),
            c.path.components = x.components := by
        rintro x ⟨x', listed, same⟩
        exact ⟨_, List.mem_map_of_mem listed, same⟩
      refine accounts_unknown (fun c listed => ?_) (named source) (named target)
      obtain ⟨x, -, rfl⟩ := List.mem_map.mp listed
      rfl

end Accounts

/-! ## In step -/

namespace Registry

variable {w : Workshop} {r : Registry} {s s' : MemoryStore} {cs : List Change} {c : Change} {p q : Path}

/-- The entries and diagnostics of a registry are of exactly the files that it reads and the store
holds, and every entry is of the text that is held. -/
structure InStep (r : Registry) (s : MemoryStore) : Prop where
  covers : ∀ q, ((r.entry? q).isSome = true ∨ (r.diagnostics.get? q).isSome = true) ↔
    r.tracks q = true ∧ (s.get? q).isSome = true
  current : ∀ q e, r.entry? q = some e → s.get? q = some e.source

/-- What is known of one file is in step with the text that is held. -/
structure Knowledge.Matches (held : Option String) (k : Knowledge) : Prop where
  covers : (k.entry.isSome = true ∨ k.diagnostic.isSome = true) ↔ held.isSome = true
  current : ∀ e, k.entry = some e → held = some e.source

theorem Knowledge.matches_none {k : Knowledge} : k.Matches none ↔ k.Blank := by
  constructor
  · intro step
    have known := step.covers
    simp only [Option.isSome_none, Bool.false_eq_true, iff_false, not_or, Bool.not_eq_true,
      Option.isSome_eq_false_iff, Option.isNone_iff_eq_none] at known
    exact known
  · rintro ⟨entry, diagnostic⟩
    exact ⟨by simp [entry, diagnostic], fun e here => by simp [entry] at here⟩

/-- To be in step is to be in step at every file that is read, and to know nothing of the others. -/
theorem inStep_iff : r.InStep s ↔
    ∀ q, (r.tracks q = true → (r.known q).Matches (s.get? q)) ∧ (r.tracks q = false → (r.known q).Blank) := by
  constructor
  · intro step q
    have covers := step.covers q
    refine ⟨fun tracked => ⟨?_, step.current q⟩, fun untracked => ?_⟩
    · rw [tracked] at covers
      exact covers.trans (and_iff_right rfl)
    · refine Knowledge.matches_none.mp ⟨?_, fun e here => ?_⟩
      · rw [untracked] at covers
        exact covers.trans (by simp)
      · have known := covers.mp (Or.inl (Option.isSome_of_mem here))
        rw [untracked] at known
        cases known.1
  · intro each
    refine ⟨fun q => ?_, fun q e here => ?_⟩
    · cases tracked : r.tracks q with
      | false =>
          obtain ⟨entry, diagnostic⟩ := (each q).2 tracked
          simp only [known_entry, known_diagnostic] at entry diagnostic
          simp [ entry?, entry, diagnostic]
      | true => simpa [ entry?] using ((each q).1 tracked).covers
    · cases tracked : r.tracks q with
      | false => cases ((each q).2 tracked).1.symm.trans here
      | true => exact ((each q).1 tracked).current e here

/-- A file that is read and visited is known as it is held. -/
theorem matches_visit (tracked : r.tracks p = true) (k : Knowledge) :
    ((r.visit? s p).elim k (Action.effect w r k)).Matches (s.get? p) := by
  have looks : ¬ r.passes s p = true := by
    rw [passes, tracked, MemoryStore.ignores_eq_false]
    decide
  rw [visit?, if_neg looks]
  cases held : s.get? p with
  | none =>
      rw [MemoryStore.read_eq_notFound held]
      exact Knowledge.matches_none.mpr ⟨rfl, rfl⟩
  | some text =>
      rw [MemoryStore.read_eq_ok held]
      simp only [Option.elim_some, Action.effect]
      split
      · exact ⟨by simp, fun e made => by cases made; rfl⟩
      · rename_i shown unsupported
        exact absurd unsupported (Document.read_ne_unsupported (source_of_tracks tracked))
      · exact ⟨by simp, fun e absent => by cases absent⟩

/-- A change of a file that is read brings what is known of it in step, unless it is told to be
deleted and is held. -/
theorem matches_follow (tracked : r.tracks q = true) (here : q.components = c.path.components)
    (gone : c.kind = .deleted → s.get? q = none) :
    ((r.follow w s c).known q).Matches (s.get? q) := by
  have tracks : r.tracks c.path = true := (tracks_congr here r).symm.trans tracked
  rw [known_follow, if_pos here, response?]
  cases kind : c.kind with
  | deleted =>
      rw [gone kind]
      exact Knowledge.matches_none.mpr ⟨rfl, rfl⟩
  | created | changed =>
      rw [MemoryStore.get?_congr here]
      exact matches_visit tracks _

/-- A registry stays in step when it follows changes that account for what has become of the store. -/
theorem InStep.followAll (step : r.InStep s) (accounts : Accounts s s' cs) :
    (r.followAll w s' cs).InStep s' := by
  refine inStep_iff.mpr fun q => ?_
  rw [followAll_tracks]
  obtain ⟨wanted, unwanted⟩ := inStep_iff.mp step q
  refine ⟨fun tracked => ?_, fun untracked => ?_⟩
  · have source := source_of_tracks tracked
    cases latest : Change.latest? q cs with
    | none =>
        rw [followAll_untouched latest, accounts.told q source latest]
        exact wanted tracked
    | some c =>
        have gone := accounts.gone q c source latest
        obtain ⟨same, before, after, rfl, later⟩ := Change.latest?_split latest
        rw [followAll_split later]
        exact matches_follow ((followAll_tracks before q).trans tracked) same gone
  · have blank := unwanted untracked
    rw [followAll_passed (fun c _ here => ?_) blank]
    · exact blank
    · rw [passes, ← tracks_congr here, untracked]
      rfl

theorem inStep_new (identifierName : String) (next : Nat) (root : Path) :
    (Registry.new identifierName next).InStep ⟨root, .empty⟩ :=
  inStep_iff.mpr fun _ => ⟨fun _ => Knowledge.matches_none.mpr ⟨rfl, rfl⟩, fun _ => ⟨rfl, rfl⟩⟩

/-- **Notifications keep a registry in step.**  Let a registry be in step with a store in memory.
Whatever is done to one file of the store, or to two by a rename, whether these are sources or
are read or not and whether the target was there or not: when the registry follows the changes
that come of notifications which tell of it, over the store as it is now, it is in step
again. -/
theorem notifications_keep_step (w : Workshop) {op : FileOperation} {ns : List Notification}
    (step : r.InStep s) (describes : op.Describes ns) :
    (r.followAll w (op.apply s) (ns.flatMap Notification.changes)).InStep (op.apply s) :=
  step.followAll (describes.accounts s)

/-! ### Runs -/

variable (w) in
/-- Do one thing after the other to the files of a store, a registry following what is told of each. -/
def keepUp : Registry × MemoryStore → List (FileOperation × List Notification) → Registry × MemoryStore
  | now, [] => now
  | (r, s), (op, ns) :: log =>
      keepUp (r.followAll w (op.apply s) (ns.flatMap Notification.changes), op.apply s) log

theorem InStep.keepUp {log : List (FileOperation × List Notification)} (step : r.InStep s)
    (described : ∀ told ∈ log, told.1.Describes told.2) :
    (keepUp w (r, s) log).1.InStep (keepUp w (r, s) log).2 := by
  induction log generalizing r s with
  | nil => exact step
  | cons told log ih =>
      obtain ⟨first, later⟩ := List.forall_mem_cons.mp described
      exact ih (step.followAll (first.accounts s)) later

/-! ## Pole -/

open Session (deskWorkshop deskPath)

/-- Files of which only the first one is source. -/
def aside : Path × Path := (⟨"/p/c.jsx"⟩, ⟨"/p/a.css"⟩)

/-- A file is written, renamed to another source and from there to a file that is not source, each time
told in another shape. -/
theorem notifications_keep_step_renamed :
    let start : MemoryStore := ⟨⟨"/p"⟩, .empty⟩
    let written := (FileOperation.write deskPath "<b/>;").apply start
    let moved := (FileOperation.rename deskPath aside.1).apply written
    let gone := (FileOperation.rename aside.1 aside.2).apply moved
    let r := (Registry.new "data-uid" 0).followAll deskWorkshop written
      ([⟨.create, [deskPath]⟩].flatMap Notification.changes)
    let r' := r.followAll deskWorkshop moved
      ([⟨.rename .before, [deskPath]⟩, ⟨.rename .after, [aside.1]⟩].flatMap Notification.changes)
    let r'' := r'.followAll deskWorkshop gone
      ([⟨.rename .unknown, [aside.2, aside.1]⟩].flatMap Notification.changes)
    r.InStep written ∧ r'.InStep moved ∧ r''.InStep gone ∧
    (r.entry? deskPath).isSome = true ∧ (r'.entry? aside.1).isSome = true ∧
    r'.entries.size = 1 ∧ r''.entries.size = 0 := by
  intro start written moved gone r r' r''
  have first : r.InStep written :=
    notifications_keep_step deskWorkshop (inStep_new "data-uid" 0 ⟨"/p"⟩) (.created rfl)
  have second : r'.InStep moved :=
    notifications_keep_step deskWorkshop first (.renamedSides rfl rfl)
  have third : r''.InStep gone :=
    notifications_keep_step deskWorkshop second <| .renamedUnknown
      (fun n listed => by rw [List.mem_singleton.mp listed])
      ⟨aside.1, by simp, rfl⟩ ⟨aside.2, by simp, rfl⟩
  exact ⟨first, second, third, by decide +kernel⟩

end Registry

end LiveMarkup
