import LiveMarkup.Project.Session
import LiveMarkup.Proofs.Project.Registry
/-
# LiveMarkup.Proofs.Project.Session -- what the operations of a session do

An edit is one of three things (`edit_cases`): refused with nothing done, found to change
nothing, or committed; a commit stops at the store or comes to an end (`commit_cases`).
Following changes is a fold of one step for each change (`follow_value`).

`Reachable` are the sessions that come about by loading, following changes and editing,
while others write to the store as they like.  Their registries are sound, and have whatever
the operations of registries keep (`Reachable.registry_induction`).
-/

namespace LiveMarkup.Session

set_option autoImplicit false

open LiveMarkup.Syntax

variable {σ : Type} [SourceStore σ] (w : Workshop)

/-! ## Writing the component map -/

/-- Two sessions that differ at most by a component map, which may have been written. -/
structure DiffersByMap (s s' : Session σ) : Prop where
  registry : s'.registry = s.registry
  written : s'.written = s.written
  artifactPath : s'.artifactPath = s.artifactPath
  store : s'.store = s.store ∨ ∃ path text,
    s.artifactPath = some path ∧ s'.store = (SourceStore.write s.store path text).2

/-- Building the component map anew writes at most the file of the map. -/
theorem regenerate_differs (s : Session σ) (report : CycleReport) :
    DiffersByMap s (s.regenerate report).value.2 := by
  simp only [regenerate, Logged.bind_value]
  split
  · exact ⟨rfl, rfl, rfl, Or.inl rfl⟩
  · rename_i path artifact
    split
    · exact ⟨rfl, rfl, rfl, Or.inl rfl⟩
    · split
      · rename_i store wrote
        exact ⟨rfl, rfl, rfl, Or.inr ⟨path, _, artifact, (congrArg Prod.snd wrote).symm⟩⟩
      · rename_i store wrote
        exact ⟨rfl, rfl, rfl, Or.inr ⟨path, _, artifact, (congrArg Prod.snd wrote).symm⟩⟩

theorem load_moves (s : Session σ) :
    Registry.Moves w s.registry (s.load w).value.2.registry := by
  have moves := Registry.loadAll_moves w s.registry s.store
  simp only [load, Logged.bind_value]
  split
  · exact moves
  · rw [(regenerate_differs _ _).registry]
    exact moves

/-! ## Following changes -/

/-- The session behind one change. -/
def heed (s : Session σ) (c : Change) : Session σ :=
  if (s.takeEcho c).1 then (s.takeEcho c).2
  else
    { (s.takeEcho c).2 with
      registry := ((s.takeEcho c).2.registry.applyChange w (s.takeEcho c).2.store c).value.2 }

theorem follow_value (cs : List Change) (report : CycleReport) (s : Session σ) :
    (follow w cs report s).value.2 = cs.foldl (heed w) s := by
  induction cs generalizing report s with
  | nil => rfl
  | cons c cs ih =>
      simp only [follow, List.foldl_cons, heed]
      split
      · exact ih report _
      · simp only [Logged.bind_value]
        split
        · exact ih _ _
        · exact ih _ _

theorem runCycle_value (s : Session σ) (changes : ChangeSet) :
    ∃ report, (s.runCycle w changes).value.2 =
      ((changes.changes.foldl (heed w) s).regenerate report).value.2 := by
  refine ⟨(follow w changes.changes ⟨0, 0, 0, false⟩ s).value.1, ?_⟩
  simp only [runCycle, Logged.bind_value, ← follow_value w changes.changes ⟨0, 0, 0, false⟩ s]

theorem takeEcho_registry (s : Session σ) (c : Change) : (s.takeEcho c).2.registry = s.registry := by
  unfold takeEcho
  split
  · split <;> rfl
  · rfl

theorem heed_moves (s : Session σ) (c : Change) :
    Registry.Moves w s.registry (s.heed w c).registry := by
  unfold heed
  split
  · rw [takeEcho_registry]
  · have moves := Registry.applyChange_moves w s.registry (s.takeEcho c).2.store c
    simpa only [takeEcho_registry] using moves

theorem foldl_heed_moves (cs : List Change) (s : Session σ) :
    Registry.Moves w s.registry (cs.foldl (heed w) s).registry := by
  induction cs generalizing s with
  | nil => exact .refl
  | cons c cs ih => exact (heed_moves w s c).trans (ih _)

theorem runCycle_moves (s : Session σ) (changes : ChangeSet) :
    Registry.Moves w s.registry (s.runCycle w changes).value.2.registry := by
  obtain ⟨report, value⟩ := runCycle_value w s changes
  rw [value, (regenerate_differs _ _).registry]
  exact foldl_heed_moves w changes.changes s

/-! ## Editing -/

/-- What an edit makes of the tree of the file that has the element: the element that was
found, what the patch did, and the patched tree. -/
def patched? (s : Session σ) (e : Edit) : Option (FoundElement × Property.PatchOutcome × Module) :=
  (s.registry.find? e.uid).bind fun found =>
    match found.entry.instrumented.update? s.registry.identifierName e.uid
        (Markup.patchStep w.language e.name e.value) with
    | some (.ok patch, m) => some (found, patch, m)
    | _ => none

omit [SourceStore σ] in
theorem patched?_find {s : Session σ} {e : Edit} {found : FoundElement}
    {patch : Property.PatchOutcome} {m : Module} (patched : s.patched? w e = some (found, patch, m)) :
    s.registry.find? e.uid = some found := by
  simp only [patched?, Option.bind_eq_some_iff] at patched
  obtain ⟨element, find, rest⟩ := patched
  split at rest
  · obtain ⟨rfl, -⟩ := Prod.mk.inj (Option.some.inj rest)
    exact find
  · cases rest

/-- An edit is refused, changes nothing, or is committed. -/
theorem edit_cases (s : Session σ) (e : Edit) :
    (∃ f, (s.edit w e).value = (.error f, s) ∧ ∀ g, f ≠ .unreadable g) ∨
    (∃ o, (s.edit w e).value = (.ok o, s) ∧ o.patch.action = .unchanged) ∨
    (∃ found patch m, s.patched? w e = some (found, patch, m) ∧ patch.action ≠ .unchanged ∧
      (s.edit w e).value = (s.commit w found.entry.path m patch).value) := by
  unfold edit
  split
  · exact Or.inl ⟨_, rfl, by simp⟩
  · split
    · exact Or.inl ⟨_, rfl, by simp⟩
    · rename_i found find
      split
      · exact Or.inl ⟨_, rfl, by simp⟩
      · exact Or.inl ⟨_, rfl, by simp⟩
      · rename_i patch m update
        simp only [Logged.bind_value]
        split
        · rename_i unchanged
          exact Or.inr (Or.inl ⟨_, rfl, unchanged⟩)
        · rename_i changed
          refine Or.inr (Or.inr ⟨found, patch, m, ?_, changed, rfl⟩)
          simp [patched?, find, update]

/-- A commit stops when the store refuses the text; otherwise it remembers the text and
answers with what taking in the tree with identifiers gives. -/
theorem commit_cases (s : Session σ) (path : Path) (m : Module) (patch : Property.PatchOutcome) :
    (∃ f store, SourceStore.write s.store path (s.writtenText w.language m) = (.error f, store) ∧
      (s.commit w path m patch).value = (.error (.store f), { s with store })) ∨
    (∃ store, SourceStore.write s.store path (s.writtenText w.language m) = (.ok (), store) ∧
      (s.commit w path m patch).value =
        (match (s.registry.ingest w path (w.language.printModule m)).value.1 with
          | .error f => .error (.unreadable f)
          | .ok entry => .ok ⟨path, entry.version, patch⟩,
          { s with
            store
            written := s.written.insert path (s.writtenText w.language m)
            registry := (s.registry.ingest w path (w.language.printModule m)).value.2 })) := by
  simp only [commit]
  split
  · rename_i f store wrote
    exact Or.inl ⟨f, store, wrote, rfl⟩
  · rename_i store wrote
    refine Or.inr ⟨store, wrote, ?_⟩
    simp only [Logged.bind_value]
    split <;> simp_all

theorem edit_moves (s : Session σ) (e : Edit) :
    Registry.Moves w s.registry (s.edit w e).value.2.registry := by
  rcases edit_cases w s e with ⟨f, value, -⟩ | ⟨o, value, -⟩ | ⟨found, patch, m, -, -, value⟩
  · rw [value]
  · rw [value]
  · rw [value]
    rcases commit_cases w s found.entry.path m patch with ⟨f, store, -, value⟩ | ⟨store, -, value⟩
    · rw [value]
    · rw [value]
      exact Registry.ingest_moves w s.registry _ _

/-! ## Reachable sessions -/

/-- The sessions that come about; the store may be changed by others at any time. -/
inductive Reachable : Session σ → Prop where
  | new (config : Config) (store : σ) (next : Nat) : Reachable (Session.new config store next)
  | load {s : Session σ} (reached : Reachable s) : Reachable (s.load w).value.2
  | runCycle {s : Session σ} (reached : Reachable s) (changes : ChangeSet) :
      Reachable (s.runCycle w changes).value.2
  | edit {s : Session σ} (reached : Reachable s) (e : Edit) : Reachable (s.edit w e).value.2
  | outside {s : Session σ} (reached : Reachable s) (store : σ) : Reachable { s with store }

theorem new_sound (config : Config) (store : σ) (next : Nat) :
    (Session.new config store next).registry.Sound := by
  have sound := Registry.sound_new config.identifierAttribute next
  simp only [new]
  split
  · exact sound.exclude _
  · exact sound

theorem Reachable.sound {s : Session σ} (reached : Reachable w s) : s.registry.Sound := by
  induction reached with
  | new config store next => exact new_sound config store next
  | load _ ih => exact (load_moves w _).sound w ih
  | runCycle _ changes ih => exact (runCycle_moves w _ changes).sound w ih
  | edit _ e ih => exact (edit_moves w _ e).sound w ih
  | outside _ store ih => exact ih

variable {w} in
theorem foldl_heed_induction {P : Registry → Prop}
    (applyChange : ∀ (r : Registry) (store : σ) (c : Change), P r → P (r.applyChange w store c).value.2)
    (cs : List Change) (s : Session σ) (start : P s.registry) : P (cs.foldl (heed w) s).registry := by
  induction cs generalizing s with
  | nil => exact start
  | cons c cs ih =>
      refine ih _ ?_
      unfold heed
      split
      · rw [takeEcho_registry]
        exact start
      · rw [takeEcho_registry]
        exact applyChange _ _ c start

variable {w} in
/-- What the operations of registries keep holds of the registry of every session; a text that is
taken in without being read from the store is one of a file that is known. -/
theorem Reachable.registry_induction {P : Registry → Prop}
    (new : ∀ (config : Config) (store : σ) (next : Nat), P (Session.new config store next).registry)
    (loadAll : ∀ (r : Registry) (store : σ), P r → P (r.loadAll w store).value.2)
    (applyChange : ∀ (r : Registry) (store : σ) (c : Change), P r → P (r.applyChange w store c).value.2)
    (ingest : ∀ (r : Registry) (p : Path) (e : FileEntry) (text : String), r.entries.get? p = some e →
      P r → P (r.ingest w p text).value.2)
    {s : Session σ} (reached : Reachable w s) : P s.registry := by
  induction reached with
  | new config store next => exact new config store next
  | @load s _ ih =>
      have loaded := loadAll s.registry s.store ih
      simp only [Session.load, Logged.bind_value]
      split
      · exact loaded
      · rw [(regenerate_differs _ _).registry]
        exact loaded
  | @runCycle s _ changes ih =>
      obtain ⟨report, value⟩ := runCycle_value w s changes
      rw [value, (regenerate_differs _ _).registry]
      exact foldl_heed_induction applyChange changes.changes s ih
  | @edit s reached e ih =>
      rcases edit_cases w s e with ⟨f, value, -⟩ | ⟨o, value, -⟩ | ⟨found, patch, m, patched, -, value⟩
      · rw [value]
        exact ih
      · rw [value]
        exact ih
      · have listed := Registry.find?_entry_mem (patched?_find w patched)
        rw [value]
        rcases commit_cases w s found.entry.path m patch with ⟨f, store, -, value⟩ | ⟨store, -, value⟩
        · rw [value]
          exact ih
        · rw [value]
          exact ingest _ _ _ _ ((reached.sound w).get?_of_mem listed).1 ih
  | outside _ store ih => exact ih

/-! ## A desk

One script in memory, read with the standard language: the place of the poles of the
modules that import this one. -/

def deskWorkshop : Workshop := ⟨.standard, .counted 0⟩

def deskPath : Path := ⟨"/p/a.js"⟩

def deskStore (text : String) : MemoryStore := MemoryStore.put ⟨⟨"/p"⟩, .empty⟩ deskPath text

/-- A session that has just read a store. -/
def opened (store : σ) : Session σ := ((Session.new .standard store 0).load deskWorkshop).value.2

def deskText : String := "<b data-uid='k' a='0'/>;"

def desk : Session MemoryStore := opened (deskStore deskText)

/-- The element `k` with its attribute `a` set to `null`. -/
def nullEdit : Edit := ⟨"k", "a", .null⟩

theorem opened_reachable (store : σ) : Reachable deskWorkshop (opened store) := .load (.new _ _ _)

end LiveMarkup.Session
