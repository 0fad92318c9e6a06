import LiveMarkup.Proofs.Project.Currency
import LiveMarkup.Proofs.Project.Session
/-
# LiveMarkup.Proofs.Project.Round -- the work of a session in memory, seen at one path

A set of changes has at most one change of a path, and the changes of other paths do not
matter to it (`heed_still`).  So what a round of work in memory does at a path is decided
by the notice there is of it: without a notice nothing happens (`runCycle_silent`), a
deletion makes the file forgotten (`runCycle_deleted`), the notice of an own write is
skipped (`runCycle_echo`), and otherwise the file is read again (`runCycle_read`).  An
edit does something at one path only (`edit_memory`).

The file of the component map is written behind everybody's back, but it is none of the
files that are read (`Apart`).
-/

namespace LiveMarkup.Session

set_option autoImplicit false

variable (w : Workshop) {s s' s'' : Session MemoryStore} {p q : Path}

/-! ## Rules -/

/-- The file of the component map is not read. -/
def Apart (s : Session MemoryStore) : Prop :=
  ∀ path, s.artifactPath = some path → s.registry.tracks path = false

variable {w} in
theorem Apart.moves (apart : s.Apart) (moves : Registry.Moves w s.registry s'.registry)
    (same : s'.artifactPath = s.artifactPath) : s'.Apart := by
  intro path artifact
  rw [moves.tracks]
  exact apart path (same.symm.trans artifact)

theorem new_apart (config : Config) (store : MemoryStore) (next : Nat) :
    (Session.new config store next).Apart := by
  intro path artifact
  have self : (path == path) = true := Path.beq_iff.mpr rfl
  simp only [new] at artifact ⊢
  rw [artifact]
  simp [Registry.tracks, Registry.exclude, self]

theorem takeEcho_artifactPath (s : Session MemoryStore) (c : Change) :
    (s.takeEcho c).2.artifactPath = s.artifactPath := by
  unfold takeEcho
  split
  · split <;> rfl
  · rfl

theorem foldl_heed_artifactPath (cs : List Change) (s : Session MemoryStore) :
    (cs.foldl (heed w) s).artifactPath = s.artifactPath := by
  induction cs generalizing s with
  | nil => rfl
  | cons c cs ih =>
      have one : (s.heed w c).artifactPath = s.artifactPath := by
        unfold heed
        split <;> exact takeEcho_artifactPath s c
      exact (ih _).trans one

theorem runCycle_artifactPath (s : Session MemoryStore) (changes : ChangeSet) :
    (s.runCycle w changes).value.2.artifactPath = s.artifactPath := by
  obtain ⟨report, value⟩ := runCycle_value w s changes
  rw [value, (regenerate_differs _ _).artifactPath, foldl_heed_artifactPath]

theorem load_value (s : Session MemoryStore) :
    ∃ report, (s.load w).value =
      (Session.regenerate { s with registry := (s.registry.loadAll w s.store).value.2 } report).value :=
  ⟨_, rfl⟩

theorem load_artifactPath (s : Session MemoryStore) :
    (s.load w).value.2.artifactPath = s.artifactPath := by
  obtain ⟨report, value⟩ := load_value w s
  rw [value, (regenerate_differs _ _).artifactPath]

theorem edit_artifactPath (s : Session MemoryStore) (e : Edit) :
    (s.edit w e).value.2.artifactPath = s.artifactPath := by
  rcases edit_cases w s e with ⟨f, value, -⟩ | ⟨o, value, -⟩ | ⟨found, patch, m, -, -, value⟩
  · rw [value]
  · rw [value]
  · rw [value]
    rcases commit_cases w s found.entry.path m patch with ⟨f, store, -, value⟩ | ⟨store, -, value⟩
    · rw [value]
    · rw [value]

/-! ## What does not matter to a path -/

/-- Nothing has happened at a path. -/
structure Still (p : Path) (s s' : Session MemoryStore) : Prop where
  tracks : s'.registry.tracks p = s.registry.tracks p
  known : s'.registry.known p = s.registry.known p
  written : s'.written.get? p = s.written.get? p
  held : s'.store.get? p = s.store.get? p

theorem Still.refl (p : Path) (s : Session MemoryStore) : Still p s s := ⟨rfl, rfl, rfl, rfl⟩

theorem Still.trans (first : Still p s s') (second : Still p s' s'') : Still p s s'' :=
  ⟨second.tracks.trans first.tracks, second.known.trans first.known,
    second.written.trans first.written, second.held.trans first.held⟩

theorem takeEcho_still (s : Session MemoryStore) {c : Change} (other : p.components ≠ c.path.components) :
    Still p s (s.takeEcho c).2 := by
  unfold takeEcho
  split
  · split
    · exact .refl p s
    · refine ⟨rfl, rfl, ?_, rfl⟩
      rw [OrderedMap.get?_erase, if_neg (fun same => other (Path.compare_eq_iff.mp same))]
  · exact .refl p s

/-- The change of another file does not matter. -/
theorem heed_still (s : Session MemoryStore) {c : Change} (other : p.components ≠ c.path.components) :
    Still p s (s.heed w c) := by
  have taken : Still p s (s.takeEcho c).2 := takeEcho_still s other
  unfold heed
  split
  · exact taken
  · have differs := Registry.applyChange_differs w (s.takeEcho c).2.registry (s.takeEcho c).2.store c
    exact taken.trans ⟨differs.tracks p, differs.known p other, rfl, rfl⟩

theorem foldl_heed_still (cs : List Change) (s : Session MemoryStore)
    (others : ∀ c ∈ cs, p.components ≠ c.path.components) : Still p s (cs.foldl (heed w) s) := by
  induction cs generalizing s with
  | nil => exact .refl p s
  | cons c cs ih =>
      have here : Still p s (s.heed w c) := heed_still w s (others c List.mem_cons_self)
      exact here.trans (ih _ fun c' later => others c' (List.mem_cons_of_mem _ later))

/-- Writing the component map does not matter to a file that is read. -/
theorem regenerate_still (apart : s.Apart) (tracked : s.registry.tracks p = true) (report : CycleReport) :
    Still p s (s.regenerate report).value.2 := by
  obtain ⟨registry, written, -, store⟩ := regenerate_differs s report
  refine ⟨by rw [registry], by rw [registry], by rw [written], ?_⟩
  rcases store with same | ⟨path, text, artifact, wrote⟩
  · rw [same]
  · have other : p.components ≠ path.components := by
      intro same
      rw [Registry.tracks_congr same, apart path artifact] at tracked
      cases tracked
    rw [wrote]
    exact MemoryStore.get?_put.trans (if_neg other)

/-- In memory the component map can always be written. -/
theorem regenerate_ok (s : Session MemoryStore) (report : CycleReport) :
    ∃ done, (s.regenerate report).value.1 = .ok done := by
  simp only [regenerate, Logged.bind_value]
  split
  · exact ⟨_, rfl⟩
  · split
    · exact ⟨_, rfl⟩
    · exact ⟨_, rfl⟩

theorem runCycle_ok (s : Session MemoryStore) (changes : ChangeSet) :
    ∃ done, (s.runCycle w changes).value.1 = .ok done := by
  simp only [runCycle, Logged.bind_value]
  exact regenerate_ok _ _

/-! ## What a round does at a path -/

/-- A notice is taken for that of an own write when the text that was written is held. -/
theorem takeEcho_iff : (s.takeEcho ⟨.changed, p⟩).1 = true ↔
    ∃ text, s.written.get? p = some text ∧ s.store.get? p = some text := by
  simp only [takeEcho, if_true]
  cases written : s.written.get? p with
  | none => simp
  | some text =>
      cases held : s.store.get? p with
      | none => simp [MemoryStore.read_eq_notFound held]
      | some now => simp [MemoryStore.read_eq_ok held]

theorem takeEcho_congr (still : Still p s s') (same : p.components = q.components) :
    (s'.takeEcho ⟨.changed, q⟩).1 = (s.takeEcho ⟨.changed, p⟩).1 := by
  have written : s'.written.get? q = s.written.get? p :=
    (OrderedMap.get?_congr (Path.compare_eq_iff.mpr same) _).symm.trans still.written
  have held : s'.store.get? q = s.store.get? p :=
    (MemoryStore.get?_congr same).symm.trans still.held
  rw [Bool.eq_iff_iff, takeEcho_iff, takeEcho_iff, written, held]

theorem takeEcho_written (same : p.components = q.components) :
    (s.takeEcho ⟨.changed, q⟩).2.written.get? p = none := by
  have key : s.written.get? p = s.written.get? q :=
    OrderedMap.get?_congr (Path.compare_eq_iff.mpr same) _
  simp only [takeEcho, if_true]
  cases written : s.written.get? q with
  | none => exact key.trans written
  | some text => exact (OrderedMap.get?_erase _ _ _).trans (if_pos (Path.compare_eq_iff.mpr same))

theorem takeEcho_held (s : Session MemoryStore) (c : Change) : (s.takeEcho c).2.store = s.store := by
  unfold takeEcho
  split
  · split <;> rfl
  · rfl

theorem heed_held (s : Session MemoryStore) (c : Change) : (s.heed w c).store = s.store := by
  unfold heed
  split <;> exact takeEcho_held s c

theorem foldl_heed_held (cs : List Change) (s : Session MemoryStore) :
    (cs.foldl (heed w) s).store = s.store := by
  induction cs generalizing s with
  | nil => rfl
  | cons c cs ih => exact (ih _).trans (heed_held w s c)

theorem heed_written (s : Session MemoryStore) (c : Change) :
    (s.heed w c).written = (s.takeEcho c).2.written := by
  unfold heed
  split <;> rfl

/-- The notice of an own write is skipped. -/
theorem heed_echo {c : Change} (echo : (s.takeEcho c).1 = true) :
    (s.heed w c).registry = s.registry := by
  unfold heed
  rw [if_pos echo, takeEcho_registry]

/-- Another notice is followed. -/
theorem heed_follow {c : Change} (other : (s.takeEcho c).1 = false) :
    (s.heed w c).registry = (s.registry.applyChange w s.store c).value.2 := by
  unfold heed
  rw [if_neg (by simp [other]), takeEcho_registry, takeEcho_held]

section Round

variable (apart : s.Apart) (tracked : s.registry.tracks p = true) {changes : ChangeSet}

include apart tracked

/-- Behind the changes only the component map is to be written. -/
theorem foldl_heed_runCycle :
    Still p (changes.changes.foldl (heed w) s) (s.runCycle w changes).value.2 := by
  have moves := foldl_heed_moves w changes.changes s
  obtain ⟨report, value⟩ := runCycle_value w s changes
  rw [value]
  exact regenerate_still (apart.moves moves (foldl_heed_artifactPath w _ s))
    ((moves.tracks p).trans tracked) report

/-- A path of which there is no notice is left alone. -/
theorem runCycle_silent (silent : changes.kinds.get? p = none) :
    Still p s (s.runCycle w changes).value.2 := by
  refine Still.trans (foldl_heed_still w changes.changes s ?_) (foldl_heed_runCycle w apart tracked)
  intro c listed same
  obtain ⟨e, entry, rfl⟩ := List.mem_map.mp listed
  have found := OrderedMap.find_isSome_of_mem entry (Path.compare_eq_iff.mpr same)
  rw [show OrderedMap.find p changes.kinds.entries = none from silent] at found
  cases found

/-- A path of which there is a notice is treated as if there were no other notices. -/
theorem runCycle_noticed (ordered : changes.kinds.Ordered) {kind : ChangeKind}
    (notice : changes.kinds.get? p = some kind) :
    ∃ s₁ q, p.components = q.components ∧ Still p s s₁ ∧
      Still p (s₁.heed w ⟨kind, q⟩) (s.runCycle w changes).value.2 := by
  obtain ⟨before, q, after, entries, same, early, late⟩ := ordered.get?_split notice
  have split : changes.changes =
      before.map (fun e => ⟨e.2, e.1⟩) ++ ⟨kind, q⟩ :: after.map fun e => ⟨e.2, e.1⟩ := by
    simp only [ChangeSet.changes, entries, List.map_append, List.map_cons]
  have apartFrom : ∀ es : List (Path × ChangeKind), (∀ e ∈ es, compare p e.1 ≠ .eq) →
      ∀ c ∈ es.map fun e => (⟨e.2, e.1⟩ : Change), p.components ≠ c.path.components := by
    intro es others c listed equal
    obtain ⟨e, entry, rfl⟩ := List.mem_map.mp listed
    exact others e entry (Path.compare_eq_iff.mpr equal)
  refine ⟨(before.map fun e => ⟨e.2, e.1⟩).foldl (heed w) s, q, Path.compare_eq_iff.mp same,
    foldl_heed_still w _ s (apartFrom before early), ?_⟩
  refine Still.trans ?_ (foldl_heed_runCycle w apart tracked)
  rw [split, List.foldl_append, List.foldl_cons]
  exact foldl_heed_still w _ _ (apartFrom after late)

theorem runCycle_held : (s.runCycle w changes).value.2.store.get? p = s.store.get? p := by
  rw [(foldl_heed_runCycle w apart tracked).held, foldl_heed_held]

variable (ordered : changes.kinds.Ordered)

include ordered

/-- A notice of a change spends what was remembered; other notices do not. -/
theorem runCycle_written : (s.runCycle w changes).value.2.written.get? p =
    if changes.kinds.get? p = some .changed then none else s.written.get? p := by
  cases notice : changes.kinds.get? p with
  | none => exact (runCycle_silent w apart tracked notice).written
  | some kind =>
      obtain ⟨s₁, q, same, before, after⟩ := runCycle_noticed w apart tracked ordered notice
      rw [after.written, heed_written]
      cases kind with
      | changed => exact takeEcho_written same
      | created => exact before.written
      | deleted => exact before.written

theorem runCycle_deleted (notice : changes.kinds.get? p = some .deleted) :
    ((s.runCycle w changes).value.2.registry.known p).entry = none ∧
      ((s.runCycle w changes).value.2.registry.known p).diagnostic = none := by
  obtain ⟨s₁, q, same, -, after⟩ := runCycle_noticed w apart tracked ordered notice
  rw [after.known, heed_follow w rfl]
  show ((s₁.registry.remove q).known p).entry = none ∧ ((s₁.registry.remove q).known p).diagnostic = none
  rw [Registry.known_remove, if_pos same]
  exact ⟨rfl, rfl⟩

theorem runCycle_echo (notice : changes.kinds.get? p = some .changed)
    (echo : (s.takeEcho ⟨.changed, p⟩).1 = true) :
    (s.runCycle w changes).value.2.registry.known p = s.registry.known p := by
  obtain ⟨s₁, q, same, before, after⟩ := runCycle_noticed w apart tracked ordered notice
  rw [after.known, heed_echo w ((takeEcho_congr before same).trans echo), before.known]

/-- The notice of a creation or of a change by others is followed. -/
theorem runCycle_follow (notice : changes.kinds.get? p = some .created ∨
    changes.kinds.get? p = some .changed ∧ (s.takeEcho ⟨.changed, p⟩).1 = false) :
    ∃ s₁ q, p.components = q.components ∧ Still p s s₁ ∧ (s.runCycle w changes).value.2.registry.known p =
      (s₁.registry.refresh w s₁.store q).value.2.known p := by
  rcases notice with created | ⟨changed, foreign⟩
  · obtain ⟨s₁, q, same, before, after⟩ := runCycle_noticed w apart tracked ordered created
    refine ⟨s₁, q, same, before, ?_⟩
    rw [after.known, heed_follow w rfl]
    rfl
  · obtain ⟨s₁, q, same, before, after⟩ := runCycle_noticed w apart tracked ordered changed
    refine ⟨s₁, q, same, before, ?_⟩
    rw [after.known, heed_follow w ((takeEcho_congr before same).trans foreign)]
    rfl

/-- A file that was created or changed by others is read again. -/
theorem runCycle_read (notice : changes.kinds.get? p = some .created ∨
    changes.kinds.get? p = some .changed ∧ (s.takeEcho ⟨.changed, p⟩).1 = false) :
    ((s.runCycle w changes).value.2.registry.known p).Current w.language p (s.store.get? p) none := by
  obtain ⟨s₁, q, same, before, known⟩ := runCycle_follow w apart tracked ordered notice
  rw [known, ← before.held]
  exact Registry.refresh_current w (before.tracks.trans tracked) same

end Round

/-- Behind a load everything is current. -/
theorem load_current (apart : s.Apart) (tracked : s.registry.tracks p = true) :
    ((s.load w).value.2.registry.known p).Current w.language p ((s.load w).value.2.store.get? p) none ∧
      (s.load w).value.2.written = s.written := by
  have moves := Registry.loadAll_moves w s.registry s.store
  have loaded : Apart { s with registry := (s.registry.loadAll w s.store).value.2 } := apart.moves moves rfl
  obtain ⟨report, value⟩ := load_value w s
  have still := regenerate_still loaded ((moves.tracks p).trans tracked) report
  rw [value, still.known, still.held, (regenerate_differs _ _).written]
  exact ⟨Registry.loadAll_current w tracked, rfl⟩

/-! ## What an edit does at a path -/

/-- What an edit does in memory: nothing, or it touches one file, which is as it was
written then, or is not known any more. -/
theorem edit_memory (sound : s.registry.Sound) (e : Edit) :
    (∃ f, (s.edit w e).value = (.error f, s) ∧ ∀ g, f ≠ .unreadable g) ∨
    (∃ o, (s.edit w e).value = (.ok o, s) ∧ o.patch.action = .unchanged) ∨
    (∃ found s', s.registry.find? e.uid = some found ∧
      (∀ p : Path, p.components ≠ found.entry.path.components → Still p s s') ∧
      ((∃ o text entry, (s.edit w e).value = (.ok o, s') ∧ o.patch.action ≠ .unchanged ∧
          o.path = found.entry.path ∧ s'.written.get? o.path = some text ∧
          s'.store.get? o.path = some text ∧ s'.registry.entries.get? o.path = some entry) ∨
        ∃ g, (s.edit w e).value = (.error (.unreadable g), s'))) := by
  rcases edit_cases w s e with refused | unchanged | ⟨found, patch, m, patched, changed, value⟩
  · exact Or.inl refused
  · exact Or.inr (Or.inl unchanged)
  · right
    right
    have find := patched?_find w patched
    have source := (sound.get?_of_mem (Registry.find?_entry_mem find)).2.2
    rcases commit_cases w s found.entry.path m patch with ⟨f, store, wrote, -⟩ | ⟨store, wrote, committed⟩
    · cases wrote
    · obtain rfl : s.store.put found.entry.path (s.writtenText w.language m) = store :=
        congrArg Prod.snd wrote
      have self : compare found.entry.path found.entry.path = .eq := Std.ReflCmp.compare_self
      rw [value]
      refine ⟨found, (s.commit w found.entry.path m patch).value.2, find, fun p other => ?_, ?_⟩
      · rw [committed]
        have differs := Registry.ingest_differs w s.registry found.entry.path (w.language.printModule m)
        refine ⟨differs.tracks p, differs.known p other, ?_, ?_⟩
        · rw [OrderedMap.get?_insert, if_neg (fun same => other (Path.compare_eq_iff.mp same))]
        · exact MemoryStore.get?_put.trans (if_neg other)
      · rcases Registry.ingest_cases w s.registry found.entry.path (w.language.printModule m) with
          ⟨d, -, ingested⟩ | ⟨shown, other, -⟩ | ⟨f, -, ingested⟩
        · rw [committed, ingested]
          refine Or.inl ⟨_, s.writtenText w.language m,
            (Registry.makeEntry w s.registry d (w.language.printModule m)).1, rfl, changed, rfl, ?_,
            MemoryStore.get?_put.trans (if_pos rfl), ?_⟩
          · rw [OrderedMap.get?_insert, if_pos self]
          · rw [← Registry.known_entry, Registry.known_accept, if_pos rfl]
        · rw [source] at other
          cases other
        · rw [committed, ingested]
          exact Or.inr ⟨f, rfl⟩

end LiveMarkup.Session
