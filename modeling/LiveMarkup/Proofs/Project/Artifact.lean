import LiveMarkup.Proofs.Project.Echo
/-
# LiveMarkup.Proofs.Project.Artifact -- the file of the component map

The component map is written into the store that the sources are read from.  It is never read
from there, because its path is none that the registry reads, and it is never written by an
edit, because an edit writes the file of an element and such a file is read.  So the file
changes when a round of work writes it and at no other time, and what the session keeps of it
(`Posted`) is what the store holds.

`Posting` are the sessions in memory that come about when others leave that file alone, each
with the text that was written last; that text is told by the reports and the store, not by
what the session keeps.  What a round of work does to the file is said by `Published`.
-/

namespace LiveMarkup.Session

set_option autoImplicit false

/-- The text of the component map of a session. -/
def rendering (s : Session MemoryStore) : String := s.components.render s.root s.config.importAlias

/-- What was written at a path last, behind a round of work that reports whether it has written. -/
def lastWritten (path : Path) (last : Option String)
    (round : Except SessionFailure CycleReport × Session MemoryStore) : Option String :=
  match round.1 with
  | .ok report => if report.artifactWritten then round.2.store.get? path else last
  | .error _ => last

variable (w : Workshop)

/-- The sessions in memory that write the component map at a path which others leave alone, with
what was written there last. -/
inductive Posting (path : Path) : Session MemoryStore → Option String → Prop where
  | new (config : Config) (store : MemoryStore) (next : Nat)
      (here : config.artifactPath? store.root = some path) :
      Posting path (Session.new config store next) none
  | load {s : Session MemoryStore} {last : Option String} (posting : Posting path s last) :
      Posting path (s.load w).value.2 (lastWritten path last (s.load w).value)
  | runCycle {s : Session MemoryStore} {last : Option String} (posting : Posting path s last)
      (changes : ChangeSet) :
      Posting path (s.runCycle w changes).value.2 (lastWritten path last (s.runCycle w changes).value)
  | edit {s : Session MemoryStore} {last : Option String} (posting : Posting path s last) (e : Edit) :
      Posting path (s.edit w e).value.2 last
  | outside {s : Session MemoryStore} {last : Option String} (posting : Posting path s last)
      (store : MemoryStore) (untouched : store.get? path = s.store.get? path) :
      Posting path { s with store } last

/-- What a round of work did to the file of the component map. -/
structure Published (path : Path) (last : Option String) (s s' : Session MemoryStore)
    (report : CycleReport) : Prop where
  /-- The map is that of the files that are known. -/
  components : s'.components = s'.registry.componentMap.value
  /-- The store holds its text. -/
  held : s'.store.get? path = some s'.rendering
  /-- It was written when it is not what was written last. -/
  written : report.artifactWritten = true ↔ last ≠ some s'.rendering
  /-- Nothing else was written. -/
  store : s'.store = if report.artifactWritten then s.store.put path s'.rendering else s.store

/-- What a session keeps of the file. -/
structure Posted (path : Path) (s : Session MemoryStore) (last : Option String) : Prop where
  here : s.artifactPath = some path
  kept : s.artifact = last
  held : ∀ text, last = some text → s.store.get? path = some text

variable {w} {path : Path} {s s' : Session MemoryStore} {last : Option String}

/-! ## A round of work -/

/-- The session with the component map built anew. -/
def renewed (s : Session MemoryStore) : Session MemoryStore :=
  { s with components := s.registry.componentMap.value }

theorem regenerate_kept (here : s.artifactPath = some path) (kept : s.artifact = some s.renewed.rendering)
    (report : CycleReport) : (s.regenerate report).value =
      (.ok { report with components := s.renewed.components.size }, s.renewed) := by
  simp only [regenerate, Logged.bind_value, here]
  split
  · simp only [renewed, here]
    rfl
  · rename_i other
    exact absurd kept other

theorem regenerate_written (here : s.artifactPath = some path) (other : s.artifact ≠ some s.renewed.rendering)
    (report : CycleReport) : (s.regenerate report).value =
      (.ok { report with components := s.renewed.components.size, artifactWritten := true },
        { s.renewed with
          store := s.store.put path s.renewed.rendering
          artifact := some s.renewed.rendering }) := by
  simp only [regenerate, Logged.bind_value, here]
  split
  · rename_i kept
    exact absurd kept other
  · simp only [renewed, here]
    rfl

/-- Building the component map anew brings its file up to date. -/
theorem Posted.regenerate (posted : Posted path s last) {report : CycleReport}
    (unwritten : report.artifactWritten = false) :
    ∃ done, (s.regenerate report).value.1 = .ok done ∧
      Published path last s (s.regenerate report).value.2 done ∧
      Posted path (s.regenerate report).value.2 (lastWritten path last (s.regenerate report).value) := by
  obtain ⟨here, kept, held⟩ := posted
  by_cases same : last = some s.renewed.rendering
  · rw [regenerate_kept here (kept.trans same)]
    have stays : s.store.get? path = some s.renewed.rendering := held _ same
    refine ⟨_, rfl, ⟨rfl, stays, ?_, ?_⟩, ⟨here, ?_, ?_⟩⟩
    · show report.artifactWritten = true ↔ last ≠ some s.renewed.rendering
      simp [unwritten, same]
    · show s.store = if report.artifactWritten then _ else s.store
      simp [unwritten]
    · show s.artifact = if report.artifactWritten then _ else last
      simp [unwritten, kept]
    · show ∀ text, (if report.artifactWritten then _ else last) = some text → s.store.get? path = some text
      simpa [unwritten] using held
  · have other : s.artifact ≠ some s.renewed.rendering := by
      rw [kept]
      exact same
    have put : (s.store.put path s.renewed.rendering).get? path = some s.renewed.rendering := by
      rw [MemoryStore.get?_put, if_pos rfl]
    rw [regenerate_written here other]
    refine ⟨_, rfl, ⟨rfl, put, ?_, rfl⟩, ⟨here, put.symm, ?_⟩⟩
    · show true = true ↔ last ≠ some s.renewed.rendering
      simp [same]
    · intro text written
      exact written

/-- A session whose files may have been read again, while nothing was written. -/
structure Reread (s s' : Session MemoryStore) : Prop where
  artifactPath : s'.artifactPath = s.artifactPath
  artifact : s'.artifact = s.artifact
  store : s'.store = s.store

theorem takeEcho_artifact (s : Session MemoryStore) (c : Change) : (s.takeEcho c).2.artifact = s.artifact := by
  unfold takeEcho
  split
  · split
    · rfl
    · rfl
  · rfl

theorem foldl_heed_artifact (cs : List Change) (s : Session MemoryStore) :
    (cs.foldl (heed w) s).artifact = s.artifact := by
  induction cs generalizing s with
  | nil => rfl
  | cons c cs ih =>
      have one : (s.heed w c).artifact = s.artifact := by
        unfold heed
        split
        · exact takeEcho_artifact s c
        · exact takeEcho_artifact s c
      exact (ih _).trans one

theorem foldl_heed_reread (cs : List Change) (s : Session MemoryStore) : Reread s (cs.foldl (heed w) s) :=
  ⟨foldl_heed_artifactPath w cs s, foldl_heed_artifact cs s, foldl_heed_held w cs s⟩

/-- A round of work that begins with reading files ends with a component map that is current. -/
theorem Reread.regenerate {s₁ : Session MemoryStore} (reread : Reread s s₁) (posted : Posted path s last)
    {report : CycleReport} (unwritten : report.artifactWritten = false) :
    ∃ done, (s₁.regenerate report).value.1 = .ok done ∧
      Published path last s (s₁.regenerate report).value.2 done ∧
      Posted path (s₁.regenerate report).value.2 (lastWritten path last (s₁.regenerate report).value) := by
  have posted₁ : Posted path s₁ last := by
    refine ⟨reread.artifactPath.trans posted.here, reread.artifact.trans posted.kept, ?_⟩
    rw [reread.store]
    exact posted.held
  obtain ⟨done, succeeded, published, posted'⟩ := posted₁.regenerate unwritten
  refine ⟨done, succeeded, ⟨published.components, published.held, published.written, ?_⟩, posted'⟩
  rw [← reread.store]
  exact published.store

theorem Posted.load (w : Workshop) (posted : Posted path s last) :
    ∃ done, (s.load w).value.1 = .ok done ∧ Published path last s (s.load w).value.2 done ∧
      Posted path (s.load w).value.2 (lastWritten path last (s.load w).value) := by
  have reread : Reread s { s with registry := (s.registry.loadAll w s.store).value.2 } := ⟨rfl, rfl, rfl⟩
  exact reread.regenerate posted rfl

theorem follow_artifactWritten (cs : List Change) (report : CycleReport) (s : Session MemoryStore) :
    (follow w cs report s).value.1.artifactWritten = report.artifactWritten := by
  induction cs generalizing report s with
  | nil => rfl
  | cons c cs ih =>
      simp only [follow]
      split
      · exact ih report _
      · simp only [Logged.bind_value]
        split
        · exact ih _ _
        · exact ih _ _

theorem Posted.runCycle (w : Workshop) (posted : Posted path s last) (changes : ChangeSet) :
    ∃ done, (s.runCycle w changes).value.1 = .ok done ∧ Published path last s (s.runCycle w changes).value.2 done ∧
      Posted path (s.runCycle w changes).value.2 (lastWritten path last (s.runCycle w changes).value) := by
  have unwritten : (follow w changes.changes ⟨0, 0, 0, false⟩ s).value.1.artifactWritten = false :=
    follow_artifactWritten changes.changes _ s
  have reread : Reread s (follow w changes.changes ⟨0, 0, 0, false⟩ s).value.2 := by
    rw [follow_value]
    exact foldl_heed_reread changes.changes s
  exact reread.regenerate posted unwritten

/-! ## An edit -/

/-- An edit writes to a file that is read, or not at all. -/
theorem edit_store (reached : Reachable w s) (e : Edit) :
    (s.edit w e).value.2.store = s.store ∨ ∃ q text, s.registry.tracks q = true ∧
      (s.edit w e).value.2.store = s.store.put q text := by
  rcases edit_cases w s e with ⟨f, value, -⟩ | ⟨o, value, -⟩ | ⟨found, patch, m, patched, -, value⟩
  · left
    rw [value]
  · left
    rw [value]
  · right
    have listed := Registry.find?_entry_mem (patched?_find w patched)
    have tracked := reached.tracked found.entry.path found.entry ((reached.sound w).get?_of_mem listed).1
    refine ⟨found.entry.path, s.writtenText w.language m, tracked, ?_⟩
    rw [value]
    rcases commit_cases w s found.entry.path m patch with ⟨f, store, wrote, -⟩ | ⟨store, wrote, committed⟩
    · cases wrote
    · rw [committed]
      exact (congrArg Prod.snd wrote).symm

theorem edit_artifact (s : Session MemoryStore) (e : Edit) : (s.edit w e).value.2.artifact = s.artifact := by
  rcases edit_cases w s e with ⟨f, value, -⟩ | ⟨o, value, -⟩ | ⟨found, patch, m, -, -, value⟩
  · rw [value]
  · rw [value]
  · rw [value]
    rcases commit_cases w s found.entry.path m patch with ⟨f, store, -, value⟩ | ⟨store, -, value⟩
    · rw [value]
    · rw [value]

/-- A path that is read is not that of the component map. -/
theorem Posted.apart_of_tracks (posted : Posted path s last) (reached : Reachable w s) {q : Path}
    (tracked : s.registry.tracks q = true) : q.components ≠ path.components := by
  intro same
  rw [Registry.tracks_congr same, reached.apart path posted.here] at tracked
  cases tracked

theorem Posted.edit (posted : Posted path s last) (reached : Reachable w s) (e : Edit) :
    Posted path (s.edit w e).value.2 last := by
  refine ⟨(edit_artifactPath w s e).trans posted.here, (edit_artifact s e).trans posted.kept, ?_⟩
  rcases edit_store reached e with same | ⟨q, text, tracked, put⟩
  · rw [same]
    exact posted.held
  · have other : path.components ≠ q.components := (posted.apart_of_tracks reached tracked).symm
    rw [put, MemoryStore.get?_put, if_neg other]
    exact posted.held

/-! ## Whole runs -/

theorem Posting.reachable (posting : Posting w path s last) : Reachable w s := by
  induction posting with
  | new config store next _ => exact .new config store next
  | load _ ih => exact .load ih
  | runCycle _ changes ih => exact .runCycle ih changes
  | edit _ e ih => exact .edit ih e
  | outside _ store _ ih => exact .outside ih store

/-- What a session keeps of the file of the component map is what was written there last. -/
theorem Posting.posted (posting : Posting w path s last) : Posted path s last := by
  induction posting with
  | new config store next here => exact ⟨here, rfl, by simp⟩
  | load _ ih =>
      obtain ⟨-, -, -, posted⟩ := ih.load w
      exact posted
  | runCycle _ changes ih =>
      obtain ⟨-, -, -, posted⟩ := ih.runCycle w changes
      exact posted
  | edit posting e ih => exact ih.edit posting.reachable e
  | outside _ store untouched ih =>
      refine ⟨ih.here, ih.kept, ?_⟩
      rw [untouched]
      exact ih.held

/-- One component, and a component map next to it. -/
def gallery : Session MemoryStore :=
  Session.new { Config.standard with componentMapPath := some ⟨"map.js"⟩ }
    (deskStore "export default <b data-uid='k' a='0'/>;") 0

def galleryPath : Path := Path.mk "/p" ++ Path.mk "map.js"

/-- The gallery behind its first reading, and behind an edit. -/
def editedGallery : Session MemoryStore :=
  ((gallery.load deskWorkshop).value.2.edit deskWorkshop nullEdit).value.2

/-- Is the file of the component map written by a round of work? -/
def writesMap (round : Except SessionFailure CycleReport × Session MemoryStore) : Option Bool :=
  round.1.toOption.map (·.artifactWritten)

end LiveMarkup.Session
