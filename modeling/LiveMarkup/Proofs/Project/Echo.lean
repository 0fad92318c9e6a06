import LiveMarkup.Proofs.Project.Chronicle
/-
# LiveMarkup.Proofs.Project.Echo -- notices of an own write

A session remembers one text for each path that it wrote, and forgets it with the first
notice of a change of that path.  So the first notice of an own write is skipped, and the
second one has the file read again, though the store holds what the session itself wrote.

What is known of a path after an edit depends on the number of notices alone (`Heard`): one
round of work adds one notice or none (`Heard.turn`), and any number of rounds as many as
there are (`Heard.turns`).  With one notice at most the entry of the edit stays; behind every
later one the text is taken in anew, as the next version (`own_write_survives_iff`).

Poles: one notice behind one edit, and two behind two edits, where each is the notice of a
write of the session's own.
-/

namespace LiveMarkup

set_option autoImplicit false

open LiveMarkup.Syntax

/-! ## What is known is read -/

namespace Registry

variable {w : Workshop} {r r' : Registry} {p : Path}

/-- Every path of which there is an entry is one that the registry reads. -/
def Tracked (r : Registry) : Prop := ∀ p e, r.entries.get? p = some e → r.tracks p = true

theorem Tracked.of_differs (tracked : r.Tracked) (differs : DiffersOnlyAt p r r')
    (here : r.tracks p = true ∨ r'.entries.get? p = none) : r'.Tracked := by
  intro q e found
  rw [differs.tracks]
  by_cases same : q.components = p.components
  · rcases here with here | gone
    · rw [tracks_congr same, here]
    · rw [OrderedMap.get?_congr (Path.compare_eq_iff.mpr same), gone] at found
      cases found
  · rw [← known_entry, differs.known q same] at found
    exact tracked q e found

theorem Tracked.remove (tracked : r.Tracked) (p : Path) : (r.remove p).Tracked := by
  refine tracked.of_differs (remove_differs r p) (Or.inr ?_)
  rw [← known_entry, known_remove, if_pos rfl]

section Store

variable {σ : Type} [SourceStore σ]

theorem Tracked.refresh (tracked : r.Tracked) (store : σ) (p : Path) :
    (r.refresh w store p).value.2.Tracked := by
  by_cases here : r.tracks p = true
  · exact tracked.of_differs (refresh_differs w r store p) (Or.inl here)
  · unfold Registry.refresh
    rw [Bool.not_eq_true] at here
    rw [here]
    exact tracked

theorem Tracked.applyChange (tracked : r.Tracked) (store : σ) (c : Change) :
    (r.applyChange w store c).value.2.Tracked := by
  unfold Registry.applyChange
  split
  · exact tracked.refresh store c.path
  · exact tracked.refresh store c.path
  · exact tracked.remove c.path

theorem Tracked.refreshAll (tracked : r.Tracked) (store : σ) (ps : List Path) (n : LoadSummary) :
    (refreshAll w store ps n r).value.2.Tracked := by
  induction ps generalizing n r with
  | nil => exact tracked
  | cons p ps ih => exact ih (tracked.refresh store p) _

theorem Tracked.foldl_remove (tracked : r.Tracked) (ps : List Path) : (ps.foldl Registry.remove r).Tracked := by
  induction ps generalizing r with
  | nil => exact tracked
  | cons p ps ih => exact ih (tracked.remove p)

theorem Tracked.loadAll (tracked : r.Tracked) (store : σ) : (r.loadAll w store).value.2.Tracked := by
  unfold Registry.loadAll
  split
  · exact tracked
  · exact (tracked.foldl_remove _).refreshAll store _ _

end Store

theorem version_of_known {k : Knowledge} (known : r.known p = k) : r.version p = k.version.getD 0 :=
  congrArg (fun k : Knowledge => k.version.getD 0) known

/-- A text that is held is taken in, as the next version, when the file is read again. -/
theorem refresh_reads {store : MemoryStore} {q : Path} {text : String} (tracked : r.tracks p = true)
    (same : p.components = q.components) (held : store.get? p = some text) :
    (Readable w.language p text → ∃ e, (r.refresh w store q).value.2.known p = ⟨some e, some e.version, none⟩ ∧
      e.source = text ∧ e.version = r.version p + 1) ∧
    (¬ Readable w.language p text → ((r.refresh w store q).value.2.known p).entry = none) := by
  have trackedQ : r.tracks q = true := (tracks_congr same r).symm.trans tracked
  rw [refresh_held w trackedQ ((MemoryStore.get?_congr same).symm.trans held)]
  rcases ingest_cases w r q text with ⟨d, read, value⟩ | ⟨shown, other, -⟩ | ⟨f, unreadable, value⟩
  · refine ⟨fun _ => ⟨(makeEntry w r d text).1, ?_, rfl, ?_⟩, fun unreadable =>
      absurd ((readable_congr same text).mpr ⟨d, read⟩) unreadable⟩
    · rw [value, known_accept, if_pos same]
    · obtain ⟨path, -, -⟩ := Document.read_eq_ok read
      have version : r.version d.path = r.version p := by
        rw [path, Registry.version, Registry.version, OrderedMap.get?_congr (Path.compare_eq_iff.mpr same)]
      show r.version d.path + 1 = r.version p + 1
      rw [version]
  · rw [source_of_tracks trackedQ] at other
    cases other
  · refine ⟨fun readable => absurd ((readable_congr same text).mp readable) unreadable, fun _ => ?_⟩
    rw [value, known_fail, if_pos same]

end Registry

namespace Session

section Reachable

variable {σ : Type} [SourceStore σ] {w : Workshop} {s : Session σ}

/-- Whatever a session knows, it reads. -/
theorem Reachable.tracked (reached : Reachable w s) : s.registry.Tracked := by
  refine reached.registry_induction (fun config store next => ?_) (fun r store tracked => tracked.loadAll store)
    (fun r store c tracked => tracked.applyChange store c)
    (fun r p e text found tracked =>
      tracked.of_differs (Registry.ingest_differs w r p text) (Or.inl (tracked p e found)))
  simp only [Session.new]
  split <;> exact fun p e found => by cases found

end Reachable

variable {w : Workshop} {s s' : Session MemoryStore} {p : Path} {text : String} {entry : FileEntry}

theorem Reachable.apart (reached : Reachable w s) : s.Apart := by
  induction reached with
  | new config store next => exact new_apart config store next
  | load _ ih => exact ih.moves (load_moves w _) (load_artifactPath w _)
  | runCycle _ changes ih => exact ih.moves (runCycle_moves w _ changes) (runCycle_artifactPath w _ changes)
  | edit _ e ih => exact ih.moves (edit_moves w _ e) (edit_artifactPath w _ e)
  | outside _ store ih => exact ih

end Session

/-! ## Rounds of work -/

/-- A round of work: the store as others have left it, and the changes that were noticed. -/
structure Turn where
  store : MemoryStore
  noticed : List Change

namespace Turn

def changes (t : Turn) : ChangeSet := Chronicle.changeSet t.noticed

/-- Is there a notice of a change of a path? -/
def notices (p : Path) (t : Turn) : Bool := t.changes.kinds.get? p = some .changed

/-- The store holds a text at a path, and nothing is told of the path but that it was changed. -/
structure Quiet (p : Path) (text : String) (t : Turn) : Prop where
  held : t.store.get? p = some text
  changed : ∀ kind, t.changes.kinds.get? p = some kind → kind = .changed

end Turn

namespace Session

variable (w : Workshop)

/-- The session behind a round. -/
def turn (s : Session MemoryStore) (t : Turn) : Session MemoryStore :=
  (Session.runCycle w { s with store := t.store } t.changes).value.2

/-- The session behind some rounds. -/
def turns (s : Session MemoryStore) (ts : List Turn) : Session MemoryStore := ts.foldl (turn w) s

/-- What a session knows of a file that it wrote, after some notices of that. -/
structure Heard (p : Path) (text : String) (entry : FileEntry) (n : Nat) (s : Session MemoryStore) : Prop where
  apart : s.Apart
  tracked : s.registry.tracks p = true
  /-- The text is remembered until the first notice. -/
  written : s.written.get? p = if n = 0 then some text else none
  kept : n ≤ 1 → s.registry.entries.get? p = some entry
  version : n ≤ 1 ∨ Readable w.language p text → s.registry.version p = entry.version + (n - 1)
  reread : 1 < n → Readable w.language p text → ∃ e, s.registry.entries.get? p = some e ∧
    e.source = text ∧ e.version = entry.version + (n - 1)
  lost : 1 < n → ¬ Readable w.language p text → s.registry.entries.get? p = none

variable {w} {s s' : Session MemoryStore} {p : Path} {text : String} {entry : FileEntry} {n : Nat}
  {changes : ChangeSet}

theorem Heard.outside (heard : Heard w p text entry n s) (store : MemoryStore) :
    Heard w p text entry n { s with store } :=
  ⟨heard.apart, heard.tracked, heard.written, heard.kept, heard.version, heard.reread, heard.lost⟩

/-- A round keeps the rules. -/
theorem Heard.rules (heard : Heard w p text entry n s) (changes : ChangeSet) :
    (s.runCycle w changes).value.2.Apart ∧ (s.runCycle w changes).value.2.registry.tracks p = true := by
  have moves := runCycle_moves w s changes
  exact ⟨heard.apart.moves moves (runCycle_artifactPath w s changes), (moves.tracks p).trans heard.tracked⟩

/-- A round without a notice changes nothing. -/
theorem Heard.silent (heard : Heard w p text entry n s) (silent : changes.kinds.get? p = none) :
    Heard w p text entry n (s.runCycle w changes).value.2 := by
  obtain ⟨apart, tracked⟩ := heard.rules changes
  obtain ⟨-, known, written, -⟩ := runCycle_silent w heard.apart heard.tracked silent
  have entries := congrArg Registry.Knowledge.entry known
  have version : _ = s.registry.version p := Registry.version_of_known known
  exact
    { apart, tracked
      written := written.trans heard.written
      kept := fun few => entries.trans (heard.kept few)
      version := fun known => version.trans (heard.version known)
      reread := fun many readable =>
        have ⟨e, made, rest⟩ := heard.reread many readable
        ⟨e, entries.trans made, rest⟩
      lost := fun many unreadable => entries.trans (heard.lost many unreadable) }

/-- The first notice is skipped. -/
theorem Heard.echo (heard : Heard w p text entry 0 s) (ordered : changes.kinds.Ordered)
    (held : s.store.get? p = some text) (notice : changes.kinds.get? p = some .changed) :
    Heard w p text entry 1 (s.runCycle w changes).value.2 := by
  obtain ⟨apart, tracked⟩ := heard.rules changes
  have spent := runCycle_written w heard.apart heard.tracked ordered
  have known := runCycle_echo w heard.apart heard.tracked ordered notice
    (takeEcho_iff.mpr ⟨text, heard.written, held⟩)
  have entries := congrArg Registry.Knowledge.entry known
  have version : _ = s.registry.version p := Registry.version_of_known known
  exact
    { apart, tracked
      written := spent.trans (if_pos notice)
      kept := fun _ => entries.trans (heard.kept (Nat.zero_le 1))
      version := fun _ => version.trans (heard.version (Or.inl (Nat.zero_le 1)))
      reread := fun many => absurd many (Nat.lt_irrefl 1)
      lost := fun many => absurd many (Nat.lt_irrefl 1) }

/-- With any later notice the file is read again. -/
theorem Heard.again (heard : Heard w p text entry (n + 1) s) (ordered : changes.kinds.Ordered)
    (held : s.store.get? p = some text) (notice : changes.kinds.get? p = some .changed) :
    Heard w p text entry (n + 2) (s.runCycle w changes).value.2 := by
  obtain ⟨apart, tracked⟩ := heard.rules changes
  have spent := runCycle_written w heard.apart heard.tracked ordered
  -- what was written has been forgotten, so this is no echo any more
  have foreign : (s.takeEcho ⟨.changed, p⟩).1 = false := by
    rw [Bool.eq_false_iff, Ne, takeEcho_iff]
    rintro ⟨text', remembered, -⟩
    rw [heard.written] at remembered
    cases remembered
  obtain ⟨s₁, q, same, before, known⟩ :=
    runCycle_follow w heard.apart heard.tracked ordered (Or.inr ⟨notice, foreign⟩)
  have version : s₁.registry.version p = s.registry.version p := Registry.version_of_known before.known
  obtain ⟨reread, lost⟩ := Registry.refresh_reads (before.tracks.trans heard.tracked) same
    (before.held.trans held) (w := w)
  rw [← known] at lost
  refine ⟨apart, tracked, spent.trans (if_pos notice), fun few => absurd few (by omega), ?_, ?_,
    fun _ unreadable => lost unreadable⟩
  · rintro (few | readable)
    · omega
    · obtain ⟨e, made, -, next⟩ := reread readable
      have now : (s.runCycle w changes).value.2.registry.version p = e.version :=
        Registry.version_of_known (known.trans made)
      rw [now, next, version, heard.version (Or.inr readable)]
      omega
  · intro _ readable
    obtain ⟨e, made, source, next⟩ := reread readable
    refine ⟨e, congrArg Registry.Knowledge.entry (known.trans made), source, ?_⟩
    rw [next, version, heard.version (Or.inr readable)]
    omega

/-- A round adds one notice, or none. -/
theorem Heard.turn (heard : Heard w p text entry n s) {t : Turn} (quiet : t.Quiet p text) :
    Heard w p text entry (n + if t.notices p then 1 else 0) (s.turn w t) := by
  have ordered : t.changes.kinds.Ordered := Chronicle.changeSet_ordered t.noticed
  cases notice : t.changes.kinds.get? p with
  | none =>
      have unnoticed : t.notices p = false := by simp [Turn.notices, notice]
      rw [unnoticed]
      exact (heard.outside t.store).silent notice
  | some kind =>
      obtain rfl := quiet.changed kind notice
      have noticed : t.notices p = true := by simp [Turn.notices, notice]
      rw [noticed]
      cases n with
      | zero => exact (heard.outside t.store).echo ordered quiet.held notice
      | succ n => exact (heard.outside t.store).again ordered quiet.held notice

/-- Any number of rounds adds as many notices as there are. -/
theorem Heard.turns (heard : Heard w p text entry n s) (ts : List Turn)
    (quiet : ∀ t ∈ ts, t.Quiet p text) :
    Heard w p text entry (n + ts.countP (·.notices p)) (s.turns w ts) := by
  induction ts generalizing n s with
  | nil => exact heard
  | cons t ts ih =>
      obtain ⟨first, rest⟩ := List.forall_mem_cons.mp quiet
      have later := ih (heard.turn first) rest
      rw [List.countP_cons, Nat.add_comm (ts.countP _), ← Nat.add_assoc]
      exact later

/-- What an edit that wrote a file leaves is remembered, and nothing has been heard of it. -/
theorem heard_of_edit {e : Edit} {o : EditOutcome} (reached : Reachable w s)
    (accepted : (s.edit w e).value = (.ok o, s')) (wrote : o.patch.action ≠ .unchanged) :
    ∃ text entry, s'.store.get? o.path = some text ∧ s'.registry.entries.get? o.path = some entry ∧
      Heard w o.path text entry 0 s' := by
  have later : Reachable w s' := by
    have edited := Reachable.edit reached e
    rwa [accepted] at edited
  rcases edit_memory w (reached.sound w) e with ⟨f, value, -⟩ | ⟨o', value, unchanged⟩ |
    ⟨found, s'', -, -, ⟨o', text, entry, value, -, -, remembered, held, known⟩ | ⟨g, value⟩⟩
  · rw [value] at accepted
    cases accepted
  · rw [value] at accepted
    cases accepted
    exact absurd unchanged wrote
  · rw [value] at accepted
    cases accepted
    obtain ⟨k, listed, same⟩ := OrderedMap.mem_of_get? known
    obtain ⟨-, version, -⟩ := (later.sound w).entry k entry listed
    have current : s'.registry.version o.path = entry.version := by
      rw [Registry.version, OrderedMap.get?_congr same, version]
      rfl
    exact ⟨text, entry, held, known,
      { apart := later.apart
        tracked := later.tracked o.path entry known
        written := remembered
        kept := fun _ => known
        version := fun _ => current
        reread := fun many => absurd many (by decide)
        lost := fun many => absurd many (by decide) }⟩
  · rw [value] at accepted
    cases accepted

/-- **An own write survives one notice, and no more.**  In any session in memory that comes about,
let an edit be accepted and written.  Then whatever rounds of work follow, while the store holds
what the edit wrote and nothing is told of the file but that it was changed: the entry is the one
that the edit left if and only if at most one of them had a notice of it.  With each notice behind
the first the text is taken in anew as the next version, or, if it cannot be read, the entry is
lost. -/
theorem own_write_survives_iff {e : Edit} {o : EditOutcome} (reached : Reachable w s)
    (accepted : (s.edit w e).value = (.ok o, s')) (wrote : o.patch.action ≠ .unchanged) :
    ∃ text entry, s'.store.get? o.path = some text ∧ s'.registry.entry? o.path = some entry ∧
      ∀ ts : List Turn, (∀ t ∈ ts, t.Quiet o.path text) →
        ((s'.turns w ts).registry.entry? o.path = some entry ↔ ts.countP (·.notices o.path) ≤ 1) ∧
        (1 < ts.countP (·.notices o.path) →
          (Readable w.language o.path text → ∃ e, (s'.turns w ts).registry.entry? o.path = some e ∧
            e.source = text ∧ e.version = entry.version + (ts.countP (·.notices o.path) - 1)) ∧
          (¬ Readable w.language o.path text → (s'.turns w ts).registry.entry? o.path = none)) := by
  obtain ⟨text, entry, held, known, unheard⟩ := heard_of_edit reached accepted wrote
  refine ⟨text, entry, held, known, ?_⟩
  intro ts quiet
  have heard := unheard.turns ts quiet
  rw [Nat.zero_add] at heard
  constructor
  · constructor
    · intro same
      by_contra many
      rw [Nat.not_le] at many
      by_cases readable : Readable w.language o.path text
      · -- the version tells the entries apart
        obtain ⟨e', found, -, version⟩ := heard.reread many readable
        obtain rfl := Option.some.inj (same.symm.trans found)
        omega
      · cases same.symm.trans (heard.lost many readable)
    · exact heard.kept
  · intro many
    exact ⟨heard.reread many, heard.lost many⟩

/-! ## Poles -/

/-- A round in which a change of one file is noticed, and no other. -/
def echoOf (store : MemoryStore) (p : Path) : Turn := ⟨store, [⟨.changed, p⟩]⟩

theorem echoOf_quiet {store : MemoryStore} (held : store.get? p = some text) : (echoOf store p).Quiet p text := by
  refine ⟨held, fun kind notice => ?_⟩
  simp only [Turn.changes, echoOf, Chronicle.changeSet, ChangeSet.add, ChangeSet.record, List.foldl_cons,
    List.foldl_nil, OrderedMap.get?_insert, if_pos (Path.compare_eq_iff.mpr rfl)] at notice
  exact (Option.some.inj notice).symm

theorem own_write_survives_echo : ∃ o s' entry,
    (desk.edit deskWorkshop nullEdit).value = (.ok o, s') ∧ s'.registry.entry? o.path = some entry ∧
    (s'.turns deskWorkshop [echoOf s'.store o.path]).registry.entry? o.path = some entry := by
  have replaced : (desk.edit deskWorkshop nullEdit).value.1.toOption.map (·.patch.action) = some .replaced := by
    decide +kernel
  cases value : (desk.edit deskWorkshop nullEdit).value with
  | mk result s' =>
      rw [value] at replaced
      cases result with
      | error f => cases replaced
      | ok o =>
          have action : o.patch.action = .replaced := Option.some.inj replaced
          obtain ⟨text, entry, held, known, stays⟩ :=
            own_write_survives_iff (opened_reachable _) value (by simp [action])
          refine ⟨o, s', entry, rfl, known, (stays [echoOf s'.store o.path] fun t member => ?_).1.mpr ?_⟩
          · rw [List.mem_singleton.mp member]
            exact echoOf_quiet held
          · exact List.countP_le_length

/-- The element `k` with a text in its attribute `a`. -/
def textEdit : Edit := ⟨"k", "a", .string "1"⟩

/-- The desk behind an edit. -/
def editedDesk : Session MemoryStore := (desk.edit deskWorkshop nullEdit).value.2

/-- The desk behind another one. -/
def reeditedDesk : Session MemoryStore := (editedDesk.edit deskWorkshop textEdit).value.2

/-- The version of the script of the desk, and its identifiers. -/
def versionAt (s : Session MemoryStore) : Option (Nat × List String) :=
  (s.registry.entry? deskPath).map fun e => (e.version, e.arena.uids)

/-- Refuting pole: each of two edits is noticed once, but the second notice has the script read
again. -/
theorem own_write_read_again :
    Reachable deskWorkshop editedDesk ∧
    (editedDesk.edit deskWorkshop textEdit).value.1.toOption.map (·.patch.action) = some .replaced ∧
    reeditedDesk.store.get? deskPath = some "<b a=\"1\"/>;\n" ∧
    (∀ t ∈ [echoOf reeditedDesk.store deskPath, echoOf reeditedDesk.store deskPath],
      t.Quiet deskPath "<b a=\"1\"/>;\n") ∧
    versionAt reeditedDesk = some (3, ["k"]) ∧
    versionAt (reeditedDesk.turns deskWorkshop [echoOf reeditedDesk.store deskPath,
      echoOf reeditedDesk.store deskPath]) = some (4, ["AAAAAAAAAA"]) := by
  have reached : Reachable deskWorkshop desk := opened_reachable _
  have facts : (editedDesk.edit deskWorkshop textEdit).value.1.toOption.map (·.patch.action) = some .replaced ∧
      reeditedDesk.store.get? deskPath = some "<b a=\"1\"/>;\n" ∧
      versionAt reeditedDesk = some (3, ["k"]) ∧
      versionAt (reeditedDesk.turns deskWorkshop [echoOf reeditedDesk.store deskPath,
        echoOf reeditedDesk.store deskPath]) = some (4, ["AAAAAAAAAA"]) := by decide +kernel
  obtain ⟨replaced, held, before, after⟩ := facts
  refine ⟨reached.edit nullEdit, replaced, held, ?_, before, after⟩
  intro t member
  simp only [List.mem_cons, List.not_mem_nil, or_false, or_self] at member
  rw [member]
  exact echoOf_quiet held

end Session

end LiveMarkup
