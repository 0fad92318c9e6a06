import LiveMarkup.Proofs.Project.Registry
import LiveMarkup.Proofs.Store.Memory
/-
# LiveMarkup.Proofs.Project.Currency -- is what is known of a file up to date?

What a registry knows of a path is current (`Knowledge.Current`) when it is what can be
known of the text that the store holds there: an entry of a text that can be read, a
diagnostic for one that cannot, nothing when there is no text.  An entry may also be that
of an edit of ours which wrote the text: it was made of the text with identifiers.

Reading a file again makes what is known of it current (`refresh_current`), and reading
every file makes everything current (`loadAll_current`).
-/

namespace LiveMarkup

set_option autoImplicit false

open LiveMarkup.Syntax

/-- What an edit did to a file: the text that was written, and the text with identifiers
that was taken in. -/
structure OwnWrite where
  written : String
  taken : String

namespace Registry

/-- What is known of a path is what can be known of the text that is held there, `own`
being the last edit that wrote one. -/
structure Knowledge.Current (l : Language) (p : Path) (held : Option String) (own : Option OwnWrite)
    (k : Knowledge) : Prop where
  readable : ∀ text, held = some text → Readable l p text →
    ∃ e, k.entry = some e ∧ (e.source = text ∨ own = some ⟨text, e.source⟩)
  unreadable : ∀ text, held = some text → ¬ Readable l p text →
    k.entry = none ∧ k.diagnostic.isSome = true
  absent : held = none → k.entry = none

variable {l : Language} {p q : Path} {held : Option String} {own : Option OwnWrite} {k : Knowledge}

/-- What is current without regard to edits is current. -/
theorem Knowledge.Current.weaken (current : k.Current l p held none) : k.Current l p held own := by
  refine ⟨fun text here readable => ?_, current.unreadable, current.absent⟩
  obtain ⟨e, entry, source | edited⟩ := current.readable text here readable
  · exact ⟨e, entry, Or.inl source⟩
  · cases edited

/-- Of a file that is not there nothing is to be known. -/
theorem Knowledge.current_of_absent (missing : held = none) (gone : k.entry = none) :
    k.Current l p held own := by
  refine ⟨fun text here => ?_, fun text here => ?_, fun _ => gone⟩
  · rw [missing] at here
    cases here
  · rw [missing] at here
    cases here

/-- Of a text that is held there is its entry when it can be read, and else a diagnostic. -/
theorem Knowledge.current_of_held {text : String} (here : held = some text)
    (taken : Readable l p text → ∃ e, k.entry = some e ∧ (e.source = text ∨ own = some ⟨text, e.source⟩))
    (refused : ¬ Readable l p text → k.entry = none ∧ k.diagnostic.isSome = true) :
    k.Current l p held own := by
  subst here
  refine ⟨fun text' same readable => ?_, fun text' same unreadable => ?_, fun missing => ?_⟩
  · cases same
    exact taken readable
  · cases same
    exact refused unreadable
  · cases missing

variable (w : Workshop) {r : Registry} {store : MemoryStore}

theorem ingest_current {text : String} (source : p.isSource = true) (same : p.components = q.components)
    (here : store.get? p = some text) :
    ((r.ingest w q text).value.2.known p).Current w.language p (store.get? p) none := by
  have sourceQ : q.isSource = true := (Path.isSource_congr same).symm.trans source
  obtain ⟨taken, refused⟩ := known_ingest w r sourceQ same
  refine Knowledge.current_of_held here (fun readable => ?_) fun unreadable => ?_
  · obtain ⟨e, entry, is⟩ := taken ((readable_congr same text).mp readable)
    exact ⟨e, entry, Or.inl is⟩
  · exact refused fun readable => unreadable ((readable_congr same text).mpr readable)

/-- Reading a file again takes in the text that the store holds. -/
theorem refresh_held {text : String} (tracked : r.tracks p = true) (held : store.get? p = some text) :
    (r.refresh w store p).value.2 = (r.ingest w p text).value.2 := by
  unfold refresh
  rw [tracked, MemoryStore.ignores_eq_false, if_neg (by decide)]
  simp only [MemoryStore.read_eq_ok held, Logged.bind_value]
  rfl

/-- What is known of a file is current when it has been read again. -/
theorem refresh_current (tracked : r.tracks p = true) (same : p.components = q.components) :
    ((r.refresh w store q).value.2.known p).Current w.language p (store.get? p) none := by
  have trackedQ : r.tracks q = true := (tracks_congr same r).symm.trans tracked
  cases held : store.get? q with
  | some text =>
      rw [refresh_held w trackedQ held]
      exact ingest_current w (source_of_tracks tracked) same ((MemoryStore.get?_congr same).trans held)
  | none =>
      unfold refresh
      rw [trackedQ, MemoryStore.ignores_eq_false, if_neg (by decide)]
      simp only [MemoryStore.read_eq_notFound held, Logged.pure_value]
      refine Knowledge.current_of_absent ((MemoryStore.get?_congr same).trans held) ?_
      rw [known_remove, if_pos same]

/-- Reading files again keeps what is known of a path current, and makes it so when the
path is among them. -/
theorem refreshAll_current (ps : List Path) (n : LoadSummary) (tracked : r.tracks p = true)
    (known : (∃ q ∈ ps, p.components = q.components) ∨
      (r.known p).Current w.language p (store.get? p) none) :
    ((refreshAll w store ps n r).value.2.known p).Current w.language p (store.get? p) none := by
  induction ps generalizing n r with
  | nil =>
      rcases known with ⟨q, listed, -⟩ | current
      · cases listed
      · exact current
  | cons q ps ih =>
      show ((refreshAll w store ps _ (r.refresh w store q).value.2).value.2.known p).Current
        w.language p (store.get? p) none
      apply ih _ (((refresh_differs w r store q).tracks p).trans tracked)
      by_cases same : p.components = q.components
      · exact Or.inr (refresh_current w tracked same)
      · rcases known with ⟨q', listed, same'⟩ | current
        · rcases List.mem_cons.mp listed with rfl | later
          · exact absurd same' same
          · exact Or.inl ⟨q', later, same'⟩
        · rw [(refresh_differs w r store q).known p same]
          exact Or.inr current

/-- What is known when some paths have been forgotten. -/
theorem foldl_remove_known (ps : List Path) (r : Registry) :
    (ps.foldl remove r).known p =
      if ps.contains p then ⟨none, r.versions.get? p, none⟩ else r.known p := by
  induction ps generalizing r with
  | nil => rfl
  | cons q ps ih =>
      rw [List.foldl_cons, ih]
      by_cases same : p.components = q.components
      · rw [Path.contains_cons_self same, if_pos rfl, known_remove, if_pos same]
        split <;> rfl
      · rw [Path.contains_cons same, known_remove, if_neg same]
        rfl

theorem foldl_remove_entry (ps : List Path)
    (gone : (∃ q ∈ ps, p.components = q.components) ∨ r.entries.get? p = none) :
    ((ps.foldl remove r).known p).entry = none := by
  rw [foldl_remove_known]
  split
  · rfl
  · rename_i unlisted
    rcases gone with ⟨q, listed, same⟩ | gone
    · exact absurd (Path.contains_iff.mpr ⟨q, listed, same⟩) unlisted
    · exact gone

/-- What is known is current when every file has been read. -/
theorem loadAll_current (tracked : r.tracks p = true) :
    ((r.loadAll w store).value.2.known p).Current w.language p (store.get? p) none := by
  have source := source_of_tracks tracked
  simp only [loadAll, SourceStore.list, Logged.bind_value]
  apply refreshAll_current w _ _ (((foldl_remove_moves w _ r).tracks p).trans tracked)
  cases held : store.get? p with
  | some text =>
      left
      obtain ⟨q, listed, same⟩ := MemoryStore.mem_keys.mpr ⟨text, held⟩
      refine ⟨q, List.mem_filter.mpr ⟨List.mem_filter.mpr ⟨listed, ?_⟩, ?_⟩, same⟩
      · exact (Path.isSource_congr same).symm.trans source
      · exact (tracks_congr same r).symm.trans tracked
  | none =>
      right
      refine Knowledge.current_of_absent rfl (foldl_remove_entry _ ?_)
      cases entry : r.entries.get? p with
      | none => exact Or.inr rfl
      | some e =>
          left
          obtain ⟨q, listed, same⟩ := OrderedMap.mem_keys_of_get? entry
          have key : p.components = q.components := Path.compare_eq_iff.mp same
          refine ⟨q, List.mem_filter.mpr ⟨listed, ?_⟩, key⟩
          -- a listed file would be held
          rw [Bool.not_eq_true', Bool.eq_false_iff]
          intro contained
          obtain ⟨q', there, same'⟩ := Path.contains_iff.mp contained
          obtain ⟨text, here⟩ := MemoryStore.mem_keys.mp
            ⟨q', (List.mem_filter.mp (List.mem_filter.mp there).1).1, key.trans same'⟩
          rw [held] at here
          cases here

end Registry

end LiveMarkup
