import LiveMarkup.Proofs.Markup.Equality
import LiveMarkup.Proofs.Markup.Stripping
import LiveMarkup.Proofs.Project.Edit
import LiveMarkup.Proofs.Store.Memory
/-
# LiveMarkup.Proofs.Project.Agreement -- the store and the registry hold one program

An edit makes two texts of one patched tree: the text with identifiers, which the
registry takes in, and the text that is written, as a rule without them.  When what is
printed of the tree reads back (`ReadsBack`: the same tree up to places), the two texts
are the same program up to identifiers, and nothing else in the store or in the registry
has changed (`edit_agreement`).

Pole: an edit that brings an element into an attribute.
-/

namespace LiveMarkup

set_option autoImplicit false

open LiveMarkup.Syntax

/-- What is printed of a tree is read as the same tree, places apart. -/
def ReadsBack (l : Language) (path : Path) (m : Module) : Prop :=
  ∃ d, (Document.read l path (l.printModule m)).value = .ok d ∧ d.content.bare = m.bare

namespace Session

variable {σ : Type} [SourceStore σ] (w : Workshop)

/-- The tree whose text is written when a tree with identifiers is committed. -/
def writtenTree (s : Session σ) (m : Module) : Module :=
  if s.config.persistIdentifiers then m else m.withoutIdentifiers s.registry.identifierName

omit [SourceStore σ] in
theorem writtenText_eq (l : Language) (s : Session σ) (m : Module) :
    s.writtenText l m = l.printModule (s.writtenTree m) := by
  unfold writtenText writtenTree
  split <;> rfl

omit [SourceStore σ] in
theorem writtenTree_withoutIdentifiers (s : Session σ) (m : Module) :
    (s.writtenTree m).withoutIdentifiers s.registry.identifierName =
      m.withoutIdentifiers s.registry.identifierName := by
  unfold writtenTree
  split
  · rfl
  · exact m.withoutIdentifiers_twice _

/-- A commit in memory succeeds when the text of the tree can be read. -/
theorem commit_value (s : Session MemoryStore) (path : Path) (m : Module)
    (patch : Property.PatchOutcome) {d : Document}
    (read : (Document.read w.language path (w.language.printModule m)).value = .ok d) :
    (s.commit w path m patch).value =
      (.ok ⟨path, s.registry.version path + 1, patch⟩,
        { s with
          store := s.store.put path (s.writtenText w.language m)
          written := s.written.insert path (s.writtenText w.language m)
          registry := s.registry.accept path
            (Registry.makeEntry w s.registry d (w.language.printModule m)) }) := by
  obtain ⟨samePath, -, -⟩ := Document.read_eq_ok read
  have ingested : (s.registry.ingest w path (w.language.printModule m)).value =
      (.ok (Registry.makeEntry w s.registry d (w.language.printModule m)).1,
        s.registry.accept path (Registry.makeEntry w s.registry d (w.language.printModule m))) := by
    simp only [Registry.ingest, Logged.bind_value, read]
    rfl
  rcases commit_cases w s path m patch with ⟨f, store, wrote, -⟩ | ⟨store, wrote, value⟩
  · cases wrote
  · obtain rfl : s.store.put path (s.writtenText w.language m) = store := congrArg Prod.snd wrote
    rw [value, ingested]
    simp only [Registry.makeEntry, samePath]

/-- **The store and the registry agree after an edit.** -/
theorem edit_agreement {s s' : Session MemoryStore} (reached : Reachable w s) {e : Edit}
    {o : EditOutcome} (accepted : (s.edit w e).value = (.ok o, s')) (changed : o.patch.action ≠ .unchanged)
    (reads : ∀ found patch m, s.patched? w e = some (found, patch, m) →
      ReadsBack w.language found.entry.path m ∧
        ReadsBack w.language found.entry.path (s.writtenTree m)) :
    (s'.store.root = s.store.root ∧
      ∀ q : Path, q.components ≠ o.path.components → s'.store.get? q = s.store.get? q) ∧
    Registry.DiffersOnlyAt o.path s.registry s'.registry ∧
    ∃ old new text disk,
      s.registry.entries.get? o.path = some old ∧
      s'.registry.entries.get? o.path = some new ∧
      new.version = old.version + 1 ∧ new.version = o.version ∧
      s'.store.get? o.path = some text ∧
      (Document.read w.language o.path text).value = .ok disk ∧
      (new.parsed.withoutIdentifiers s.registry.identifierName).bare =
        (disk.content.withoutIdentifiers s.registry.identifierName).bare ∧
      (s.config.persistIdentifiers = false →
        ∀ element ∈ disk.content.elements, element.Unnamed s.registry.identifierName) ∧
      (s.config.persistIdentifiers = true → text = new.source) := by
  rcases edit_cases w s e with ⟨f, value, -⟩ | ⟨o', value, unchanged⟩ |
    ⟨found, patch, m, patched, -, value⟩
  · rw [value] at accepted
    cases accepted
  · rw [value] at accepted
    obtain rfl := Except.ok.inj (congrArg Prod.fst accepted)
    exact absurd unchanged changed
  · obtain ⟨live, version, -⟩ :=
      (reached.sound w).get?_of_mem (Registry.find?_entry_mem (patched?_find w patched))
    obtain ⟨⟨d, read, same⟩, ⟨disk, readDisk, sameDisk⟩⟩ := reads found patch m patched
    obtain ⟨samePath, -, -⟩ := Document.read_eq_ok read
    rw [← writtenText_eq] at readDisk
    rw [value, commit_value w s found.entry.path m patch read] at accepted
    obtain ⟨rfl, rfl⟩ : _ ∧ _ := ⟨Except.ok.inj (congrArg Prod.fst accepted), congrArg Prod.snd accepted⟩
    refine ⟨⟨rfl, fun q other => ?_⟩, Registry.accept_differs _ _ _, found.entry,
      (Registry.makeEntry w s.registry d (w.language.printModule m)).1,
      s.writtenText w.language m, disk, live, ?_, ?_, ?_, ?_, readDisk, ?_, fun stripped => ?_,
      fun kept => ?_⟩
    · exact MemoryStore.get?_put.trans (if_neg other)
    · rw [← Registry.known_entry, Registry.known_accept, if_pos rfl]
    · simp only [Registry.makeEntry, Registry.version, samePath, version, Option.getD_some]
    · simp only [Registry.makeEntry, samePath]
    · exact MemoryStore.get?_put.trans (if_pos rfl)
    · calc (d.content.withoutIdentifiers s.registry.identifierName).bare
          = (m.withoutIdentifiers s.registry.identifierName).bare := by
            rw [Module.bare_withoutIdentifiers, same, Module.bare_withoutIdentifiers]
        _ = ((s.writtenTree m).withoutIdentifiers s.registry.identifierName).bare := by
            rw [writtenTree_withoutIdentifiers]
        _ = (disk.content.withoutIdentifiers s.registry.identifierName).bare := by
            rw [Module.bare_withoutIdentifiers, ← sameDisk, Module.bare_withoutIdentifiers]
    · refine Module.unnamed_of_bare _ sameDisk ?_
      simpa only [writtenTree, stripped, Bool.false_eq_true, if_false] using
        m.unnamed_of_withoutIdentifiers s.registry.identifierName
    · simp only [Registry.makeEntry, writtenText, kept, if_true]

/-! ## Pole -/

/-- The element `k` with an element in its attribute `a`. -/
def elementEdit : Edit := ⟨"k", "a", .code "<i/>"⟩

/-- `ReadsBack`, computed. -/
def readsBack (l : Language) (path : Path) (m : Module) : Bool :=
  match (Document.read l path (l.printModule m)).value with
  | .ok d => d.content.bare = m.bare
  | .error _ => false

theorem readsBack_spec {l : Language} {path : Path} {m : Module} (back : readsBack l path m = true) :
    ReadsBack l path m := by
  unfold readsBack at back
  split at back
  · rename_i d read
    exact ⟨d, read, of_decide_eq_true back⟩
  · cases back

/-- Do both texts of an edit read back? -/
def bothReadBack (s : Session MemoryStore) (e : Edit) : Bool :=
  match s.patched? deskWorkshop e with
  | some (found, _, m) =>
      readsBack deskWorkshop.language found.entry.path m &&
        readsBack deskWorkshop.language found.entry.path (s.writtenTree m)
  | none => true

/-- The action of an edit that went well. -/
def actionOf (result : Except SessionFailure EditOutcome) : Option Property.Action :=
  result.toOption.map (·.patch.action)

theorem edit_agreement_element : ∃ o s' old new text disk,
    (desk.edit deskWorkshop elementEdit).value = (.ok o, s') ∧
    desk.registry.entries.get? o.path = some old ∧ s'.registry.entries.get? o.path = some new ∧
    new.version = old.version + 1 ∧
    s'.store.get? o.path = some text ∧
    (Document.read deskWorkshop.language o.path text).value = .ok disk ∧
    (new.parsed.withoutIdentifiers desk.registry.identifierName).bare =
      (disk.content.withoutIdentifiers desk.registry.identifierName).bare ∧
    ∀ element ∈ disk.content.elements, element.Unnamed desk.registry.identifierName := by
  have reached : Reachable deskWorkshop desk := opened_reachable _
  have written : actionOf (desk.edit deskWorkshop elementEdit).value.1 = some .replaced := by
    decide +kernel
  have back : bothReadBack desk elementEdit = true := by decide +kernel
  have stripped : desk.config.persistIdentifiers = false := by decide +kernel
  have reads : ∀ found patch m, desk.patched? deskWorkshop elementEdit = some (found, patch, m) →
      ReadsBack deskWorkshop.language found.entry.path m ∧
        ReadsBack deskWorkshop.language found.entry.path (desk.writtenTree m) := by
    intro found patch m patched
    simp only [bothReadBack, patched, Bool.and_eq_true] at back
    exact ⟨readsBack_spec back.1, readsBack_spec back.2⟩
  cases value : (desk.edit deskWorkshop elementEdit).value with
  | mk result s' =>
      rw [value] at written
      cases result with
      | error f => cases written
      | ok o =>
          have action : o.patch.action = .replaced := Option.some.inj written
          obtain ⟨-, -, old, new, text, disk, before, after, version, -, held, read, same, unnamed, -⟩ :=
            edit_agreement deskWorkshop reached value (by simp [action]) reads
          exact ⟨o, s', old, new, text, disk, rfl, before, after, version, held, read, same,
            unnamed stripped⟩

end Session

end LiveMarkup
