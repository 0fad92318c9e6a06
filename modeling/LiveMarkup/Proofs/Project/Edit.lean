import LiveMarkup.Proofs.Project.Session
/-
# LiveMarkup.Proofs.Project.Edit -- what an edit that fails leaves behind

An edit can fail where it is checked, where the element is looked up, where the property
is patched, where the store is written, and where the new text is read back.  Up to the
store nothing has been touched, and a store that refuses a text is as it was.  The last
failure comes too late: the store has the new text by then, and the entry of the file is
gone (`edit_without_effect`).

Poles: a locked store, where an edit fails without a trace, and a script into which an
edit puts code that only a typed file can hold (`unreadable_edit_loses_file`).
-/

namespace LiveMarkup.Session

set_option autoImplicit false

open LiveMarkup.Syntax

variable {σ : Type} [SourceStore σ] (w : Workshop)

/-- A committed text that cannot be read back costs the file its entry. -/
theorem commit_unreadable {s : Session σ} (sound : s.registry.Sound) {e : Edit} {found : FoundElement}
    {patch : Property.PatchOutcome} {m : Module} (patched : s.patched? w e = some (found, patch, m))
    {g : ReadFailure}
    (failed : (s.commit w found.entry.path m patch).value.1 = .error (.unreadable g)) :
    ¬ Readable w.language found.entry.path (w.language.printModule m) ∧
      s.registry.entries.get? found.entry.path = some found.entry ∧
      (s.commit w found.entry.path m patch).value.2.registry.entries.get? found.entry.path = none := by
  obtain ⟨live, -, source⟩ :=
    sound.get?_of_mem (Registry.find?_entry_mem (patched?_find w patched))
  rcases commit_cases w s found.entry.path m patch with ⟨f, store, -, value⟩ | ⟨store, -, value⟩
  · rw [value] at failed
    cases failed
  · have lost : ¬ Readable w.language found.entry.path (w.language.printModule m) := by
      intro readable
      rcases Registry.ingest_cases w s.registry found.entry.path (w.language.printModule m) with
        ⟨d, -, ingested⟩ | ⟨shown, other, -⟩ | ⟨f, unreadable, -⟩
      · rw [value, ingested] at failed
        cases failed
      · rw [source] at other
        cases other
      · exact unreadable readable
    have gone := ((Registry.known_ingest w s.registry source rfl).2 lost).1
    rw [value]
    exact ⟨lost, live, gone⟩

/-- **When an edit that fails has no effect.**  Over a store whose refused writes leave it
as it is, an edit that fails leaves the whole session as it was unless what fails is
reading the text of the patched tree back; and then the file is no longer known.  An edit
that changes nothing leaves the session as it was, too. -/
theorem edit_without_effect
    (lawful : ∀ (t t' : σ) (path : Path) (text : String) (f : StoreFailure),
      SourceStore.write t path text = (.error f, t') → t' = t)
    {s : Session σ} (reached : Reachable w s) (e : Edit) :
    (∀ f, (s.edit w e).value.1 = .error f → (∀ g, f ≠ .unreadable g) → (s.edit w e).value.2 = s) ∧
    (∀ g, (s.edit w e).value.1 = .error (.unreadable g) →
      ∃ found patch m, s.patched? w e = some (found, patch, m) ∧
        ¬ Readable w.language found.entry.path (w.language.printModule m) ∧
        s.registry.entries.get? found.entry.path = some found.entry ∧
        (s.edit w e).value.2.registry.entries.get? found.entry.path = none) ∧
    (∀ o, (s.edit w e).value.1 = .ok o → o.patch.action = .unchanged → (s.edit w e).value.2 = s) := by
  rcases edit_cases w s e with ⟨f, value, early⟩ | ⟨o, value, unchanged⟩ |
    ⟨found, patch, m, patched, changed, value⟩
  · rw [value]
    refine ⟨fun _ _ _ => rfl, fun g failed => ?_, fun _ _ _ => rfl⟩
    exact absurd (Except.error.inj failed) (early g)
  · rw [value]
    exact ⟨fun _ _ _ => rfl, fun g failed => (by cases failed), fun _ _ _ => rfl⟩
  · rw [value]
    refine ⟨fun f failed late => ?_, fun g failed => ?_, fun o done unchanged => ?_⟩
    · rcases commit_cases w s found.entry.path m patch with ⟨f', store, wrote, value⟩ | ⟨store, -, value⟩
      · rw [value, lawful _ _ _ _ _ wrote]
      · rw [value] at failed
        simp only at failed
        split at failed
        · exact absurd (Except.error.inj failed).symm (late _)
        · cases failed
    · exact ⟨found, patch, m, patched, commit_unreadable w (reached.sound w) patched failed⟩
    · rcases commit_cases w s found.entry.path m patch with ⟨f', store, -, value⟩ | ⟨store, -, value⟩
      · rw [value] at done
        cases done
      · rw [value] at done
        simp only at done
        split at done
        · cases done
        · obtain rfl := Except.ok.inj done
          exact absurd unchanged changed

/-! ## Poles -/

/-- Files in memory that nobody may write. -/
structure LockedStore where
  files : MemoryStore

instance : SourceStore LockedStore where
  root s := s.files.root
  list s := SourceStore.list s.files
  read s := SourceStore.read s.files
  write s path _ := (.error (.io path .alreadyExists), s)
  ignores s := SourceStore.ignores s.files

/-- An edit of the identifiers themselves. -/
def identifierEdit : Edit := ⟨"k", "data-uid", .undefined⟩

/-- The removal of an attribute that is not there. -/
def idleEdit : Edit := ⟨"k", "b", .undefined⟩

/-- The element `k` with code in its attribute `a` that is typed. -/
def typedEdit : Edit := ⟨"k", "a", .code "x as any"⟩

def lockedDesk : Session LockedStore := opened ⟨deskStore deskText⟩

/-- Is this the failure of a store, or of a patch? -/
def isEarly : Except SessionFailure EditOutcome → Bool
  | .error (.store _) | .error (.patch _) => true
  | _ => false

theorem isEarly_spec {result : Except SessionFailure EditOutcome} (early : isEarly result = true) :
    ∃ f, result = .error f ∧ ∀ g, f ≠ .unreadable g := by
  cases result with
  | ok o => cases early
  | error f =>
      refine ⟨f, rfl, fun g late => ?_⟩
      subst late
      cases early

theorem edit_without_effect_locked :
    (lockedDesk.edit deskWorkshop nullEdit).value.2 = lockedDesk ∧
    (lockedDesk.edit deskWorkshop identifierEdit).value.2 = lockedDesk ∧
    (lockedDesk.edit deskWorkshop idleEdit).value.2 = lockedDesk := by
  have lawful : ∀ (t t' : LockedStore) (path : Path) (text : String) (f : StoreFailure),
      SourceStore.write t path text = (.error f, t') → t' = t :=
    fun t t' path text f refused => (congrArg Prod.snd refused).symm
  have reached : Reachable deskWorkshop lockedDesk := opened_reachable _
  have early : isEarly (lockedDesk.edit deskWorkshop nullEdit).value.1 = true ∧
      isEarly (lockedDesk.edit deskWorkshop identifierEdit).value.1 = true ∧
      (lockedDesk.edit deskWorkshop idleEdit).value.1.toOption.map (·.patch.action) =
        some .unchanged := by decide +kernel
  obtain ⟨_, refused, late⟩ := isEarly_spec early.1
  obtain ⟨_, readOnly, late'⟩ := isEarly_spec early.2.1
  refine ⟨(edit_without_effect deskWorkshop lawful reached nullEdit).1 _ refused late,
    (edit_without_effect deskWorkshop lawful reached identifierEdit).1 _ readOnly late', ?_⟩
  cases idle : (lockedDesk.edit deskWorkshop idleEdit).value.1 with
  | error f =>
      rw [idle] at early
      cases early.2.2
  | ok o =>
      rw [idle] at early
      exact (edit_without_effect deskWorkshop lawful reached idleEdit).2.2 o idle
        (Option.some.inj early.2.2)

/-- Refuting pole: the code of the edit is no code of the script, so the edit fails, but
the script has been overwritten and is no longer known. -/
theorem unreadable_edit_loses_file :
    Reachable deskWorkshop desk ∧
    (∃ f, (desk.edit deskWorkshop typedEdit).value.1 = .error f) ∧
    desk.store.get? deskPath = some deskText ∧
    (desk.edit deskWorkshop typedEdit).value.2.store.get? deskPath = some "<b a={x as any}/>;\n" ∧
    (desk.registry.entries.get? deskPath).isSome = true ∧
    ((desk.edit deskWorkshop typedEdit).value.2.registry.entries.get? deskPath).isSome = false := by
  refine ⟨opened_reachable _, ?_, by decide +kernel⟩
  have failed : ((desk.edit deskWorkshop typedEdit).value.1 matches .error _) = true := by
    decide +kernel
  cases result : (desk.edit deskWorkshop typedEdit).value.1 with
  | error f => exact ⟨f, rfl⟩
  | ok o =>
      rw [result] at failed
      cases failed

end LiveMarkup.Session
