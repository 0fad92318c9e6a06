import LiveMarkup.Proofs.Markup.Replacement
import LiveMarkup.Proofs.Project.Agreement
import LiveMarkup.Proofs.Project.Lookup
/-
# LiveMarkup.Proofs.Project.Stability -- do elements keep their identifiers?

An edit takes in the patched tree with the identifiers it had, so that its elements keep
them.  But the value that is set may bring elements of its own, which may be given
identifiers of elements that come later, and then those are given new ones.  An element
that stands ahead of the edited property always keeps its identifier, and all that stand
behind it keep theirs if and only if none was claimed (`edit_keeps_identifiers_iff`).  What
keeps its identifier is what the identifier resolves to, if it was before.

Poles: an attribute that is removed, and one that is set to an element with an identifier
that another element has (`identifier_usurped`).
-/

namespace LiveMarkup

set_option autoImplicit false

open LiveMarkup.Syntax

namespace Session

variable {σ : Type} [SourceStore σ] (w : Workshop)

theorem Reachable.coherent {s : Session σ} (reached : Reachable w s) : s.registry.Coherent w := by
  induction reached with
  | new config store next =>
      have coherent := Registry.coherent_new (w := w) config.identifierAttribute next
      simp only [Session.new]
      split
      · exact coherent.exclude _
      · exact coherent
  | load _ ih => exact (load_moves w _).coherent ih
  | runCycle _ changes ih => exact (runCycle_moves w _ changes).coherent ih
  | edit _ e ih => exact (edit_moves w _ e).coherent ih
  | outside _ store ih => exact ih

/-- What an edit that is accepted did: a patch of the element that was found, which changed
nothing or was committed. -/
theorem edit_eq_ok {s s' : Session σ} {e : Edit} {o : EditOutcome}
    (accepted : (s.edit w e).value = (.ok o, s')) :
    e.name ≠ s.registry.identifierName ∧ ∃ found patch m,
      s.registry.find? e.uid = some found ∧ s.patched? w e = some (found, patch, m) ∧
      found.entry.instrumented.update? s.registry.identifierName e.uid
        (Markup.patchStep w.language e.name e.value) = some (.ok patch, m) ∧
      ((patch.action = .unchanged ∧ o = ⟨found.entry.path, found.entry.version, patch⟩ ∧ s' = s) ∨
        (s.commit w found.entry.path m patch).value = (.ok o, s')) := by
  unfold edit at accepted
  split at accepted
  · cases accepted
  · rename_i other
    refine ⟨other, ?_⟩
    split at accepted
    · cases accepted
    · rename_i found find
      split at accepted
      · cases accepted
      · cases accepted
      · rename_i patch m update
        refine ⟨found, patch, m, find, by simp [patched?, find, update], update, ?_⟩
        simp only [Logged.bind_value] at accepted
        split at accepted
        · rename_i unchanged
          obtain ⟨outcome, same⟩ := Prod.mk.inj accepted
          exact Or.inl ⟨unchanged, (Except.ok.inj outcome).symm, same.symm⟩
        · exact Or.inr accepted

/-- A commit that is accepted takes in the document that is read of the printed tree. -/
theorem commit_eq_ok {s s' : Session σ} {path : Path} {m : Module} {patch : Property.PatchOutcome}
    {o : EditOutcome} {d : Document}
    (read : (Document.read w.language path (w.language.printModule m)).value = .ok d)
    (accepted : (s.commit w path m patch).value = (.ok o, s')) :
    o.path = path ∧ o.patch = patch ∧ s'.registry =
      s.registry.accept path (Registry.makeEntry w s.registry d (w.language.printModule m)) := by
  have ingested : (s.registry.ingest w path (w.language.printModule m)).value =
      (.ok (Registry.makeEntry w s.registry d (w.language.printModule m)).1,
        s.registry.accept path (Registry.makeEntry w s.registry d (w.language.printModule m))) := by
    simp only [Registry.ingest, Logged.bind_value, read]
    rfl
  rcases commit_cases w s path m patch with ⟨f, store, -, value⟩ | ⟨store, -, value⟩
  · rw [value] at accepted
    cases accepted
  · rw [value, ingested] at accepted
    obtain ⟨outcome, rfl⟩ := Prod.mk.inj accepted
    obtain rfl := Except.ok.inj outcome
    exact ⟨rfl, rfl, rfl⟩

/-- **When elements keep their identifiers.**  Let an edit be accepted in any session that
comes about, and let what is printed of the patched tree read back.  The elements of the
file before and after the edit are spliced at the property that was set: all that stand
ahead of it are the same elements with the same identifiers, and all that stand behind it
are so, too, if and only if no element that the value brought was given the identifier of
one of these.  Of the elements that stand, each that has its old identifier is what that
resolves to in the project if and only if it was so before. -/
theorem edit_keeps_identifiers_iff {s s' : Session σ} (reached : Reachable w s) {e : Edit} {o : EditOutcome}
    (accepted : (s.edit w e).value = (.ok o, s'))
    (reads : ∀ found patch m, s.patched? w e = some (found, patch, m) →
      ReadsBack w.language found.entry.path m) :
    ∃ old new, s.registry.entries.get? o.path = some old ∧ s'.registry.entries.get? o.path = some new ∧
      ∃ splice : Splice s.registry.identifierName e.uid e.name o.patch.action
          old.instrumented.elements new.instrumented.elements,
        (splice.Unmoved ↔ splice.Unclaimed) ∧
        ∀ x x' uid, (x, x') ∈ splice.standing → x.identifier? s.registry.identifierName = some uid →
          x'.identifier? s.registry.identifierName = some uid →
          (s'.registry.Resolves uid new x' ↔ s.registry.Resolves uid old x) := by
  have coherent := reached.coherent w
  obtain ⟨other, found, patch, m, find, patched, update, done⟩ := edit_eq_ok w accepted
  have listed := Registry.find?_entry_mem find
  obtain ⟨live, -, -⟩ := coherent.sound.get?_of_mem listed
  have genuine := coherent.genuine found.entry listed
  have splits : ∀ d : Module, d.bare = m.bare → ∀ next,
      ∃ splice : Splice s.registry.identifierName e.uid e.name patch.action found.entry.instrumented.elements
        (d.identify w.supply s.registry.identifierName next).content.elements,
        splice.Unmoved ↔ splice.Unclaimed :=
    fun d back next =>
      Module.splice_of_update genuine.settled genuine.identifiers.1 other update back next
  rcases done with ⟨unchanged, rfl, rfl⟩ | committed
  · -- nothing was done, so everything is where it was
    have kept : patch.action ≠ .removed := by
      rw [unchanged]
      decide
    obtain ⟨splice, -⟩ := splits m rfl 0
    refine ⟨found.entry, found.entry, live, live, splice.idle kept,
      iff_of_true rfl ((splice.idle kept).unclaimed_of_unmoved genuine.identifiers.1 rfl),
      fun x x' uid stands carries carries' => ?_⟩
    · obtain ⟨here, there⟩ := (splice.idle kept).mem_of_standing stands
      rw [genuine.unique here there (carries.trans carries'.symm)]
  · obtain ⟨d, read, back⟩ := reads found patch m patched
    obtain ⟨path, rfl, registry⟩ := commit_eq_ok w read committed
    have coherent' := (Reachable.edit reached e).coherent w
    rw [accepted, registry] at coherent'
    obtain ⟨splice, exact⟩ := splits d.content back s.registry.next
    rw [path, registry]
    refine ⟨found.entry, (Registry.makeEntry w s.registry d (w.language.printModule m)).1, live, ?_,
      splice, exact, fun x x' uid stands carries carries' => ?_⟩
    · rw [← Registry.known_entry, Registry.known_accept, if_pos rfl]
    · obtain ⟨here, there⟩ := splice.mem_of_standing stands
      exact coherent.resolves_accept_iff coherent' live here there carries carries'

/-! ## Poles -/

/-- A script with one element in another one. -/
def nest : Session MemoryStore := opened (deskStore "<a data-uid='m' t={0}><b data-uid='k'/></a>;")

/-- The element `m` without its attribute `t`. -/
def removalEdit : Edit := ⟨"m", "t", .undefined⟩

/-- The element `m` with an element in its attribute `t` that goes by the name of `k`. -/
def usurpingEdit : Edit := ⟨"m", "t", .code "<i data-uid='k'/>"⟩

/-- The tags of the elements in the script of the desk. -/
def tags (s : Session MemoryStore) : List String :=
  ((s.registry.entries.get? deskPath).map (·.instrumented.elements.map Markup.tag)).getD []

theorem reads_of_bothReadBack {s : Session MemoryStore} {e : Edit} (back : bothReadBack s e = true) :
    ∀ found patch m, s.patched? deskWorkshop e = some (found, patch, m) →
      ReadsBack deskWorkshop.language found.entry.path m := by
  intro found patch m patched
  simp only [bothReadBack, patched, Bool.and_eq_true] at back
  exact readsBack_spec back.1

theorem edit_keeps_identifiers_removal : ∃ o s' old new,
    (nest.edit deskWorkshop removalEdit).value = (.ok o, s') ∧
    nest.registry.entries.get? o.path = some old ∧ s'.registry.entries.get? o.path = some new ∧
    ∃ splice : Splice nest.registry.identifierName "m" "t" o.patch.action
        old.instrumented.elements new.instrumented.elements,
      splice.brought = [] ∧ splice.Unmoved := by
  have facts : actionOf (nest.edit deskWorkshop removalEdit).value.1 = some .removed ∧
      bothReadBack nest removalEdit = true := by decide +kernel
  obtain ⟨removed, back⟩ := facts
  have reached : Reachable deskWorkshop nest := opened_reachable _
  cases value : (nest.edit deskWorkshop removalEdit).value with
  | mk result s' =>
      rw [value] at removed
      cases result with
      | error f => cases removed
      | ok o =>
          have action : o.patch.action = .removed := Option.some.inj removed
          obtain ⟨old, new, before, after, splice, keeps, -⟩ :=
            edit_keeps_identifiers_iff deskWorkshop reached value (reads_of_bothReadBack back)
          have none : splice.brought = [] := by
            have brought := splice.brought_eq
            rw [if_pos action] at brought
            exact List.map_eq_nil_iff.mp brought
          refine ⟨o, s', old, new, rfl, before, after, splice, none, keeps.mpr fun e member => ?_⟩
          rw [none] at member
          cases member

/-- Refuting pole: the element `b` still stands, but its identifier is that of the new
element now. -/
theorem identifier_usurped :
    Reachable deskWorkshop nest ∧
    (∀ found patch m, nest.patched? deskWorkshop usurpingEdit = some (found, patch, m) →
      ReadsBack deskWorkshop.language found.entry.path m) ∧
    actionOf (nest.edit deskWorkshop usurpingEdit).value.1 = some .replaced ∧
    tags nest = ["a", "b"] ∧ (nest.registry.find? "k").map (·.node.tag) = some "b" ∧
    tags (nest.edit deskWorkshop usurpingEdit).value.2 = ["a", "i", "b"] ∧
    ((nest.edit deskWorkshop usurpingEdit).value.2.registry.find? "k").map (·.node.tag) = some "i" :=
  ⟨opened_reachable _, reads_of_bothReadBack (by decide +kernel), by decide +kernel⟩

end Session

end LiveMarkup
