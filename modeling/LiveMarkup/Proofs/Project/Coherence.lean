import LiveMarkup.Proofs.Project.Session
/-
# LiveMarkup.Proofs.Project.Coherence -- every entry is made of one text

An entry is genuine (`FileEntry.Genuine`) when everything in it comes from its source: the
tree is what is read of it, the identified tree and the arena are what identification makes
of that tree, and the generated text is what is printed.  `Registry.Arises` are the
registries that come about by the six operations, over stores of any kind that may fail as
they like; all of their entries are genuine, are found by their own path, and no path has
both an entry and a diagnostic (`Arises.coherent`, `entry_made_of_source`).

What an operation does is a row of moves, so it is enough that a move keeps this.
-/

namespace LiveMarkup

set_option autoImplicit false

open LiveMarkup.Syntax

/-- What is read of a text does not depend on the spelling of the path. -/
theorem Document.read_congr {l : Language} {p q : Path} {text : String} {d : Document}
    (read : (Document.read l p text).value = .ok d) (same : q.components = p.components) :
    (Document.read l q text).value = .ok ⟨q, d.variant, d.content⟩ := by
  obtain ⟨-, variant, outcome⟩ := Document.read_eq_ok read
  have variant : Variant.ofPath? q = some d.variant := (Variant.ofPath?_congr same).trans variant
  simp only [Document.read, variant, outcome]

/-- Everything in an entry comes from its source. -/
structure FileEntry.Genuine (w : Workshop) (identifierName : String) (e : FileEntry) : Prop where
  parsed : (Document.read w.language e.path e.source).value = .ok ⟨e.path, e.variant, e.parsed⟩
  identified : ∃ next, e.instrumented = (e.parsed.identify w.supply identifierName next).content ∧
    e.arena = (e.parsed.identify w.supply identifierName next).arena
  generated : e.generated = w.language.printModule e.instrumented
  version : 1 ≤ e.version

namespace Registry

variable {w : Workshop} {r r' : Registry} {p : Path}

theorem makeEntry_genuine {text : String} {d : Document}
    (read : (Document.read w.language p text).value = .ok d) :
    (makeEntry w r d text).1.Genuine w r.identifierName := by
  obtain ⟨path, -, -⟩ := Document.read_eq_ok read
  refine ⟨?_, ⟨r.next, rfl, rfl⟩, rfl, Nat.le_add_left 1 _⟩
  exact Document.read_congr read (congrArg Path.components path)

/-- Every entry is genuine and found by its path, and no path has both an entry and a
diagnostic. -/
structure Coherent (w : Workshop) (r : Registry) : Prop where
  sound : r.Sound
  genuine : ∀ e ∈ r.entries.values, e.Genuine w r.identifierName
  exclusive : ∀ p, (r.entries.get? p).isSome = true → r.diagnostics.get? p = none

theorem coherent_new (identifierName : String) (next : Nat) :
    (Registry.new identifierName next).Coherent w :=
  ⟨sound_new identifierName next, fun _ member => absurd member List.not_mem_nil, fun _ _ => rfl⟩

theorem values_erase {e : FileEntry} (member : e ∈ (r.entries.erase p).values) : e ∈ r.entries.values := by
  obtain ⟨a, listed, rfl⟩ := List.mem_map.mp member
  exact List.mem_map_of_mem (OrderedMap.mem_erase listed).1

theorem Coherent.exclude (coherent : r.Coherent w) (p : Path) : (r.exclude p).Coherent w := by
  refine ⟨coherent.sound.exclude p, fun e member => coherent.genuine e (values_erase member),
    fun q known => coherent.exclusive q ?_⟩
  simp only [Registry.exclude, OrderedMap.get?_erase] at known
  split at known
  · cases known
  · exact known

/-- What changes at one path alone needs to be looked at there alone. -/
theorem Coherent.exclusive_of_differs (coherent : r.Coherent w) (differs : DiffersOnlyAt p r r')
    (here : ∀ q : Path, q.components = p.components →
      (r'.known q).entry = none ∨ (r'.known q).diagnostic = none) :
    ∀ q, (r'.entries.get? q).isSome = true → r'.diagnostics.get? q = none := by
  intro q known
  by_cases same : q.components = p.components
  · rcases here q same with gone | clear
    · rw [known_entry] at gone
      rw [gone] at known
      cases known
    · exact clear
  · rw [← known_entry, differs.known q same] at known
    rw [← known_diagnostic, differs.known q same]
    exact coherent.exclusive q known

/-- Every move keeps a registry coherent. -/
theorem Move.coherent (move : Move w r r') (coherent : r.Coherent w) : r'.Coherent w := by
  have sound := move.sound w coherent.sound
  cases move with
  | remove p =>
      refine ⟨sound, fun e member => coherent.genuine e (values_erase member),
        coherent.exclusive_of_differs (remove_differs r p) fun q same => Or.inl ?_⟩
      rw [known_remove, if_pos same]
  | fail p f =>
      refine ⟨sound, fun e member => coherent.genuine e (values_erase member),
        coherent.exclusive_of_differs (fail_differs r p f) fun q same => Or.inl ?_⟩
      rw [known_fail, if_pos same]
  | accept p text d read =>
      refine ⟨sound, fun e member => ?_,
        coherent.exclusive_of_differs (accept_differs r p _) fun q same => Or.inr ?_⟩
      · obtain ⟨a, listed, rfl⟩ := List.mem_map.mp member
        rcases OrderedMap.mem_insert listed with ⟨-, new⟩ | old
        · have genuine : (makeEntry w r d text).1.Genuine w r.identifierName := makeEntry_genuine read
          exact new ▸ genuine
        · exact coherent.genuine _ (List.mem_map_of_mem old)
      · rw [known_accept, if_pos same]

theorem Moves.coherent (moves : Moves w r r') (coherent : r.Coherent w) : r'.Coherent w := by
  induction moves with
  | refl => exact coherent
  | tail _ move ih => exact move.coherent ih

/-! ## Registries that come about -/

/-- The registries that come about; each operation may be given a store of its own. -/
inductive Arises (w : Workshop) : Registry → Prop
  | new (identifierName : String) (next : Nat) : Arises w (Registry.new identifierName next)
  | loadAll {r : Registry} {σ : Type} [SourceStore σ] (arises : Arises w r) (store : σ) :
      Arises w (r.loadAll w store).value.2
  | applyChange {r : Registry} {σ : Type} [SourceStore σ] (arises : Arises w r) (store : σ) (c : Change) :
      Arises w (r.applyChange w store c).value.2
  | refresh {r : Registry} {σ : Type} [SourceStore σ] (arises : Arises w r) (store : σ) (p : Path) :
      Arises w (r.refresh w store p).value.2
  | ingest {r : Registry} (arises : Arises w r) (p : Path) (text : String) :
      Arises w (r.ingest w p text).value.2
  | remove {r : Registry} (arises : Arises w r) (p : Path) : Arises w (r.remove p)
  | exclude {r : Registry} (arises : Arises w r) (p : Path) : Arises w (r.exclude p)

theorem Arises.coherent (arises : r.Arises w) : r.Coherent w := by
  induction arises with
  | new identifierName next => exact coherent_new identifierName next
  | loadAll _ store ih => exact (loadAll_moves w _ store).coherent ih
  | applyChange _ store c ih => exact (applyChange_moves w _ store c).coherent ih
  | refresh _ store p ih => exact (refresh_moves w _ store p).coherent ih
  | ingest _ p text ih => exact (ingest_moves w _ p text).coherent ih
  | remove _ p ih => exact Move.coherent (.remove _ p) ih
  | exclude _ p ih => exact ih.exclude p

/-- What is found under a path is an entry of that path. -/
theorem Coherent.get?_eq_some (coherent : r.Coherent w) {e : FileEntry} (found : r.entries.get? p = some e) :
    e ∈ r.entries.values ∧ p.components = e.path.components ∧ r.versions.get? p = some e.version ∧
      Variant.ofPath? p = some e.variant := by
  obtain ⟨k, listed, same⟩ := OrderedMap.mem_of_get? found
  obtain ⟨path, version, variant⟩ := coherent.sound.entry k e listed
  have key : p.components = k.components := Path.compare_eq_iff.mp same
  refine ⟨List.mem_map_of_mem listed, key.trans path, ?_, ?_⟩
  · exact (OrderedMap.get?_congr same _).trans version
  · exact (Variant.ofPath?_congr (key.trans path)).trans variant

/-- **Every entry is made of one text.**  Whatever operations have been carried out, with
stores that fail or not, the entry that is found under a path has that path and the variant
of its extension; its tree is what is read of its source there, its identified tree and its
arena are what identification under the name of the registry makes of that tree, its
generated text is what is printed of the identified tree, and its version, one at least, is
the one remembered for the path.  No path has both an entry and a diagnostic. -/
theorem entry_made_of_source (arises : r.Arises w) :
    (∀ p e, r.entry? p = some e →
      p.components = e.path.components ∧ Variant.ofPath? p = some e.variant ∧
      (Document.read w.language p e.source).value = .ok ⟨p, e.variant, e.parsed⟩ ∧
      (∃ next, e.instrumented = (e.parsed.identify w.supply r.identifierName next).content ∧
        e.arena = (e.parsed.identify w.supply r.identifierName next).arena) ∧
      e.generated = w.language.printModule e.instrumented ∧
      r.versions.get? p = some e.version ∧ 1 ≤ e.version) ∧
    ∀ p, ¬ ((r.entry? p).isSome = true ∧ (r.diagnostics.get? p).isSome = true) := by
  have coherent := arises.coherent
  refine ⟨fun p e found => ?_, fun p both => ?_⟩
  · obtain ⟨member, path, version, variant⟩ := coherent.get?_eq_some found
    have genuine := coherent.genuine e member
    exact ⟨path, variant, Document.read_congr genuine.parsed path, genuine.identified,
      genuine.generated, version, genuine.version⟩
  · have none := coherent.exclusive p both.1
    rw [none] at both
    cases both.2

/-! ## Pole -/

open Session (deskWorkshop deskPath deskText deskStore)

/-- A registry that took in a text, failed at the next one, and then read a store. -/
def reread : Registry :=
  ((((((Registry.new "data-uid" 0).ingest deskWorkshop deskPath "<i/>;").value.2).ingest
    deskWorkshop deskPath "<i>;").value.2).loadAll deskWorkshop (deskStore deskText)).value.2

theorem reread_made_of_source : ∃ e, reread.entry? deskPath = some e ∧ e.source = deskText ∧
    (Document.read deskWorkshop.language deskPath deskText).value = .ok ⟨deskPath, e.variant, e.parsed⟩ ∧
    e.version = 2 := by
  have arises : reread.Arises deskWorkshop :=
    .loadAll (.ingest (.ingest (.new "data-uid" 0) deskPath "<i/>;") deskPath "<i>;") _
  have known : (reread.entry? deskPath).map (fun e => (e.source, e.version)) = some (deskText, 2) := by
    decide +kernel
  obtain ⟨e, found, same⟩ := Option.map_eq_some_iff.mp known
  obtain ⟨source, version⟩ := Prod.mk.inj same
  obtain ⟨-, -, read, -⟩ := (entry_made_of_source arises).1 deskPath e found
  exact ⟨e, found, source, source ▸ read, version⟩

end Registry

end LiveMarkup
