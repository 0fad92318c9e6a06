import LiveMarkup.Project.Registry
import LiveMarkup.Proofs.Path
import Mathlib.Logic.Relation
/-
# LiveMarkup.Proofs.Project.Registry -- what an operation does to a registry

Every operation is a row of moves (`Registry.Move`): a file is forgotten, a failure is
kept for it, or an entry is made of a text that was read and is taken in.  What each move
keeps, every operation keeps; `Moves.sound` is the first use.

`Registry.known` is all that a registry knows of one path.  An operation on a path
changes nothing that is known of another one (`DiffersOnlyAt`), and the lemmas named
`known_…` say what is known of the path itself afterwards.
-/

namespace LiveMarkup

set_option autoImplicit false

open LiveMarkup.Syntax

namespace Registry

/-! ## What is known of one path -/

/-- What a registry knows of one path. -/
structure Knowledge where
  entry : Option FileEntry
  version : Option Nat
  diagnostic : Option FileDiagnostic

def known (r : Registry) (p : Path) : Knowledge :=
  ⟨r.entries.get? p, r.versions.get? p, r.diagnostics.get? p⟩

@[simp] theorem known_entry (r : Registry) (p : Path) : (r.known p).entry = r.entries.get? p := rfl

@[simp] theorem known_version (r : Registry) (p : Path) :
    (r.known p).version = r.versions.get? p := rfl

@[simp] theorem known_diagnostic (r : Registry) (p : Path) :
    (r.known p).diagnostic = r.diagnostics.get? p := rfl

theorem tracks_congr {p q : Path} (same : p.components = q.components) (r : Registry) :
    r.tracks p = r.tracks q := by
  simp only [tracks, Path.isSource_congr same, Path.contains_congr same]

variable {r r' : Registry} {p q : Path}

theorem source_of_tracks (tracked : r.tracks p = true) : p.isSource = true := by
  rw [tracks, Bool.and_eq_true] at tracked
  exact tracked.1

theorem known_remove : (r.remove p).known q =
    if q.components = p.components then ⟨none, r.versions.get? q, none⟩ else r.known q := by
  simp only [remove, known, OrderedMap.get?_erase, Path.compare_eq_iff]
  split <;> rfl

theorem known_fail {f : FileFailure} : (r.fail p f).known q =
    if q.components = p.components then ⟨none, r.versions.get? q, some ⟨p, f⟩⟩ else r.known q := by
  simp only [fail, known, OrderedMap.get?_erase, OrderedMap.get?_insert, Path.compare_eq_iff]
  split <;> rfl

theorem known_accept {made : FileEntry × Nat} : (r.accept p made).known q =
    if q.components = p.components then ⟨some made.1, some made.1.version, none⟩ else r.known q := by
  simp only [accept, known, OrderedMap.get?_erase, OrderedMap.get?_insert, Path.compare_eq_iff]
  split <;> rfl

/-- Two registries with the same rules that know the same of every path but one. -/
structure DiffersOnlyAt (p : Path) (r r' : Registry) : Prop where
  identifierName : r'.identifierName = r.identifierName
  excluded : r'.excluded = r.excluded
  known : ∀ q : Path, q.components ≠ p.components → r'.known q = r.known q

theorem DiffersOnlyAt.refl (p : Path) (r : Registry) : DiffersOnlyAt p r r := ⟨rfl, rfl, fun _ _ => rfl⟩

theorem DiffersOnlyAt.tracks (differs : DiffersOnlyAt p r r') (q : Path) : r'.tracks q = r.tracks q := by
  simp only [Registry.tracks, differs.excluded]

theorem remove_differs (r : Registry) (p : Path) : DiffersOnlyAt p r (r.remove p) :=
  ⟨rfl, rfl, fun q other => by rw [known_remove, if_neg other]⟩

theorem fail_differs (r : Registry) (p : Path) (f : FileFailure) : DiffersOnlyAt p r (r.fail p f) :=
  ⟨rfl, rfl, fun q other => by rw [known_fail, if_neg other]⟩

theorem accept_differs (r : Registry) (p : Path) (made : FileEntry × Nat) :
    DiffersOnlyAt p r (r.accept p made) :=
  ⟨rfl, rfl, fun q other => by rw [known_accept, if_neg other]⟩

/-! ## Moves -/

variable (w : Workshop)

/-- One change of a registry. -/
inductive Move : Registry → Registry → Prop where
  | remove (r : Registry) (p : Path) : Move r (r.remove p)
  | fail (r : Registry) (p : Path) (f : FileFailure) : Move r (r.fail p f)
  | accept (r : Registry) (p : Path) (text : String) (d : Document)
      (read : (Document.read w.language p text).value = .ok d) :
      Move r (r.accept p (makeEntry w r d text))

/-- A row of changes. -/
abbrev Moves : Registry → Registry → Prop := Relation.ReflTransGen (Move w)

/-- The three things that taking in a text can do. -/
theorem ingest_cases (r : Registry) (p : Path) (text : String) :
    (∃ d, (Document.read w.language p text).value = .ok d ∧
      (r.ingest w p text).value = (.ok (makeEntry w r d text).1, r.accept p (makeEntry w r d text))) ∨
    (∃ shown, p.isSource = false ∧ (r.ingest w p text).value = (.error (.unsupported shown), r)) ∨
    (∃ f, ¬ Readable w.language p text ∧
      (r.ingest w p text).value = (.error f, r.fail p (.unreadable f))) := by
  simp only [ingest, Logged.bind_value]
  cases read : (Document.read w.language p text).value with
  | ok d => exact Or.inl ⟨d, rfl, rfl⟩
  | error f =>
      cases f with
      | unsupported shown =>
          exact Or.inr (Or.inl ⟨shown, Document.read_eq_unsupported read, rfl⟩)
      | malformed path diagnostics =>
          refine Or.inr (Or.inr ⟨_, ?_, rfl⟩)
          rintro ⟨d, readable⟩
          rw [read] at readable
          cases readable

theorem ingest_moves (r : Registry) (p : Path) (text : String) :
    Moves w r (r.ingest w p text).value.2 := by
  rcases ingest_cases w r p text with ⟨d, read, value⟩ | ⟨shown, -, value⟩ | ⟨f, -, value⟩
  · rw [value]
    exact .single (.accept r p text d read)
  · rw [value]
  · rw [value]
    exact .single (.fail r p _)

theorem ingest_differs (r : Registry) (p : Path) (text : String) :
    DiffersOnlyAt p r (r.ingest w p text).value.2 := by
  rcases ingest_cases w r p text with ⟨d, -, value⟩ | ⟨shown, -, value⟩ | ⟨f, -, value⟩
  · rw [value]
    exact accept_differs r p _
  · rw [value]
    exact .refl p r
  · rw [value]
    exact fail_differs r p _

/-- Of a source whose text was taken in there is an entry of that text, or else only a
diagnostic. -/
theorem known_ingest (r : Registry) {text : String} (source : p.isSource = true)
    (same : q.components = p.components) :
    (Readable w.language p text →
      ∃ e, (r.ingest w p text).value.2.entries.get? q = some e ∧ e.source = text) ∧
    (¬ Readable w.language p text →
      (r.ingest w p text).value.2.entries.get? q = none ∧
      ((r.ingest w p text).value.2.diagnostics.get? q).isSome = true) := by
  rcases ingest_cases w r p text with ⟨d, read, value⟩ | ⟨shown, other, -⟩ | ⟨f, unreadable, value⟩
  · refine ⟨fun _ => ⟨(makeEntry w r d text).1, ?_, rfl⟩, fun none => absurd ⟨d, read⟩ none⟩
    rw [value, ← known_entry, known_accept, if_pos same]
  · rw [source] at other
    cases other
  · refine ⟨fun readable => absurd readable unreadable, fun _ => ?_⟩
    rw [value, ← known_entry, ← known_diagnostic, known_fail, if_pos same]
    exact ⟨rfl, rfl⟩

section Store

variable {σ : Type} [SourceStore σ]

theorem refresh_moves (r : Registry) (store : σ) (p : Path) :
    Moves w r (r.refresh w store p).value.2 := by
  unfold refresh
  split
  · exact .refl
  · split
    · exact ingest_moves w r p _
    · exact .single (.remove r p)
    · exact .single (.fail r p _)

theorem refresh_differs (r : Registry) (store : σ) (p : Path) :
    DiffersOnlyAt p r (r.refresh w store p).value.2 := by
  unfold refresh
  split
  · exact .refl p r
  · split
    · exact ingest_differs w r p _
    · exact remove_differs r p
    · exact fail_differs r p _

theorem applyChange_moves (r : Registry) (store : σ) (c : Change) :
    Moves w r (r.applyChange w store c).value.2 := by
  unfold applyChange
  split
  · exact refresh_moves w r store c.path
  · exact refresh_moves w r store c.path
  · exact .single (.remove r c.path)

theorem applyChange_differs (r : Registry) (store : σ) (c : Change) :
    DiffersOnlyAt c.path r (r.applyChange w store c).value.2 := by
  unfold applyChange
  split
  · exact refresh_differs w r store c.path
  · exact refresh_differs w r store c.path
  · exact remove_differs r c.path

theorem refreshAll_moves (store : σ) (ps : List Path) (n : LoadSummary) (r : Registry) :
    Moves w r (refreshAll w store ps n r).value.2 := by
  induction ps generalizing n r with
  | nil => exact .refl
  | cons p ps ih => exact (refresh_moves w r store p).trans (ih _ _)

theorem foldl_remove_moves (ps : List Path) (r : Registry) : Moves w r (ps.foldl remove r) := by
  induction ps generalizing r with
  | nil => exact .refl
  | cons p ps ih => exact .head (.remove r p) (ih _)

theorem loadAll_moves (r : Registry) (store : σ) : Moves w r (r.loadAll w store).value.2 := by
  unfold loadAll
  split
  · exact .refl
  · exact (foldl_remove_moves w _ r).trans (refreshAll_moves w store _ _ _)

end Store

variable {w} in
theorem Move.rules (move : Move w r r') :
    r'.identifierName = r.identifierName ∧ r'.excluded = r.excluded := by
  cases move with
  | remove p => exact ⟨rfl, rfl⟩
  | fail p f => exact ⟨rfl, rfl⟩
  | accept p text d read => exact ⟨rfl, rfl⟩

variable {w} in
/-- No operation changes which paths are read. -/
theorem Moves.tracks (moves : Moves w r r') (q : Path) : r'.tracks q = r.tracks q := by
  have excluded : r'.excluded = r.excluded := by
    induction moves with
    | refl => rfl
    | tail _ move ih => rw [move.rules.2, ih]
  simp only [Registry.tracks, excluded]

/-! ## Sound registries -/

/-- A registry finds its entries by their own paths, and remembers their versions. -/
structure Sound (r : Registry) : Prop where
  ordered : r.entries.Ordered
  entry : ∀ k e, (k, e) ∈ r.entries.entries →
    k.components = e.path.components ∧ r.versions.get? k = some e.version ∧
      Variant.ofPath? e.path = some e.variant

theorem sound_new (identifierName : String) (next : Nat) : (Registry.new identifierName next).Sound :=
  ⟨OrderedMap.ordered_empty, fun _ _ member => absurd member List.not_mem_nil⟩

theorem Sound.exclude (sound : r.Sound) (p : Path) : (r.exclude p).Sound :=
  ⟨sound.ordered.erase p, fun k e member => sound.entry k e (OrderedMap.mem_erase member).1⟩

theorem Sound.remove (sound : r.Sound) (p : Path) : (r.remove p).Sound :=
  ⟨sound.ordered.erase p, fun k e member => sound.entry k e (OrderedMap.mem_erase member).1⟩

theorem Sound.fail (sound : r.Sound) (p : Path) (f : FileFailure) : (r.fail p f).Sound :=
  ⟨sound.ordered.erase p, fun k e member => sound.entry k e (OrderedMap.mem_erase member).1⟩

theorem Sound.accept (sound : r.Sound) {text : String} {d : Document}
    (read : (Document.read w.language p text).value = .ok d) :
    (r.accept p (makeEntry w r d text)).Sound := by
  obtain ⟨path, variant, -⟩ := Document.read_eq_ok read
  have ordered : (r.accept p (makeEntry w r d text)).entries.Ordered := sound.ordered.insert _ _
  refine ⟨ordered, fun k e member => ?_⟩
  have now := @known_accept r p k (makeEntry w r d text)
  by_cases same : k.components = p.components
  · rw [if_pos same] at now
    have entry := congrArg Knowledge.entry now
    obtain rfl : (makeEntry w r d text).1 = e := by
      rw [known_entry, ordered.get?_of_mem member Std.ReflCmp.compare_self] at entry
      exact (Option.some.inj entry).symm
    refine ⟨same.trans (congrArg Path.components path).symm, congrArg Knowledge.version now, ?_⟩
    show Variant.ofPath? d.path = some d.variant
    rw [path, variant]
  · rw [if_neg same] at now
    have old : (k, e) ∈ r.entries.entries := by
      rcases OrderedMap.mem_insert member with ⟨new, -⟩ | old
      · exact absurd (Path.compare_eq_iff.mp new).symm same
      · exact old
    obtain ⟨path, version, variant⟩ := sound.entry k e old
    exact ⟨path, (congrArg Knowledge.version now).trans version, variant⟩

theorem Move.sound (move : Move w r r') (sound : r.Sound) : r'.Sound := by
  cases move with
  | remove p => exact sound.remove p
  | fail p f => exact sound.fail p f
  | accept p text d read => exact sound.accept w read

theorem Moves.sound (moves : Moves w r r') (sound : r.Sound) : r'.Sound := by
  induction moves with
  | refl => exact sound
  | tail _ move ih => exact move.sound w ih

/-- An entry that is listed is the one that is found under its path. -/
theorem Sound.get?_of_mem (sound : r.Sound) {e : FileEntry} (member : e ∈ r.entries.values) :
    r.entries.get? e.path = some e ∧ r.versions.get? e.path = some e.version ∧ e.path.isSource = true := by
  obtain ⟨⟨k, e⟩, listed, rfl⟩ := List.mem_map.mp member
  obtain ⟨path, version, variant⟩ := sound.entry k e listed
  have same : compare e.path k = .eq := Path.compare_eq_iff.mpr path.symm
  refine ⟨sound.ordered.get?_of_mem listed same, ?_, ?_⟩
  · rw [OrderedMap.get?_congr same, version]
  · simp [Path.isSource, variant]

theorem find?_entry_mem {uid : String} {found : FoundElement} (find : r.find? uid = some found) :
    found.entry ∈ r.entries.values := by
  obtain ⟨e, member, here⟩ := List.exists_of_findSome?_eq_some find
  simp only [Option.bind_eq_bind, Option.pure_def, Option.bind_eq_some_iff, Option.some.injEq] at here
  obtain ⟨position, -, node, -, rfl⟩ := here
  exact member

end Registry

end LiveMarkup
