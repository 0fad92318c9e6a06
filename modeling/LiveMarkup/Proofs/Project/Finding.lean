import LiveMarkup.Proofs.Project.Stability
/-
# LiveMarkup.Proofs.Project.Finding -- which element answers to an identifier

An identifier is looked up twice, in the arena of an entry and then in its tree, and any
number of entries may have an element with it.  `Registry.Finds` says what a look-up gives:
a node and an element that belong together, in the first entry, by path, that has the
identifier.  In a coherent registry a look-up gives that whenever any entry has the
identifier, and nothing otherwise (`Coherent.finds`, `Coherent.find?_eq_none_iff`).

So an identifier dies with the last entry that has it.  When the entry of one path goes, or
is replaced by one without the identifier, the others decide (`Coherent.find?_eq_none_of_gone`).
`found_iff_held` says all of this, and what a session shows, of whatever comes about.

An identifier that two files have addresses the element of the first of them only
(`resolves_iff_first`).

Poles: two scripts that both came with an element `k`.
-/

namespace LiveMarkup

set_option autoImplicit false

open LiveMarkup.Syntax

/-- What is shown of an element of an entry: all of its properties but its identifier. -/
def FileEntry.selection (l : Language) (name uid : String) (e : FileEntry) (x : Markup) : Selection :=
  ⟨uid, e.path, e.version, x.tag, x.isComponent, x.lines,
    (x.properties l).filter fun p => p.name != name⟩

namespace Registry

variable {w : Workshop} {r r' : Registry} {p : Path} {uid : String} {e : FileEntry} {x : Markup}

/-! ## Entries by path -/

/-- The entries are listed by increasing path. -/
theorem Sound.paths_increase (sound : r.Sound) :
    r.entries.values.Pairwise fun a b => compare a.path b.path = .lt := by
  refine List.pairwise_map.mpr (sound.ordered.imp_of_mem fun {a b} listedA listedB before => ?_)
  have keyA : compare a.1 a.2.path = .eq := Path.compare_eq_iff.mpr (sound.entry a.1 a.2 listedA).1
  have keyB : compare b.1 b.2.path = .eq := Path.compare_eq_iff.mpr (sound.entry b.1 b.2 listedB).1
  rw [← Std.TransCmp.congr_left keyA, ← Std.TransCmp.congr_right keyB]
  exact before

/-- A path has one entry at most. -/
theorem Sound.entry_unique (sound : r.Sound) {e' : FileEntry} (live : e ∈ r.entries.values)
    (live' : e' ∈ r.entries.values) (same : e.path.components = e'.path.components) : e = e' := by
  have found := (sound.get?_of_mem live).1
  rw [OrderedMap.get?_congr (Path.compare_eq_iff.mpr same), (sound.get?_of_mem live').1] at found
  exact (Option.some.inj found).symm

/-! ## Looking up -/

/-- A look-up gives a node and an element that belong together, in the first entry, by path,
that has the identifier. -/
structure Finds (r : Registry) (uid : String) (found : FoundElement) (x : Markup) : Prop where
  live : found.entry ∈ r.entries.values
  first : ∀ e ∈ r.entries.values, e.Holds r.identifierName uid →
    e = found.entry ∨ compare found.entry.path e.path = .lt
  uid : found.node.uid = uid
  place : found.entry.instrumented.elements[found.position]? = some x
  shows : Shows r.identifierName x found.node
  element : found.element? r = some x

theorem Finds.carries {found : FoundElement} (finds : r.Finds uid found x) :
    x ∈ found.entry.instrumented.elements ∧ x.identifier? r.identifierName = some uid :=
  ⟨List.mem_of_getElem? finds.place, finds.uid ▸ finds.shows.uid⟩

/-- Whatever is found is found as it should be. -/
theorem Coherent.finds (coherent : r.Coherent w) {found : FoundElement} (find : r.find? uid = some found) :
    ∃ x, r.Finds uid found x := by
  obtain ⟨before, e, after, split, look, skipped⟩ := List.findSome?_eq_some_iff.mp find
  have live : e ∈ r.entries.values := by simp [split]
  obtain ⟨rfl, node, x, place, shows, element⟩ := (coherent.genuine e live).find?_spec look
  refine ⟨x, live, fun e' live' holds => ?_, node, place, shows, element⟩
  have ordered := coherent.sound.paths_increase
  rw [split] at ordered live'
  rcases List.mem_append.mp live' with early | late
  · -- an entry before that had the identifier would have been found
    have genuine := coherent.genuine e' (split ▸ List.mem_append_left _ early)
    have answers : (e'.find? uid).isSome = true := genuine.find?_isSome_iff.mpr holds
    rw [show e'.find? uid = none from skipped e' early] at answers
    cases answers
  · rcases List.mem_cons.mp late with same | late
    · exact Or.inl same
    · exact Or.inr (List.rel_of_pairwise_cons (List.pairwise_append.mp ordered).2.1 late)

/-- Nothing is found by an identifier that no entry has. -/
theorem Coherent.find?_eq_none_iff (coherent : r.Coherent w) :
    r.find? uid = none ↔ ∀ e ∈ r.entries.values, ¬ e.Holds r.identifierName uid := by
  rw [Registry.find?, List.findSome?_eq_none_iff]
  refine forall₂_congr fun e live => ?_
  rw [← (coherent.genuine e live).find?_isSome_iff, Option.not_isSome_iff_eq_none]
  rfl

/-! ## Dead identifiers -/

/-- Has the entry of another path an element with the identifier? -/
def HeldElsewhere (r : Registry) (p : Path) (uid : String) : Prop :=
  ∃ e ∈ r.entries.values, e.path.components ≠ p.components ∧ e.Holds r.identifierName uid

/-- Once the entry of a path has gone or has no element with an identifier any more, it is for
the entries of other paths to answer to it. -/
theorem Coherent.find?_eq_none_of_gone (coherent : r.Coherent w) (coherent' : r'.Coherent w)
    (name : r'.identifierName = r.identifierName)
    (others : ∀ q : Path, q.components ≠ p.components → r'.entries.get? q = r.entries.get? q)
    (gone : ∀ e, r'.entries.get? p = some e → ¬ e.Holds r.identifierName uid) :
    r'.find? uid = none ↔ ¬ r.HeldElsewhere p uid := by
  rw [coherent'.find?_eq_none_iff, name]
  constructor
  · rintro none ⟨e, live, other, holds⟩
    have kept : r'.entries.get? e.path = some e :=
      (others e.path other).trans (coherent.sound.get?_of_mem live).1
    exact none e (coherent'.get?_eq_some kept).1 holds
  · intro free e live holds
    have found := (coherent'.sound.get?_of_mem live).1
    by_cases same : e.path.components = p.components
    · rw [OrderedMap.get?_congr (Path.compare_eq_iff.mpr same)] at found
      exact gone e found holds
    · have before : r.entries.get? e.path = some e := (others e.path same).symm.trans found
      exact free ⟨e, (coherent.get?_eq_some before).1, same, holds⟩

/-- The entry of a path whose text was taken in is the one that was made of it. -/
theorem Coherent.ingest_entry (coherent : r.Coherent w) {text : String}
    (found : (r.ingest w p text).value.2.entries.get? p = some e) :
    (r.ingest w p text).value.1 = .ok e := by
  rcases ingest_cases w r p text with ⟨d, -, value⟩ | ⟨shown, other, value⟩ | ⟨f, -, value⟩
  · rw [value, ← known_entry, known_accept, if_pos rfl] at found
    rw [value, Option.some.inj found]
  · rw [value] at found
    obtain ⟨-, -, -, variant⟩ := coherent.get?_eq_some found
    rw [Path.isSource, variant] at other
    cases other
  · rw [value, ← known_entry, known_fail, if_pos rfl] at found
    cases found

/-- A text that cannot be read makes no entry. -/
theorem readable_of_ingest {text : String} (made : (r.ingest w p text).value.1 = .ok e) :
    Readable w.language p text := by
  rcases ingest_cases w r p text with ⟨d, read, -⟩ | ⟨shown, -, value⟩ | ⟨f, -, value⟩
  · exact ⟨d, read⟩
  · rw [value] at made
    cases made
  · rw [value] at made
    cases made

theorem Coherent.find?_ingest_eq_none_iff (coherent : r.Coherent w) {text : String}
    (without : ∀ e, (r.ingest w p text).value.1 = .ok e → ¬ e.Holds r.identifierName uid) :
    (r.ingest w p text).value.2.find? uid = none ↔ ¬ r.HeldElsewhere p uid := by
  have differs := ingest_differs w r p text
  exact coherent.find?_eq_none_of_gone ((ingest_moves w r p text).coherent coherent)
    differs.identifierName (fun q other => congrArg Knowledge.entry (differs.known q other))
    fun e found => without e (coherent.ingest_entry found)

theorem Coherent.find?_remove_eq_none_iff (coherent : r.Coherent w) :
    (r.remove p).find? uid = none ↔ ¬ r.HeldElsewhere p uid := by
  have differs := remove_differs r p
  refine coherent.find?_eq_none_of_gone (Move.coherent (.remove r p) coherent) rfl
    (fun q other => congrArg Knowledge.entry (differs.known q other)) fun e found => ?_
  rw [← known_entry, known_remove, if_pos rfl] at found
  cases found

theorem Coherent.find?_exclude_eq_none_iff (coherent : r.Coherent w) :
    (r.exclude p).find? uid = none ↔ ¬ r.HeldElsewhere p uid := by
  refine coherent.find?_eq_none_of_gone (coherent.exclude p) rfl (fun q other => ?_) fun e found => ?_
  · exact (OrderedMap.get?_erase _ _ _).trans
      (if_neg fun same => other (Path.compare_eq_iff.mp same))
  · rw [Registry.exclude, OrderedMap.get?_erase, if_pos (Path.compare_eq_iff.mpr rfl)] at found
    cases found

end Registry

/-! ## What a session shows and edits -/

namespace Session

variable {σ : Type} [SourceStore σ] {w : Workshop} {s s' : Session σ} {uid : String}

/-- The registry of a session comes about by the operations of registries alone. -/
theorem Reachable.arises (reached : Reachable w s) : s.registry.Arises w := by
  refine reached.registry_induction (fun config store next => ?_) (fun r store arises => arises.loadAll store)
    (fun r store c arises => arises.applyChange store c) (fun r p e text _ arises => arises.ingest p text)
  simp only [Session.new]
  split
  · exact .exclude (.new _ _) _
  · exact .new _ _

omit [SourceStore σ] in
theorem inspect?_eq_none (l : Language) (find : s.registry.find? uid = none) : s.inspect? l uid = none := by
  simp [inspect?, find]

omit [SourceStore σ] in
theorem inspect?_eq_some (l : Language) {found : FoundElement} {x : Markup}
    (find : s.registry.find? uid = some found) (finds : s.registry.Finds uid found x) :
    s.inspect? l uid = some (found.entry.selection l s.registry.identifierName uid x) := by
  simp [inspect?, find, finds.element, finds.shows.tag, finds.shows.isComponent, finds.shows.lines,
    FileEntry.selection]

/-- An edit that is accepted is one of the file in which the element was found. -/
theorem edit_path {e : Edit} {o : EditOutcome} (accepted : (s.edit w e).value = (.ok o, s')) :
    ∃ found, s.registry.find? e.uid = some found ∧ o.path = found.entry.path := by
  obtain ⟨-, found, patch, m, find, -, -, ⟨-, rfl, -⟩ | committed⟩ := edit_eq_ok w accepted
  · exact ⟨found, find, rfl⟩
  · refine ⟨found, find, ?_⟩
    rcases commit_cases w s found.entry.path m patch with ⟨f, store, -, value⟩ | ⟨store, -, value⟩
    · rw [value] at committed
      cases committed
    · rw [value] at committed
      obtain ⟨outcome, -⟩ := Prod.mk.inj committed
      split at outcome
      · cases outcome
      · obtain rfl := Except.ok.inj outcome
        rfl

end Session

namespace Registry

variable {w : Workshop} {r : Registry} {uid : String} {e : FileEntry} {x : Markup}

/-- **Looking up never dangles, and never answers for the dead.**  Whatever operations have been
carried out, an identifier is found if and only if some element of some entry has it.  What is
found is an entry that is there, the first by path that has the identifier, with a node and an
element of it that belong together; and a session with the registry shows that element then, with
its tag and with all of its properties but the identifier, and otherwise nothing.  Once a file is
removed, is excluded, is no longer readable, or is taken in without the identifier, that is found
no more unless another file has it, too.  The registries of sessions are among those that come
about (`Session.Reachable.arises`). -/
theorem found_iff_held (arises : r.Arises w) (uid : String) :
    ((r.find? uid).isSome = true ↔ ∃ e ∈ r.entries.values, e.Holds r.identifierName uid) ∧
    (∀ found, r.find? uid = some found → ∃ x, r.Finds uid found x ∧
      ∀ (σ : Type) (s : Session σ) (l : Language), s.registry = r →
        s.inspect? l uid = some (found.entry.selection l r.identifierName uid x)) ∧
    (r.find? uid = none → ∀ (σ : Type) (s : Session σ) (l : Language), s.registry = r →
      s.inspect? l uid = none) ∧
    ∀ p : Path,
      ((r.remove p).find? uid = none ↔ ¬ r.HeldElsewhere p uid) ∧
      ((r.exclude p).find? uid = none ↔ ¬ r.HeldElsewhere p uid) ∧
      ∀ text,
        (¬ Readable w.language p text →
          ((r.ingest w p text).value.2.find? uid = none ↔ ¬ r.HeldElsewhere p uid)) ∧
        ((∀ e, (r.ingest w p text).value.1 = .ok e → ¬ e.Holds r.identifierName uid) →
          ((r.ingest w p text).value.2.find? uid = none ↔ ¬ r.HeldElsewhere p uid)) := by
  have coherent := arises.coherent
  refine ⟨?_, ?_, ?_, ?_⟩
  · rw [← not_iff_not, Option.not_isSome_iff_eq_none, coherent.find?_eq_none_iff]
    simp only [not_exists, not_and]
  · intro found find
    obtain ⟨x, finds⟩ := coherent.finds find
    refine ⟨x, finds, ?_⟩
    intro σ s l same
    subst same
    exact Session.inspect?_eq_some l find finds
  · intro none σ s l same
    subst same
    exact Session.inspect?_eq_none l none
  · intro p
    refine ⟨coherent.find?_remove_eq_none_iff, coherent.find?_exclude_eq_none_iff, ?_⟩
    intro text
    constructor
    · intro unreadable
      apply coherent.find?_ingest_eq_none_iff
      intro e made
      exact absurd (readable_of_ingest made) unreadable
    · exact coherent.find?_ingest_eq_none_iff

/-! ## Two files with one identifier -/

open Session (deskWorkshop deskPath deskStore)

def twinPath : Path := ⟨"/p/b.js"⟩

/-- Two scripts that both came with an element `k`. -/
def twins : Registry :=
  ((Registry.new "data-uid" 0).loadAll deskWorkshop
    ((deskStore "<b data-uid='k'/>;").put twinPath "<i data-uid='k'/>;")).value.2

theorem twins_arise : twins.Arises deskWorkshop := .loadAll (.new _ _) _

/-- The elements of the script under a path. -/
def elementsAt (r : Registry) (p : Path) : List (String × Option String) :=
  ((r.entries.get? p).map fun e =>
    e.instrumented.elements.map fun x => (x.tag, x.identifier? r.identifierName)).getD []

theorem exists_of_elementsAt (coherent : r.Coherent w) {p : Path} {tag : String}
    (listed : (tag, some uid) ∈ r.elementsAt p) :
    ∃ e ∈ r.entries.values, p.components = e.path.components ∧ ∃ x ∈ e.instrumented.elements,
      x.tag = tag ∧ x.identifier? r.identifierName = some uid := by
  rw [elementsAt] at listed
  cases found : r.entries.get? p with
  | none =>
      rw [found] at listed
      cases listed
  | some e =>
      rw [found] at listed
      obtain ⟨x, inside, same⟩ := List.mem_map.mp listed
      obtain ⟨tagged, carries⟩ := Prod.mk.inj same
      obtain ⟨live, path, -⟩ := coherent.get?_eq_some found
      exact ⟨e, live, path, x, inside, tagged, carries⟩

theorem found_iff_held_twins : twins.Arises deskWorkshop ∧
    (∃ found x, twins.find? "k" = some found ∧ twins.Finds "k" found x ∧ x.tag = "b" ∧
      ∀ (s : Session MemoryStore) (l : Language), s.registry = twins →
        s.inspect? l "k" = some (found.entry.selection l twins.identifierName "k" x)) ∧
    (twins.remove deskPath).find? "k" ≠ none := by
  have facts : (twins.find? "k").map (·.node.tag) = some "b" ∧
      ("i", some "k") ∈ twins.elementsAt twinPath := by decide +kernel
  obtain ⟨found, find, tag⟩ := Option.map_eq_some_iff.mp facts.1
  obtain ⟨-, finds, -, dies⟩ := found_iff_held twins_arise "k"
  obtain ⟨x, here, shown⟩ := finds found find
  obtain ⟨e, live, path, y, inside, -, carries⟩ := exists_of_elementsAt twins_arise.coherent facts.2
  have elsewhere : twins.HeldElsewhere deskPath "k" := by
    refine ⟨e, live, ?_, y, inside, carries⟩
    rw [← path]
    decide
  exact ⟨twins_arise, ⟨found, x, find, here, here.shows.tag.symm.trans tag, shown MemoryStore⟩,
    fun none => (dies deskPath).1.mp none elsewhere⟩

/-! ## Which file an identifier addresses -/

/-- In the entry that is found only one element has the identifier. -/
theorem Coherent.finds_unique (coherent : r.Coherent w) {found : FoundElement} {y : Markup}
    (finds : r.Finds uid found y) (inside : x ∈ found.entry.instrumented.elements)
    (carries : x.identifier? r.identifierName = some uid) : y = x := by
  obtain ⟨inside', carries'⟩ := finds.carries
  exact (coherent.genuine _ finds.live).unique inside' inside (carries'.trans carries.symm)

/-- What an identifier addresses in an entry is found if and only if that entry is. -/
theorem Coherent.resolves_iff_entry (coherent : r.Coherent w) {found : FoundElement} {y : Markup}
    (find : r.find? uid = some found) (finds : r.Finds uid found y)
    (inside : x ∈ e.instrumented.elements) (carries : x.identifier? r.identifierName = some uid) :
    r.Resolves uid e x ↔ found.entry = e := by
  constructor
  · rintro ⟨found', find', entry, -⟩
    obtain rfl := Option.some.inj (find.symm.trans find')
    exact entry
  · rintro rfl
    obtain rfl := coherent.finds_unique finds inside carries
    exact ⟨found, find, rfl, finds.element, finds.place⟩

/-- The entry that is found is the one that comes before all others that have the identifier. -/
theorem Finds.entry_iff_first {found : FoundElement} {y : Markup} (finds : r.Finds uid found y)
    (live : e ∈ r.entries.values) (holds : e.Holds r.identifierName uid) :
    found.entry = e ↔ ∀ e' ∈ r.entries.values, e'.Holds r.identifierName uid →
      e' = e ∨ compare e.path e'.path = .lt := by
  constructor
  · rintro rfl
    exact finds.first
  · intro first
    rcases first found.entry finds.live ⟨y, finds.carries⟩ with entry | before
    · exact entry
    · rcases finds.first e live holds with entry | behind
      · exact entry.symm
      · -- neither of two entries comes before the other
        rw [Std.OrientedCmp.gt_of_lt before] at behind
        cases behind

/-- **An identifier addresses an element of the first file that has it.**  Whatever operations
have been carried out, let an element of an entry have an identifier.  It is what that resolves
to if and only if no entry before, by path, has an element with the same identifier; and just
then does a session that is asked to show or to edit the identifier come to that file, and show
that element. -/
theorem resolves_iff_first (arises : r.Arises w) (live : e ∈ r.entries.values)
    (inside : x ∈ e.instrumented.elements) (carries : x.identifier? r.identifierName = some uid) :
    (r.Resolves uid e x ↔ ∀ e' ∈ r.entries.values, e'.Holds r.identifierName uid →
      e' = e ∨ compare e.path e'.path = .lt) ∧
    ∀ (σ : Type) [SourceStore σ] (s : Session σ), s.registry = r →
      (∀ l, ∃ shown, s.inspect? l uid = some shown ∧ (shown.path = e.path ↔ r.Resolves uid e x) ∧
        (r.Resolves uid e x → shown = e.selection l r.identifierName uid x)) ∧
      ∀ edit o s', edit.uid = uid → (s.edit w edit).value = (.ok o, s') →
        (o.path = e.path ↔ r.Resolves uid e x) := by
  have coherent := arises.coherent
  have holds : e.Holds r.identifierName uid := ⟨x, inside, carries⟩
  cases find : r.find? uid with
  | none => exact absurd holds (coherent.find?_eq_none_iff.mp find e live)
  | some found =>
      obtain ⟨y, finds⟩ := coherent.finds find
      have resolves := coherent.resolves_iff_entry find finds inside carries
      have byPath : found.entry.path = e.path ↔ found.entry = e :=
        ⟨fun same => coherent.sound.entry_unique finds.live live (congrArg Path.components same),
          congrArg FileEntry.path⟩
      rw [resolves]
      refine ⟨finds.entry_iff_first live holds, ?_⟩
      intro σ _ s same
      subst same
      constructor
      · intro l
        refine ⟨_, Session.inspect?_eq_some l find finds, byPath, ?_⟩
        rintro rfl
        rw [coherent.finds_unique finds inside carries]
      · intro edit o s' asked accepted
        subst asked
        obtain ⟨found', find', path⟩ := Session.edit_path accepted
        obtain rfl := Option.some.inj (find.symm.trans find')
        rw [path, byPath]

theorem resolves_iff_first_twins : twins.Arises deskWorkshop ∧
    ∃ e ∈ twins.entries.values, ∃ x ∈ e.instrumented.elements,
      x.tag = "b" ∧ x.identifier? twins.identifierName = some "k" ∧ twins.Resolves "k" e x := by
  have facts : twins.entries.values.map (·.path.components) = [deskPath.components, twinPath.components] ∧
      ("b", some "k") ∈ twins.elementsAt deskPath := by decide +kernel
  have coherent := twins_arise.coherent
  obtain ⟨e, live, path, x, inside, tag, carries⟩ := exists_of_elementsAt coherent facts.2
  refine ⟨twins_arise, e, live, x, inside, tag, carries,
    (resolves_iff_first twins_arise live inside carries).1.mpr fun e' live' _ => ?_⟩
  have listed : e'.path.components ∈ [deskPath.components, twinPath.components] :=
    facts.1 ▸ List.mem_map_of_mem live'
  rcases List.mem_cons.mp listed with same | other
  · exact Or.inl (coherent.sound.entry_unique live' live (same.trans path))
  · have behind : compare twinPath e'.path = .eq :=
      Path.compare_eq_iff.mpr (List.mem_singleton.mp other).symm
    rw [← Std.TransCmp.congr_right behind, ← Std.TransCmp.congr_left (Path.compare_eq_iff.mpr path)]
    exact Or.inr (by decide)

/-- Refuting pole: the element `i` has the identifier, but that addresses the other script. -/
theorem identifier_shared : twins.Arises deskWorkshop ∧
    ∃ e ∈ twins.entries.values, ∃ x ∈ e.instrumented.elements,
      x.tag = "i" ∧ x.identifier? twins.identifierName = some "k" ∧ ¬ twins.Resolves "k" e x := by
  have facts : (twins.find? "k").map (·.entry.path.components) = some deskPath.components ∧
      ("i", some "k") ∈ twins.elementsAt twinPath := by decide +kernel
  obtain ⟨e, live, path, x, inside, tag, carries⟩ := exists_of_elementsAt twins_arise.coherent facts.2
  refine ⟨twins_arise, e, live, x, inside, tag, carries, ?_⟩
  rintro ⟨found, find, rfl, -⟩
  have first : found.entry.path.components = deskPath.components := by
    rw [find] at facts
    exact Option.some.inj facts.1
  rw [first] at path
  exact absurd path (by decide)

end Registry

end LiveMarkup
