import LiveMarkup.Proofs.Project.Following
import LiveMarkup.Proofs.Project.Versions
import LiveMarkup.Proofs.Store.Memory
import LiveMarkup.Store.Disk
/-
# LiveMarkup.Proofs.Project.Coalescing -- gathered changes come to the same

A set of changes keeps one change of each file: that of its latest kind, in the order of the
paths (`ChangeSet.Gathers`).  Over one store this comes to the same as all of the changes in
the order in which they were told, since only the latest one of a file matters and what it
makes of the file does not hang on what was known (`Action.effect_resembles`); but fewer texts
are taken in, so versions may be lower (`Knowledge.NoLater`).

The set keeps the spelling of a path that was told first.  So a file that is told of in several
spellings may be shown in another one than when changes are followed one by one, and a store
that does not read the spellings alike (`ReadsAlike`) may even answer otherwise.
`coalesced_agrees` says what is the same for a file of one spelling and for a file whose
spellings are read alike.

Poles: a file that is told of twice (`coalesced_agrees_desk`), and one that is told of in two
spellings, in memory (`respelled_shown`) and on a disk (`respelled_lost`).
-/

namespace LiveMarkup

set_option autoImplicit false

open LiveMarkup.Syntax

/-! ## What a set of changes holds -/

namespace ChangeSet

/-- A set holds of every file the kind of its latest change, under a spelling that was told. -/
structure Gathers (set : ChangeSet) (cs : List Change) : Prop where
  ordered : set.kinds.Ordered
  kind : ∀ q, set.kinds.get? q = (Change.latest? q cs).map Change.kind
  spelled : ∀ k ∈ set.kinds.keys, ∃ c ∈ cs, c.path = k

variable {set : ChangeSet} {cs : List Change} {c : Change} {q : Path}

theorem gathers_empty : empty.Gathers [] :=
  ⟨OrderedMap.ordered_empty, fun _ => rfl, fun _ listed => absurd listed List.not_mem_nil⟩

theorem Gathers.record (gathers : set.Gathers cs) (c : Change) : (set.record c).Gathers (cs ++ [c]) where
  ordered := gathers.ordered.insert c.path c.kind
  kind q := by
    rw [Change.latest?_append_singleton, ChangeSet.record, OrderedMap.get?_insert, gathers.kind]
    simp only [Path.compare_eq_iff]
    split <;> rfl
  spelled k listed := by
    rcases OrderedMap.mem_keys_insert listed with rfl | old
    · exact ⟨c, List.mem_append_right _ List.mem_cons_self, rfl⟩
    · obtain ⟨d, told, spelled⟩ := gathers.spelled k old
      exact ⟨d, List.mem_append_left _ told, spelled⟩

theorem Gathers.add (gathers : set.Gathers cs) (ds : List Change) : (set.add ds).Gathers (cs ++ ds) := by
  induction ds generalizing set cs with
  | nil => rwa [List.append_nil]
  | cons d ds ih =>
      rw [List.append_cons]
      exact ih (gathers.record d)

/-- How changes are split into batches does not matter. -/
theorem gathers_batches (batches : List (List Change)) :
    (batches.foldl add empty).Gathers batches.flatten := by
  induction batches using List.reverseRecOn with
  | nil => exact gathers_empty
  | append_singleton batches batch ih =>
      rw [List.foldl_append, List.flatten_append, List.flatten_singleton]
      exact ih.add batch

theorem Gathers.told (gathers : set.Gathers cs) (d : Change) (listed : d ∈ set.changes) :
    ∃ c ∈ cs, c.path = d.path := by
  obtain ⟨e, entry, rfl⟩ := List.mem_map.mp listed
  exact gathers.spelled e.1 (List.mem_map_of_mem entry)

/-- The changes of a set tell of no other files. -/
theorem Gathers.changes_untold (gathers : set.Gathers cs) (untold : Change.latest? q cs = none) :
    Change.latest? q set.changes = none := by
  rw [Change.latest?_eq_none_iff]
  intro c listed same
  obtain ⟨⟨k, v⟩, entry, rfl⟩ := List.mem_map.mp listed
  have found := gathers.ordered.get?_of_mem entry (Path.compare_eq_iff.mpr same)
  rw [gathers.kind, untold] at found
  cases found

/-- The changes of a set tell once of a file that was told of. -/
theorem Gathers.changes_told (gathers : set.Gathers cs) (latest : Change.latest? q cs = some c) :
    ∃ before d after, set.changes = before ++ ⟨c.kind, d.path⟩ :: after ∧ d ∈ cs ∧
      q.components = d.path.components ∧
      Change.latest? q before = none ∧ Change.latest? q after = none := by
  have found : set.kinds.get? q = some c.kind := by rw [gathers.kind, latest]; rfl
  obtain ⟨before, k, after, split, same, early, late⟩ := gathers.ordered.get?_split found
  have listed : k ∈ set.kinds.keys := by
    rw [OrderedMap.keys, split, List.map_append]
    exact List.mem_append_right _ List.mem_cons_self
  obtain ⟨d, told, rfl⟩ := gathers.spelled k listed
  have others : ∀ es : List (Path × ChangeKind), (∀ e ∈ es, compare q e.1 ≠ .eq) →
      Change.latest? q (es.map fun e => ⟨e.2, e.1⟩) = none := fun es apart => by
    rw [Change.latest?_eq_none_iff]
    intro c' listed here
    obtain ⟨e, entry, rfl⟩ := List.mem_map.mp listed
    exact apart e entry (Path.compare_eq_iff.mpr here)
  refine ⟨before.map fun e => ⟨e.2, e.1⟩, d, after.map fun e => ⟨e.2, e.1⟩, ?_, told,
    Path.compare_eq_iff.mp same, others before early, others after late⟩
  rw [changes, split, List.map_append, List.map_cons]

end ChangeSet

/-! ## What is the same of a file -/

namespace Registry

/-- What is shown of a file, but for versions and identifiers: the path, the variant and the source of
its entry, and its diagnostic. -/
def Knowledge.outline (k : Knowledge) : Option (Path × Variant × String) × Option FileDiagnostic :=
  (k.entry.map fun e => (e.path, e.variant, e.source), k.diagnostic)

/-- What is known of a file however its path is spelled. -/
def Knowledge.content (k : Knowledge) :
    Option (List PathStep × Variant × String) × Option (List PathStep × List Diagnostic) :=
  (k.entry.map fun e => (e.path.components, e.variant, e.source),
    k.diagnostic.map fun d => (d.path.components, d.failure.diagnostics))

/-- The versions of the second are at least as high. -/
structure Knowledge.NoLater (k k' : Knowledge) : Prop where
  version : k.version.getD 0 ≤ k'.version.getD 0
  entry : ∀ e e', k.entry = some e → k'.entry = some e' → e.version ≤ e'.version

/-- Two things that are known of a file are of one content, the second at least as high. -/
structure Knowledge.Resembles (k k' : Knowledge) : Prop where
  content : k.content = k'.content
  noLater : k.NoLater k'

theorem Knowledge.Resembles.refl (k : Knowledge) : k.Resembles k :=
  ⟨rfl, Nat.le_refl _, fun e e' found found' => by
    cases found.symm.trans found'
    exact Nat.le_refl _⟩

/-- Without an entry there is only the version that is remembered. -/
theorem Knowledge.noLater_of_absent {k k' : Knowledge} (absent : k.entry = none)
    (version : k.version.getD 0 ≤ k'.version.getD 0) : k.NoLater k' :=
  ⟨version, fun e e' found => by cases absent.symm.trans found⟩

/-! ## What an action makes of its file -/

/-- Two actions that do the same to a file, under two spellings of its path. -/
inductive Action.Alike : Action → Action → Prop where
  | ingest {p q : Path} (same : p.components = q.components) (text : String) :
      Alike (.ingest p text) (.ingest q text)
  | remove {p q : Path} (same : p.components = q.components) : Alike (.remove p) (.remove q)
  | fail {p q : Path} (same : p.components = q.components) (f f' : StoreFailure) :
      Alike (.fail p (.store f)) (.fail q (.store f'))

/-- An action takes in no text but that of a source. -/
def Action.OfSource : Action → Prop
  | .ingest p _ => p.isSource = true
  | _ => True

variable {w : Workshop} {r r' : Registry} {p q : Path} {a b : Action} {k k' : Knowledge}

/-- What is wrong with a text does not hang on the spelling of its path. -/
theorem read_malformed_congr {l : Language} (same : p.components = q.components) {text shown : String}
    {ds : List Diagnostic} (read : (Document.read l p text).value = .error (.malformed shown ds)) :
    ∃ shown', (Document.read l q text).value = .error (.malformed shown' ds) := by
  unfold Document.read at read ⊢
  rw [← Variant.ofPath?_congr same]
  split at read
  case h_1 => cases read
  case h_2 v variant =>
    simp only at read ⊢
    split at read
    case h_1 => cases read
    case h_2 t outcome =>
      cases read
      exact ⟨_, rfl⟩

/-- What is made of a file does not hang on what was known of it, its version apart. -/
theorem Action.effect_resembles (alike : a.Alike b) (source : a.OfSource)
    (earlier : r.version a.path ≤ r'.version b.path) (lower : k.version.getD 0 ≤ k'.version.getD 0) :
    (a.effect w r k).Resembles (b.effect w r' k') := by
  cases alike with
  | remove same => exact ⟨rfl, Knowledge.noLater_of_absent rfl lower⟩
  | fail same f f' =>
      refine ⟨?_, Knowledge.noLater_of_absent rfl lower⟩
      simp only [Action.effect, Knowledge.content, Option.map_none, Option.map_some, same,
        FileFailure.diagnostics]
  | @ingest p q same text =>
      simp only [Action.effect]
      cases read : (Document.read w.language p text).value with
      | ok d =>
          have path := (Document.read_eq_ok read).1
          rw [Document.read_congr read same.symm]
          have versions : (makeEntry w r d text).1.version ≤
              (makeEntry w r' ⟨q, d.variant, d.content⟩ text).1.version := by
            show r.version d.path + 1 ≤ r'.version q + 1
            rw [path]
            exact Nat.succ_le_succ earlier
          refine ⟨?_, versions, fun e e' made made' => ?_⟩
          · show (some (d.path.components, d.variant, text), none) = (some (q.components, d.variant, text), none)
            rw [path, same]
          · obtain rfl := Option.some.inj made
            obtain rfl := Option.some.inj made'
            exact versions
      | error f =>
          cases f with
          | unsupported shown => exact absurd read (Document.read_ne_unsupported source)
          | malformed shown ds =>
              obtain ⟨shown', read'⟩ := read_malformed_congr same read
              rw [read']
              refine ⟨?_, Knowledge.noLater_of_absent rfl lower⟩
              simp only [Knowledge.content, Option.map_none, Option.map_some, same, FileFailure.diagnostics,
                ReadFailure.diagnostics]

/-- Nor does what is shown of it. -/
theorem Action.effect_outline (alike : a.Alike a) (source : a.OfSource) :
    (a.effect w r k).outline = (a.effect w r' k').outline := by
  cases alike with
  | remove | fail => rfl
  | ingest same text =>
      simp only [Action.effect]
      split
      -- field by field, since the identified trees of the two entries are not the same
      · simp only [Knowledge.outline, makeEntry, Option.map_some]
      · rename_i shown unsupported
        exact absurd unsupported (Document.read_ne_unsupported source)
      · rfl

/-! ## Stores that read alike -/

section Store

variable {σ : Type} [SourceStore σ] {store : σ} {c d : Change} {cs : List Change} {set : ChangeSet}

/-- A store answers alike for two spellings of a path. -/
structure ReadsAlike (store : σ) (p q : Path) : Prop where
  ignores : SourceStore.ignores store p = SourceStore.ignores store q
  text : ∀ text, SourceStore.read store p = .ok text ↔ SourceStore.read store q = .ok text
  missing : (∃ shown, SourceStore.read store p = .error (.notFound shown)) ↔
    ∃ shown, SourceStore.read store q = .error (.notFound shown)

theorem ReadsAlike.refl (store : σ) (p : Path) : ReadsAlike store p p := ⟨rfl, fun _ => .rfl, .rfl⟩

/-- A store in memory reads every two spellings alike. -/
theorem readsAlike_memory (s : MemoryStore) (same : p.components = q.components) : ReadsAlike s p q := by
  have held : s.get? p = s.get? q := MemoryStore.get?_congr same
  cases here : s.get? q with
  | some text =>
      have first := MemoryStore.read_eq_ok (held.trans here)
      have second := MemoryStore.read_eq_ok here
      exact ⟨rfl, fun _ => by rw [first, second], by simp [first, second]⟩
  | none =>
      have first := MemoryStore.read_eq_notFound (held.trans here)
      have second := MemoryStore.read_eq_notFound here
      exact ⟨rfl, fun _ => by simp [first, second], by simp [first, second]⟩

/-- Two spellings that are read alike are passed over alike. -/
theorem passes_alike (same : p.components = q.components) (alike : ReadsAlike store p q) :
    r.passes store p = r.passes store q := by
  rw [passes, passes, tracks_congr same, alike.ignores]

theorem passes_of_response?_eq_none (quiet : r.response? store c = none) : r.passes store c.path = true := by
  unfold response? at quiet
  rcases visit?_cases r store c.path with ⟨passed, -⟩ | ⟨-, ⟨text, -, is⟩ | ⟨shown, -, is⟩ | ⟨f, -, -, is⟩⟩
  · exact passed
  all_goals
    rw [is] at quiet
    split at quiet <;> cases quiet

/-- A visit takes in a text only of a file that is read. -/
theorem visit?_ofSource (visit : r.visit? store p = some a) : a.OfSource := by
  rcases visit?_cases r store p with ⟨-, is⟩ | ⟨looks, ⟨text, -, is⟩ | ⟨shown, -, is⟩ | ⟨f, -, -, is⟩⟩ <;>
    cases is.symm.trans visit
  · rw [passes, Bool.or_eq_false_iff, Bool.not_eq_false'] at looks
    exact source_of_tracks looks.1
  · trivial
  · trivial

theorem response?_ofSource (response : r.response? store c = some a) : a.OfSource := by
  unfold response? at response
  split at response
  · exact visit?_ofSource response
  · exact visit?_ofSource response
  · cases response
    trivial

/-- A file is visited alike under two spellings that are read alike. -/
theorem visit?_alike (tracks : r'.tracks = r.tracks) (same : p.components = q.components)
    (alike : ReadsAlike store p q) (visit : r'.visit? store q = some b) :
    ∃ a, r.visit? store p = some a ∧ a.Alike b := by
  have looks : r.passes store p = false := by
    rw [passes_alike same alike, ← passes_congr (congrFun tracks q)]
    exact (visit?_path visit).2
  rw [visit?, if_neg (Bool.eq_false_iff.mp looks)]
  rcases visit?_cases r' store q with ⟨-, is⟩ | ⟨-, ⟨text, read, is⟩ | ⟨shown, read, is⟩ | ⟨f, read, there, is⟩⟩ <;>
    cases is.symm.trans visit
  · rw [(alike.text text).mpr read]
    exact ⟨_, rfl, .ingest same text⟩
  · obtain ⟨shown', read'⟩ := alike.missing.mpr ⟨shown, read⟩
    rw [read']
    exact ⟨_, rfl, .remove same⟩
  · split
    case h_1 text read' => cases ((alike.text text).mp read').symm.trans read
    case h_2 shown read' =>
      obtain ⟨shown', missing⟩ := alike.missing.mp ⟨shown, read'⟩
      cases missing.symm.trans read
      exact absurd rfl (there shown')
    case h_3 f' read' _ => exact ⟨_, rfl, .fail same f' f⟩

/-- A change is responded to alike under two spellings that are read alike. -/
theorem response?_alike {kind : ChangeKind} (tracks : r'.tracks = r.tracks) (same : p.components = q.components)
    (alike : ReadsAlike store p q) (response : r'.response? store ⟨kind, q⟩ = some b) :
    ∃ a, r.response? store ⟨kind, p⟩ = some a ∧ a.Alike b := by
  cases kind with
  | created | changed => exact visit?_alike tracks same alike response
  | deleted =>
      cases response
      exact ⟨_, rfl, .remove same⟩

/-! ## Gathered changes -/

/-- Nothing is known of the files that are passed over. -/
def Clean (r : Registry) (store : σ) : Prop := ∀ p, r.passes store p = true → (r.known p).Blank

/-- The store reads the spellings alike under which a file is told of. -/
def SpelledAlike (store : σ) (q : Path) (cs : List Change) : Prop :=
  ∀ c ∈ cs, ∀ d ∈ cs, q.components = c.path.components → q.components = d.path.components →
    ReadsAlike store c.path d.path

/-- A file is told of under one spelling. -/
def SpelledOnce (q : Path) (cs : List Change) : Prop :=
  ∀ c ∈ cs, ∀ d ∈ cs, q.components = c.path.components → q.components = d.path.components → c.path = d.path

theorem SpelledOnce.alike (once : SpelledOnce q cs) : SpelledAlike store q cs := by
  intro c told d told' here there
  rw [once c told d told' here there]
  exact .refl store d.path

/-- Changes do nothing to a file when one of them is passed over and all are read alike. -/
theorem known_of_passed (clean : r.Clean store) (alike : SpelledAlike store q cs) (told : c ∈ cs)
    (here : q.components = c.path.components) (passed : r.passes store c.path = true) {ds : List Change}
    (among : ∀ d ∈ ds, ∃ c ∈ cs, c.path = d.path) : (r.followAll w store ds).known q = r.known q := by
  refine followAll_passed (fun d listed there => ?_) ?_
  · obtain ⟨d', told', spelled⟩ := among d listed
    rw [← spelled] at there ⊢
    rw [passes_alike (there.symm.trans here) (alike d' told' c told there here), passed]
  · rw [known_congr here]
    exact clean c.path passed

/-- Of a file that was told of last by `c`, both ways end with a change of that kind, under spellings
that were told. -/
theorem gathered_told (w : Workshop) (r : Registry) (store : σ) (gathers : set.Gathers cs)
    (latest : Change.latest? q cs = some c) :
    ∃ d ∈ cs, q.components = d.path.components ∧ ∃ early late : Registry,
      early.tracks = r.tracks ∧ late.tracks = r.tracks ∧ early.version q ≤ late.version q ∧
      (r.followAll w store set.changes).known q = (early.follow w store ⟨c.kind, d.path⟩).known q ∧
      (r.followAll w store cs).known q = (late.follow w store c).known q := by
  obtain ⟨before, d, after, gathered, told, there, untold, last⟩ := gathers.changes_told latest
  obtain ⟨-, before', after', split, last'⟩ := Change.latest?_split latest
  refine ⟨d, told, there, r.followAll w store before, r.followAll w store before',
    funext (followAll_tracks before), funext (followAll_tracks before'), ?_, ?_, ?_⟩
  · rw [version_eq_known, followAll_untouched untold, ← version_eq_known]
    exact version_le_followAll store r before'
  · rw [gathered, followAll_split last]
  · rw [split, followAll_split last']

/-- Both ways leave a file as it was, or do alike to it, and the same when it has one spelling. -/
theorem gathered_cases (w : Workshop) (clean : r.Clean store) (gathers : set.Gathers cs)
    (alike : SpelledAlike store q cs) :
    ((r.followAll w store set.changes).known q = r.known q ∧ (r.followAll w store cs).known q = r.known q) ∨
    ∃ (a b : Action) (early late : Registry), a.Alike b ∧ (SpelledOnce q cs → a = b) ∧ a.OfSource ∧
      early.version a.path ≤ late.version b.path ∧ early.version q ≤ late.version q ∧
      (r.followAll w store set.changes).known q = a.effect w early (early.known q) ∧
      (r.followAll w store cs).known q = b.effect w late (late.known q) := by
  cases latest : Change.latest? q cs with
  | none => exact .inl ⟨followAll_untouched (gathers.changes_untold latest), followAll_untouched latest⟩
  | some c =>
      have told := Change.mem_of_latest? latest
      have here := (Change.latest?_split latest).1
      obtain ⟨d, told', there, early, late, tracks, tracks', version, gathered, followed⟩ :=
        gathered_told w r store gathers latest
      have same : d.path.components = c.path.components := there.symm.trans here
      cases response : late.response? store c with
      | none =>
          have passed : r.passes store c.path = true := by
            rw [← passes_congr (congrFun tracks' c.path)]
            exact passes_of_response?_eq_none response
          exact .inl ⟨known_of_passed clean alike told here passed gathers.told,
            known_of_passed clean alike told here passed fun d listed => ⟨d, listed, rfl⟩⟩
      | some b =>
          obtain ⟨a, response', likewise⟩ := response?_alike (r := early) (tracks'.trans tracks.symm) same
            (alike d told' c told there here) response
          rw [known_follow, if_pos there, response'] at gathered
          rw [known_follow, if_pos here, response] at followed
          refine .inr ⟨a, b, early, late, likewise, fun once => ?_, response?_ofSource response', ?_, version,
            gathered, followed⟩
          · rw [once d told' c told there here,
              response?_congr (congrFun (tracks.trans tracks'.symm) c.path)] at response'
            exact Option.some.inj (response'.symm.trans response)
          · rw [response?_path response, response?_path response', ← version_congr there,
              ← version_congr here]
            exact version

/-- What gathered changes make of a file resembles what the changes make of it one by one. -/
theorem gathered_resembles (w : Workshop) (clean : r.Clean store) (gathers : set.Gathers cs)
    (alike : SpelledAlike store q cs) :
    ((r.followAll w store set.changes).known q).Resembles ((r.followAll w store cs).known q) := by
  rcases gathered_cases w clean gathers alike with
    ⟨gathered, followed⟩ | ⟨a, b, early, late, likewise, -, source, earlier, version, gathered, followed⟩
  · rw [gathered, followed]
    exact .refl _
  · rw [gathered, followed]
    exact Action.effect_resembles likewise source earlier version

/-- Under one spelling all that is shown of a file is the same. -/
theorem gathered_outline (w : Workshop) (clean : r.Clean store) (gathers : set.Gathers cs)
    (once : SpelledOnce q cs) :
    ((r.followAll w store set.changes).known q).outline = ((r.followAll w store cs).known q).outline := by
  rcases gathered_cases w clean gathers once.alike with
    ⟨gathered, followed⟩ | ⟨a, b, early, late, likewise, equal, source, -, -, gathered, followed⟩
  · rw [gathered, followed]
  · obtain rfl := equal once
    rw [gathered, followed]
    exact Action.effect_outline likewise source

/-- **Gathered changes come to the same.**  Let nothing be known of the files that are passed over,
because they are not read or because the store ignores them.  Follow the changes of the set that
gathers batches of changes, or follow all the changes of the batches one by one in the order in which
they were told, over the same store.  A file that is told of under one spelling is then shown the
same: the path, the variant and the source of its entry, if it has one, and its diagnostic.  Of
a file whose spellings the store reads alike, whether there is an entry, of which variant and of
which source, and whether there is a diagnostic and what it points at are the same.  Of both
the versions are at least as high when the changes are followed one by one. -/
theorem coalesced_agrees (w : Workshop) (clean : r.Clean store) (batches : List (List Change)) (q : Path) :
    let gathered := (r.followAll w store (batches.foldl ChangeSet.add .empty).changes).known q
    let followed := (r.followAll w store batches.flatten).known q
    (SpelledOnce q batches.flatten → gathered.outline = followed.outline ∧ gathered.NoLater followed) ∧
    (SpelledAlike store q batches.flatten → gathered.content = followed.content ∧ gathered.NoLater followed) := by
  intro gathered followed
  have gathers := ChangeSet.gathers_batches batches
  refine ⟨fun once => ⟨gathered_outline w clean gathers once, ?_⟩, fun alike => ?_⟩
  · exact (gathered_resembles w clean gathers once.alike).noLater
  · have resembles := gathered_resembles w clean gathers alike
    exact ⟨resembles.content, resembles.noLater⟩

/-- In memory the spelling of a path makes no difference to what is read. -/
theorem gathered_memory (w : Workshop) {s : MemoryStore} (clean : r.Clean s) (batches : List (List Change)) (q : Path) :
    ((r.followAll w s (batches.foldl ChangeSet.add .empty).changes).known q).Resembles
      ((r.followAll w s batches.flatten).known q) :=
  gathered_resembles w clean (ChangeSet.gathers_batches batches)
    fun _ _ _ _ here there => readsAlike_memory s (here.symm.trans there)

end Store

/-! ## Poles -/

open Session (deskWorkshop deskPath deskStore)

theorem clean_new (identifierName : String) (next : Nat) {σ : Type} [SourceStore σ] (store : σ) :
    (Registry.new identifierName next).Clean store := fun _ _ => ⟨rfl, rfl⟩

/-- What is known of `/p/a.js` when a new registry has followed changes. -/
def heard {σ : Type} [SourceStore σ] (store : σ) (cs : List Change) : Knowledge :=
  ((Registry.new "data-uid" 0).followAll deskWorkshop store cs).known deskPath

/-- A file that is told of twice is taken in once, and shown the same. -/
theorem coalesced_agrees_desk :
    let batches : List (List Change) := [[⟨.created, deskPath⟩], [⟨.changed, deskPath⟩]]
    let gathered := heard (deskStore "<b/>;") (batches.foldl ChangeSet.add .empty).changes
    let followed := heard (deskStore "<b/>;") batches.flatten
    gathered.outline = followed.outline ∧ gathered.NoLater followed ∧
    gathered.version = some 1 ∧ followed.version = some 2 := by
  intro batches gathered followed
  have once : SpelledOnce deskPath batches.flatten := by
    intro c told d told' _ _
    simp only [batches, List.flatten_cons, List.flatten_nil, List.append_nil, List.cons_append,
      List.nil_append, List.mem_cons, List.not_mem_nil, or_false] at told told'
    rcases told with rfl | rfl <;> rcases told' with rfl | rfl <;> rfl
  obtain ⟨outline, noLater⟩ :=
    (coalesced_agrees deskWorkshop (clean_new "data-uid" 0 (deskStore "<b/>;")) batches deskPath).1 once
  exact ⟨outline, noLater, by decide +kernel⟩

/-- A file that cannot be read is told of in two spellings: the diagnostic names the first of them
when the changes are gathered, and the last of them when they are followed one by one. -/
theorem respelled_shown :
    let batches : List (List Change) := [[⟨.changed, ⟨"/p/./a.js"⟩⟩], [⟨.changed, deskPath⟩]]
    let gathered := heard (deskStore "<b>;") (batches.foldl ChangeSet.add .empty).changes
    let followed := heard (deskStore "<b>;") batches.flatten
    (Registry.new "data-uid" 0).Clean (deskStore "<b>;") ∧
    gathered.diagnostic.map (·.path.text) = some "/p/./a.js" ∧
    followed.diagnostic.map (·.path.text) = some "/p/a.js" ∧
    gathered.diagnostic.map (·.failure.message) ≠ followed.diagnostic.map (·.failure.message) :=
  ⟨clean_new "data-uid" 0 (deskStore "<b>;"), by decide +kernel⟩

/-- A disk with one file. -/
def deskDisk : DiskStore :=
  ⟨⟨.directory [("p", .directory [("a.js", .file (.text "<b/>;"))])], []⟩, ⟨"/p"⟩, []⟩

/-- A disk does not read a path with a slash behind it as it reads the file: when that spelling comes
first, the gathered changes lose the entry that is there when they are followed one by one. -/
theorem respelled_lost :
    let batches : List (List Change) := [[⟨.changed, ⟨"/p/a.js/"⟩⟩, ⟨.changed, deskPath⟩]]
    (heard deskDisk (batches.foldl ChangeSet.add .empty).changes).entry.isNone = true ∧
    (heard deskDisk batches.flatten).entry.isSome = true := by
  decide +kernel

end Registry

end LiveMarkup
