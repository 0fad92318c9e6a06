import LiveMarkup.Proofs.Project.Round
import Mathlib.Data.List.Induction
/-
# LiveMarkup.Proofs.Project.Chronicle -- a session in memory among others who write

Others put files into the store and delete them; the session edits, follows rounds of
changes, and reads everything anew.  A chronicle keeps, beside the session, what has come
to pass.  It only watches: nothing in it is used by the session.

The others are well-behaved (`Allowed`): every file that they touched is noticed in the
next round, as deleted when it is gone and as created or changed when it is there.  Then
every round leaves everything current unless it is mistaken about a file, in one of three
ways (`Mistaken`, `current_iff_not_mistaken`).
-/

namespace LiveMarkup

set_option autoImplicit false

open LiveMarkup.Syntax

/-- What comes to pass. -/
inductive Deed where
  /-- Somebody else writes a file. -/
  | put (path : Path) (text : String)
  /-- Somebody else deletes a file. -/
  | delete (path : Path)
  | edit (e : Edit)
  /-- A round of work on changes that were noticed. -/
  | round (noticed : List Change)
  /-- Every file is read anew. -/
  | reload

/-- A session and what has come to pass. -/
structure Chronicle where
  session : Session MemoryStore
  /-- The last edit of each path that went well. -/
  own : OrderedMap Path OwnWrite
  /-- The paths that others have touched since the last round. -/
  touched : List Path
  /-- The paths whose last edit, since the last round, went wrong: the text with
  identifiers could not be read back, or the text that was written cannot be read. -/
  spoiled : List Path
  /-- The paths whose entry need not be that of the last edit: since then it went wrong, a
  creation or a deletion was noticed, or every file was read. -/
  crossed : List Path

namespace Chronicle

variable (w : Workshop)

/-- A session that has read a store. -/
def opening (config : Config) (store : MemoryStore) (next : Nat) : Chronicle :=
  ⟨((Session.new config store next).load w).value.2, .empty, [], [], []⟩

/-- The last edit of a path as the store and the registry have it. -/
def ownWrite? (s : Session MemoryStore) (path : Path) : Option OwnWrite := do
  return ⟨← s.store.get? path, (← s.registry.entries.get? path).source⟩

/-- The changes of a round. -/
def changeSet (noticed : List Change) : ChangeSet := ChangeSet.empty.add noticed

def spoil (h : Chronicle) (path : Path) : Chronicle :=
  { h with spoiled := path :: h.spoiled, crossed := path :: h.crossed }

/-- Note what an edit did. -/
def noteEdit (l : Language) (h : Chronicle) (e : Edit) :
    Except SessionFailure EditOutcome × Session MemoryStore → Chronicle
  | (.ok o, session) =>
      if o.patch.action = .unchanged then { h with session }
      else
        match ownWrite? session o.path with
        | none => { h with session }
        | some own =>
            let noted := { h with session, own := h.own.insert o.path own }
            if Readable l o.path own.written then
              { noted with crossed := h.crossed.filter (· != o.path) }
            else noted.spoil o.path
  | (.error (.unreadable _), session) =>
      match h.session.registry.find? e.uid with
      | none => { h with session }
      | some found => { h with session }.spoil found.entry.path
  | (.error _, session) => { h with session }

def step (h : Chronicle) : Deed → Chronicle
  | .put path text =>
      { h with
        session := { h.session with store := h.session.store.put path text }
        touched := path :: h.touched }
  | .delete path =>
      { h with
        session := { h.session with store := h.session.store.delete path }
        touched := path :: h.touched }
  | .edit e => h.noteEdit w.language e (h.session.edit w e).value
  | .round noticed =>
      { h with
        session := (h.session.runCycle w (changeSet noticed)).value.2
        touched := []
        spoiled := []
        crossed :=
          ((changeSet noticed).changes.filter (·.kind ≠ .changed)).map (·.path) ++ h.crossed }
  | .reload =>
      { h with
        session := (h.session.load w).value.2
        spoiled := []
        crossed := h.session.written.keys ++ h.crossed }

def run (h : Chronicle) (deeds : List Deed) : Chronicle := deeds.foldl (step w) h

/-- What others do, and what is noticed of it. -/
def Allows (h : Chronicle) : Deed → Prop
  | .put path _ | .delete path => h.session.registry.tracks path = true
  | .round noticed => ∀ p ∈ h.touched, ∃ kind ∈ (changeSet noticed).kinds.get? p,
      (kind = .deleted ↔ h.session.store.get? p = none)
  | .edit _ | .reload => True

instance (h : Chronicle) (d : Deed) : Decidable (h.Allows d) :=
  match d with
  | .put path _ | .delete path => inferInstanceAs (Decidable (h.session.registry.tracks path = true))
  | .round noticed => inferInstanceAs (Decidable (∀ p ∈ h.touched,
      ∃ kind ∈ (changeSet noticed).kinds.get? p, (kind = .deleted ↔ h.session.store.get? p = none)))
  | .edit _ | .reload => isTrue trivial

/-- Others have been well-behaved all the time. -/
def Allowed (h : Chronicle) (deeds : List Deed) : Prop :=
  ∀ before deed after, deeds = before ++ deed :: after → (h.run w before).Allows deed

/-- Is what is known of a path current? -/
def Current (l : Language) (h : Chronicle) (p : Path) : Prop :=
  (h.session.registry.known p).Current l p (h.session.store.get? p) (h.own.get? p)

/-- The ways in which a round can be mistaken about a file. -/
inductive Mistaken (l : Language) (h : Chronicle) (noticed : List Change) (p : Path) : Prop
  /-- A file that is there is taken for deleted. -/
  | deletion (notice : (changeSet noticed).kinds.get? p = some .deleted)
      (held : (h.session.store.get? p).isSome = true)
  /-- A change is taken for the notice of an own write, but the entry is not that of the
  edit any more. -/
  | echo (notice : (changeSet noticed).kinds.get? p = some .changed)
      (skipped : (h.session.takeEcho ⟨.changed, p⟩).1 = true)
      (crossed : h.crossed.contains p = true) (outdated : ¬ h.Current l p)
  /-- An edit went wrong, and nobody has touched the file since. -/
  | silence (notice : (changeSet noticed).kinds.get? p = none)
      (spoiled : h.spoiled.contains p = true) (outdated : ¬ h.Current l p)

/-- Does something hold of every round, at the time when it begins? -/
def EveryRound (h : Chronicle) (deeds : List Deed) (holds : Chronicle → List Change → Prop) : Prop :=
  ∀ before noticed after, deeds = before ++ .round noticed :: after → holds (h.run w before) noticed

variable {w} {h h' : Chronicle} {p q : Path}

/-! ## Rules -/

/-- The registry is sound, and the file of the component map is not read. -/
structure Founded (h : Chronicle) : Prop where
  sound : h.session.registry.Sound
  apart : h.session.Apart

theorem noteEdit_session (l : Language) (h : Chronicle) (e : Edit)
    (done : Except SessionFailure EditOutcome × Session MemoryStore) :
    (h.noteEdit l e done).session = done.2 := by
  obtain ⟨result, session⟩ := done
  cases result with
  | ok o =>
      simp only [noteEdit]
      split
      · rfl
      · split
        · rfl
        · split <;> rfl
  | error f =>
      cases f with
      | unreadable g =>
          simp only [noteEdit]
          split <;> rfl
      | _ => rfl

theorem step_moves (h : Chronicle) (d : Deed) :
    Registry.Moves w h.session.registry (h.step w d).session.registry := by
  cases d with
  | put path text => exact .refl
  | delete path => exact .refl
  | edit e =>
      simp only [step, noteEdit_session]
      exact Session.edit_moves w h.session e
  | round noticed => exact Session.runCycle_moves w h.session _
  | reload => exact Session.load_moves w h.session

theorem step_artifactPath (h : Chronicle) (d : Deed) :
    (h.step w d).session.artifactPath = h.session.artifactPath := by
  cases d with
  | put path text => rfl
  | delete path => rfl
  | edit e =>
      simp only [step, noteEdit_session]
      exact Session.edit_artifactPath w h.session e
  | round noticed => exact Session.runCycle_artifactPath w h.session _
  | reload => exact Session.load_artifactPath w h.session

theorem Founded.step (founded : h.Founded) (d : Deed) : (h.step w d).Founded :=
  ⟨(step_moves h d).sound w founded.sound, founded.apart.moves (step_moves h d) (step_artifactPath h d)⟩

theorem Founded.run (founded : h.Founded) (deeds : List Deed) : (h.run w deeds).Founded := by
  induction deeds generalizing h with
  | nil => exact founded
  | cons d deeds ih => exact ih (founded.step d)

theorem founded_opening (config : Config) (store : MemoryStore) (next : Nat) :
    (opening w config store next).Founded := by
  have moves := Session.load_moves w (Session.new config store next)
  exact ⟨moves.sound w (Session.new_sound config store next),
    (Session.new_apart config store next).moves moves (Session.load_artifactPath w _)⟩

theorem changeSet_ordered (noticed : List Change) : (changeSet noticed).kinds.Ordered := by
  have each : ∀ set : ChangeSet, set.kinds.Ordered → (set.add noticed).kinds.Ordered := by
    induction noticed with
    | nil => exact fun set ordered => ordered
    | cons c noticed ih => exact fun set ordered => ih _ (ordered.insert c.path c.kind)
  exact each .empty OrderedMap.ordered_empty

/-! ## Coherence -/

/-- What is known of a path, but for what the next round has to find out.  A text that is
remembered for it is that of the last edit, and so is the entry, unless this has been
crossed; and what is known is current unless others have touched the file or the edit went
wrong. -/
structure Coherent (l : Language) (h : Chronicle) (p : Path) : Prop where
  own : ∀ text, h.session.written.get? p = some text → h.crossed.contains p = false →
    Readable l p text ∧ ∃ e, h.session.registry.entries.get? p = some e ∧
      h.own.get? p = some ⟨text, e.source⟩
  settled : h.touched.contains p = false → h.spoiled.contains p = false → h.Current l p

/-- Nothing that has come to pass is about a path. -/
structure Still (p : Path) (h h' : Chronicle) : Prop where
  session : h.session.Still p h'.session
  own : h'.own.get? p = h.own.get? p
  touched : h'.touched.contains p = h.touched.contains p
  spoiled : h'.spoiled.contains p = h.spoiled.contains p
  crossed : h'.crossed.contains p = h.crossed.contains p

theorem current_congr {l : Language} (session : h.session.Still p h'.session)
    (own : h'.own.get? p = h.own.get? p) : h'.Current l p ↔ h.Current l p := by
  simp only [Current, session.known, session.held, own]

theorem Still.coherent {l : Language} (still : Still p h h') (coherent : h.Coherent l p) :
    h'.Coherent l p := by
  constructor
  · intro text remembered uncrossed
    rw [still.session.written] at remembered
    rw [still.crossed] at uncrossed
    obtain ⟨readable, e, entry, own⟩ := coherent.own text remembered uncrossed
    refine ⟨readable, e, ?_, still.own.trans own⟩
    rw [← Registry.known_entry, still.session.known]
    exact entry
  · intro untouched unspoiled
    rw [still.touched] at untouched
    rw [still.spoiled] at unspoiled
    exact (current_congr still.session still.own).mpr (coherent.settled untouched unspoiled)

/-! ## What others do -/

theorem Coherent.touch {l : Language} (coherent : h.Coherent l p) {store : MemoryStore}
    (held : p.components ≠ q.components → store.get? p = h.session.store.get? p) :
    Coherent l { h with session := { h.session with store }, touched := q :: h.touched } p := by
  by_cases same : p.components = q.components
  · refine ⟨coherent.own, fun untouched => ?_⟩
    rw [Path.contains_cons_self same] at untouched
    cases untouched
  · have still : Still p h { h with session := { h.session with store }, touched := q :: h.touched } :=
      ⟨⟨rfl, rfl, rfl, held same⟩, rfl, Path.contains_cons same, rfl, rfl⟩
    exact still.coherent coherent

/-! ## Edits -/

/-- An edit that went wrong says nothing about its file any more. -/
theorem spoil_coherent {l : Language} (same : p.components = q.components) :
    (h.spoil q).Coherent l p := by
  constructor
  · intro text remembered uncrossed
    rw [show (h.spoil q).crossed.contains p = true from Path.contains_cons_self same] at uncrossed
    cases uncrossed
  · intro untouched unspoiled
    rw [show (h.spoil q).spoiled.contains p = true from Path.contains_cons_self same] at unspoiled
    cases unspoiled

/-- An edit that went well leaves its file current. -/
theorem noteEdit_coherent {l : Language} {e : Edit} {o : EditOutcome} {s : Session MemoryStore}
    {text : String} {entry : FileEntry} (changed : o.patch.action ≠ .unchanged)
    (remembered : s.written.get? o.path = some text) (held : s.store.get? o.path = some text)
    (known : s.registry.entries.get? o.path = some entry) (same : p.components = o.path.components) :
    (h.noteEdit l e (.ok o, s)).Coherent l p := by
  have key : compare p o.path = .eq := Path.compare_eq_iff.mpr same
  have own : ownWrite? s o.path = some ⟨text, entry.source⟩ := by
    simp [ownWrite?, held, known]
  simp only [noteEdit, if_neg changed, own]
  split
  · rename_i readable
    have readable : Readable l p text := (readable_congr same text).mpr readable
    have noted : (h.own.insert o.path ⟨text, entry.source⟩).get? p = some ⟨text, entry.source⟩ := by
      rw [OrderedMap.get?_insert, if_pos key]
    have entryHere : s.registry.entries.get? p = some entry := (OrderedMap.get?_congr key _).trans known
    have heldHere : s.store.get? p = some text := (MemoryStore.get?_congr same).trans held
    constructor
    · intro text' remembered' _
      have rememberedHere : s.written.get? p = some text := (OrderedMap.get?_congr key _).trans remembered
      obtain rfl : text = text' := Option.some.inj (rememberedHere.symm.trans remembered')
      exact ⟨readable, entry, entryHere, noted⟩
    · intro _ _
      exact Registry.Knowledge.current_of_held heldHere (fun _ => ⟨entry, entryHere, Or.inr noted⟩)
        fun unreadable => absurd readable unreadable
  · exact spoil_coherent same

/-- An edit says nothing about other files. -/
theorem noteEdit_still {l : Language} {e : Edit} {o : EditOutcome} {s : Session MemoryStore}
    (session : h.session.Still p s) (other : p.components ≠ o.path.components) :
    Still p h (h.noteEdit l e (.ok o, s)) := by
  have apart : compare p o.path ≠ .eq := fun equal => other (Path.compare_eq_iff.mp equal)
  simp only [noteEdit]
  split
  · exact ⟨session, rfl, rfl, rfl, rfl⟩
  · split
    · exact ⟨session, rfl, rfl, rfl, rfl⟩
    · have inserted : ∀ own : OwnWrite, (h.own.insert o.path own).get? p = h.own.get? p := by
        intro own
        rw [OrderedMap.get?_insert, if_neg apart]
      split
      · exact ⟨session, inserted _, rfl, rfl, Path.contains_filter other⟩
      · exact ⟨session, inserted _, rfl, Path.contains_cons other, Path.contains_cons other⟩

theorem edit_coherent (founded : h.Founded) (e : Edit) (coherent : h.Coherent w.language p) :
    (h.step w (.edit e)).Coherent w.language p := by
  simp only [step]
  rcases Session.edit_memory w founded.sound e with ⟨f, value, early⟩ | ⟨o, value, unchanged⟩ |
    ⟨found, s', find, still, ⟨o, text, entry, value, changed, path, remembered, held, known⟩ | ⟨g, value⟩⟩
  · rw [value]
    cases f with
    | unreadable g => exact absurd rfl (early g)
    | _ => exact coherent
  · rw [value]
    simpa only [noteEdit, if_pos unchanged] using coherent
  · rw [value]
    by_cases same : p.components = o.path.components
    · exact noteEdit_coherent changed remembered held known same
    · exact (noteEdit_still (still p (path ▸ same)) same).coherent coherent
  · rw [value]
    simp only [noteEdit, find]
    by_cases same : p.components = found.entry.path.components
    · exact spoil_coherent same
    · have elsewhere : Still p h (spoil { h with session := s' } found.entry.path) :=
        ⟨still p same, rfl, rfl, Path.contains_cons same, Path.contains_cons same⟩
      exact elsewhere.coherent coherent

/-! ## Rounds -/

/-- The notice of an own write that nothing has crossed tells nothing new. -/
theorem current_of_uncrossed {l : Language} (coherent : h.Coherent l p)
    (echo : (h.session.takeEcho ⟨.changed, p⟩).1 = true)
    (uncrossed : h.crossed.contains p = false) : h.Current l p := by
  obtain ⟨text, remembered, held⟩ := Session.takeEcho_iff.mp echo
  obtain ⟨readable, e, entry, own⟩ := coherent.own text remembered uncrossed
  exact Registry.Knowledge.current_of_held held (fun _ => ⟨e, entry, Or.inr own⟩)
    fun unreadable => absurd readable unreadable

section Round

variable (founded : h.Founded) (tracked : h.session.registry.tracks p = true) {noticed : List Change}

include founded tracked

/-- What was current and is skipped stays current; what was not does not become so. -/
theorem skipped_current_iff (skipped : (changeSet noticed).kinds.get? p = none ∨
    (changeSet noticed).kinds.get? p = some .changed ∧ (h.session.takeEcho ⟨.changed, p⟩).1 = true) :
    (h.step w (.round noticed)).Current w.language p ↔ h.Current w.language p := by
  have known : (h.step w (.round noticed)).session.registry.known p = h.session.registry.known p := by
    rcases skipped with silent | ⟨changed, echo⟩
    · exact (Session.runCycle_silent w founded.apart tracked silent).known
    · exact Session.runCycle_echo w founded.apart tracked (changeSet_ordered noticed) changed echo
  have held : (h.step w (.round noticed)).session.store.get? p = h.session.store.get? p :=
    Session.runCycle_held w founded.apart tracked
  simp only [Current, known, held]
  rfl

/-- A mistaken round leaves its file outdated. -/
theorem Mistaken.outdated (mistaken : Mistaken w.language h noticed p) :
    ¬ (h.step w (.round noticed)).Current w.language p := by
  cases mistaken with
  | deletion notice held =>
      intro current
      obtain ⟨text, here⟩ := Option.isSome_iff_exists.mp held
      have held' : (h.step w (.round noticed)).session.store.get? p = some text :=
        (Session.runCycle_held w founded.apart tracked).trans here
      obtain ⟨entry, diagnostic⟩ :=
        Session.runCycle_deleted w founded.apart tracked (changeSet_ordered noticed) notice
      by_cases readable : Readable w.language p text
      · obtain ⟨e, known, -⟩ := current.readable text held' readable
        cases entry.symm.trans known
      · have known := (current.unreadable text held' readable).2
        rw [show ((h.step w (.round noticed)).session.registry.known p).diagnostic = none
          from diagnostic] at known
        cases known
  | echo notice skipped crossed outdated =>
      rwa [skipped_current_iff founded tracked (Or.inr ⟨notice, skipped⟩)]
  | silence notice spoiled outdated =>
      rwa [skipped_current_iff founded tracked (Or.inl notice)]

variable (coherent : h.Coherent w.language p) (allowed : h.Allows (.round noticed))
  (right : ¬ Mistaken w.language h noticed p)

include coherent allowed right

/-- A round that is not mistaken about a file leaves it current. -/
theorem round_current : (h.step w (.round noticed)).Current w.language p := by
  have ordered := changeSet_ordered noticed
  have held : (h.step w (.round noticed)).session.store.get? p = h.session.store.get? p :=
    Session.runCycle_held w founded.apart tracked
  cases notice : (changeSet noticed).kinds.get? p with
  | none =>
      rw [skipped_current_iff founded tracked (Or.inl notice)]
      have untouched : h.touched.contains p = false := by
        rw [Bool.eq_false_iff]
        intro touched
        obtain ⟨q, listed, same⟩ := Path.contains_iff.mp touched
        obtain ⟨kind, noticedQ, -⟩ := allowed q listed
        rw [Option.mem_def, ← OrderedMap.get?_congr (Path.compare_eq_iff.mpr same), notice] at noticedQ
        cases noticedQ
      by_cases spoiled : h.spoiled.contains p = true
      · by_contra outdated
        exact right (.silence notice spoiled outdated)
      · exact coherent.settled untouched (Bool.eq_false_iff.mpr spoiled)
  | some kind =>
      cases kind with
      | deleted =>
          have missing : h.session.store.get? p = none := by
            rw [← Option.not_isSome_iff_eq_none]
            exact fun there => right (.deletion notice there)
          exact Registry.Knowledge.current_of_absent (held.trans missing)
            (Session.runCycle_deleted w founded.apart tracked ordered notice).1
      | created =>
          have current := Session.runCycle_read w founded.apart tracked ordered (Or.inl notice)
          rw [← held] at current
          exact current.weaken
      | changed =>
          by_cases echo : (h.session.takeEcho ⟨.changed, p⟩).1 = true
          · rw [skipped_current_iff founded tracked (Or.inr ⟨notice, echo⟩)]
            by_cases crossed : h.crossed.contains p = true
            · by_contra outdated
              exact right (.echo notice echo crossed outdated)
            · exact current_of_uncrossed coherent echo (Bool.eq_false_iff.mpr crossed)
          · have current := Session.runCycle_read w founded.apart tracked ordered
              (Or.inr ⟨notice, Bool.eq_false_iff.mpr echo⟩)
            rw [← held] at current
            exact current.weaken

theorem round_coherent : (h.step w (.round noticed)).Coherent w.language p := by
  refine ⟨fun text remembered uncrossed => ?_, fun _ _ =>
    round_current founded tracked coherent allowed right⟩
  have ordered := changeSet_ordered noticed
  have written : (h.step w (.round noticed)).session.written.get? p =
      if (changeSet noticed).kinds.get? p = some .changed then none else h.session.written.get? p :=
    Session.runCycle_written w founded.apart tracked ordered
  simp only [step, List.contains_append, Bool.or_eq_false_iff] at uncrossed
  cases notice : (changeSet noticed).kinds.get? p with
  | none =>
      have still := Session.runCycle_silent w founded.apart tracked notice
      rw [written, notice, if_neg (by simp)] at remembered
      obtain ⟨readable, e, entry, own⟩ := coherent.own text remembered uncrossed.2
      refine ⟨readable, e, ?_, own⟩
      exact (congrArg Registry.Knowledge.entry still.known).trans entry
  | some kind =>
      by_cases changed : kind = .changed
      · subst changed
        rw [written, notice, if_pos rfl] at remembered
        cases remembered
      · -- the notice of a creation or of a deletion is noted
        obtain ⟨q, listed, same⟩ := OrderedMap.mem_of_get? notice
        have noted : (((changeSet noticed).changes.filter (·.kind ≠ .changed)).map (·.path)).contains p
            = true := by
          refine Path.contains_iff.mpr ⟨q, List.mem_map.mpr ⟨⟨kind, q⟩, ?_, rfl⟩,
            Path.compare_eq_iff.mp same⟩
          exact List.mem_filter.mpr ⟨List.mem_map.mpr ⟨(q, kind), listed, rfl⟩, by simpa using changed⟩
        rw [noted] at uncrossed
        cases uncrossed.1

end Round

theorem reload_coherent (founded : h.Founded) (tracked : h.session.registry.tracks p = true) :
    (h.step w .reload).Coherent w.language p := by
  obtain ⟨current, written⟩ := Session.load_current w founded.apart tracked
  refine ⟨fun text remembered uncrossed => ?_, fun _ _ => current.weaken⟩
  have before : h.session.written.get? p = some text := (congrArg (·.get? p) written).symm.trans remembered
  obtain ⟨q, listed, same⟩ := OrderedMap.mem_keys_of_get? before
  have noted : h.session.written.keys.contains p = true :=
    Path.contains_iff.mpr ⟨q, listed, Path.compare_eq_iff.mp same⟩
  simp only [step, List.contains_append, noted, Bool.true_or] at uncrossed
  cases uncrossed

/-! ## Runs -/

theorem Coherent.step (founded : h.Founded) (tracked : h.session.registry.tracks p = true)
    (coherent : h.Coherent w.language p) {d : Deed} (allowed : h.Allows d)
    (right : ∀ noticed, d = .round noticed → ¬ Mistaken w.language h noticed p) :
    (h.step w d).Coherent w.language p := by
  cases d with
  | put path text => exact coherent.touch fun other => MemoryStore.get?_put.trans (if_neg other)
  | delete path => exact coherent.touch fun other => MemoryStore.get?_delete.trans (if_neg other)
  | edit e => exact edit_coherent founded e coherent
  | round noticed => exact round_coherent founded tracked coherent allowed (right noticed rfl)
  | reload => exact reload_coherent founded tracked

theorem run_snoc (h : Chronicle) (before : List Deed) (d : Deed) :
    h.run w (before ++ [d]) = (h.run w before).step w d := by
  simp only [run, List.foldl_append, List.foldl_cons, List.foldl_nil]

theorem tracks_run (h : Chronicle) (deeds : List Deed) (p : Path) :
    (h.run w deeds).session.registry.tracks p = h.session.registry.tracks p := by
  induction deeds generalizing h with
  | nil => rfl
  | cons d deeds ih => exact (ih _).trans ((step_moves h d).tracks p)

/-- As long as no round has been mistaken about a file, the chronicle is coherent there. -/
theorem run_coherent (founded : h.Founded) (tracked : h.session.registry.tracks p = true)
    (coherent : h.Coherent w.language p) {deeds : List Deed} (allowed : h.Allowed w deeds)
    (right : h.EveryRound w deeds fun h noticed => ¬ Mistaken w.language h noticed p)
    (before : List Deed) : before <+: deeds → (h.run w before).Coherent w.language p := by
  induction before using List.reverseRecOn with
  | nil => exact fun _ => coherent
  | append_singleton before d ih =>
      rintro ⟨after, split⟩
      rw [List.append_assoc, List.singleton_append] at split
      have there := ih ⟨d :: after, split⟩
      rw [run_snoc]
      refine there.step (founded.run before) ((tracks_run h before p).trans tracked)
        (allowed before d after split.symm) fun noticed is => ?_
      exact right before noticed after (is ▸ split.symm)

/-- **A round is mistaken, or it leaves everything current.**  Others write and delete
files that are read, and each round is told of every file that they touched; the session
edits, follows its rounds, which never fail, and reads everything anew.  Then what is known
of the files is current behind every round if and only if no round is mistaken about one. -/
theorem current_iff_not_mistaken (w : Workshop) (config : Config) (store : MemoryStore) (next : Nat)
    (deeds : List Deed) (allowed : (opening w config store next).Allowed w deeds) :
    ((opening w config store next).EveryRound w deeds fun h noticed =>
      ∃ report, (h.session.runCycle w (changeSet noticed)).value.1 = .ok report) ∧
    (((opening w config store next).EveryRound w deeds fun h noticed =>
        ∀ p, h.session.registry.tracks p = true → (h.step w (.round noticed)).Current w.language p) ↔
      (opening w config store next).EveryRound w deeds fun h noticed =>
        ∀ p, h.session.registry.tracks p = true → ¬ Mistaken w.language h noticed p) := by
  have founded := founded_opening (w := w) config store next
  refine ⟨fun before noticed _ _ => Session.runCycle_ok w _ _, fun current => ?_, fun right => ?_⟩
  · intro before noticed after split p tracked mistaken
    exact mistaken.outdated (founded.run before) tracked (current before noticed after split p tracked)
  · intro before noticed after split p tracked
    have trackedFirst : (opening w config store next).session.registry.tracks p = true :=
      (tracks_run _ before p).symm.trans tracked
    have coherent : (opening w config store next).Coherent w.language p := by
      obtain ⟨current, written⟩ := Session.load_current w (Session.new_apart config store next)
        (((Session.load_moves w _).tracks p).symm.trans trackedFirst)
      refine ⟨fun text remembered _ => ?_, fun _ _ => current.weaken⟩
      rw [show (opening w config store next).session.written = .empty from written] at remembered
      cases remembered
    refine round_current (founded.run before) tracked ?_ (allowed before _ after split)
      (right before noticed after split p tracked)
    refine run_coherent founded trackedFirst coherent allowed (fun before' noticed' after' split' => ?_)
      before ⟨_, split.symm⟩
    exact right before' noticed' after' split' p ((tracks_run _ before' p).trans trackedFirst)

/-! ## Poles -/

theorem allowed_nil : h.Allowed w [] := by
  intro before deed after split
  simp at split

theorem allowed_cons {d : Deed} {ds : List Deed} (now : h.Allows d) (later : (h.step w d).Allowed w ds) :
    h.Allowed w (d :: ds) := by
  intro before deed after split
  cases before with
  | nil =>
      obtain ⟨rfl, -⟩ := List.cons.inj split
      exact now
  | cons d' before =>
      obtain ⟨rfl, rest⟩ := List.cons.inj split
      exact later before deed after rest

open Session (deskWorkshop deskStore deskText deskPath nullEdit)

/-- The desk at its opening. -/
def desk : Chronicle := opening deskWorkshop .standard (deskStore deskText) 0

/-- What `nullEdit` writes. -/
def nullText : String := "<b a={null}/>;\n"

/-- An edit, and the notice of its text. -/
def plainDeeds : List Deed := [.edit nullEdit] ++ [.round [⟨.changed, deskPath⟩]]

/-- Between an edit and the notice of its text the file is deleted and put there again. -/
def crossedDeeds : List Deed :=
  [.edit nullEdit, .delete deskPath, .round [⟨.deleted, deskPath⟩], .put deskPath nullText,
    .round [⟨.changed, deskPath⟩]]

theorem plainDeeds_allowed : desk.Allowed deskWorkshop plainDeeds := by
  refine allowed_cons trivial <| allowed_cons ?_ allowed_nil
  decide +kernel

theorem crossedDeeds_allowed : desk.Allowed deskWorkshop crossedDeeds := by
  refine allowed_cons trivial <| allowed_cons ?_ <| allowed_cons ?_ <| allowed_cons ?_ <|
    allowed_cons ?_ allowed_nil
  all_goals decide +kernel

/-- The round behind the edit is not mistaken, so it leaves the file current. -/
theorem current_behind_notice :
    (desk.run deskWorkshop plainDeeds).Current deskWorkshop.language deskPath := by
  have facts : (desk.run deskWorkshop [.edit nullEdit]).session.registry.tracks deskPath = true ∧
      (desk.run deskWorkshop [.edit nullEdit]).crossed.isEmpty = true ∧
      (desk.run deskWorkshop [.edit nullEdit]).spoiled.isEmpty = true := by decide +kernel
  obtain ⟨tracked, uncrossed, unspoiled⟩ := facts
  have right : desk.EveryRound deskWorkshop plainDeeds fun h noticed =>
      ∀ p, h.session.registry.tracks p = true → ¬ Mistaken deskWorkshop.language h noticed p := by
    intro before noticed after split p _ mistaken
    obtain ⟨rfl, rfl⟩ : before = [.edit nullEdit] ∧ noticed = [⟨.changed, deskPath⟩] := by
      rcases before with _ | ⟨d, _ | ⟨d', _ | ⟨d'', before⟩⟩⟩ <;> simp_all [plainDeeds]
    cases mistaken with
    | deletion notice held =>
        simp only [changeSet, ChangeSet.add, ChangeSet.record, ChangeSet.empty, List.foldl_cons,
          List.foldl_nil, OrderedMap.get?_insert] at notice
        split at notice <;> cases notice
    | echo notice skipped crossed outdated =>
        rw [List.isEmpty_iff.mp uncrossed] at crossed
        cases crossed
    | silence notice spoiled outdated =>
        rw [List.isEmpty_iff.mp unspoiled] at spoiled
        cases spoiled
  have every := (current_iff_not_mistaken deskWorkshop .standard (deskStore deskText) 0 plainDeeds
    plainDeeds_allowed).2.mpr right
  have behind := every [.edit nullEdit] [⟨.changed, deskPath⟩] [] rfl deskPath
  rw [← desk] at behind
  rw [plainDeeds, run_snoc]
  exact behind tracked

/-- Refuting pole: the file is there again, but its notice is taken for that of the edit. -/
theorem change_lost : desk.Allowed deskWorkshop crossedDeeds ∧
    (desk.run deskWorkshop crossedDeeds).session.registry.tracks deskPath = true ∧
    (desk.run deskWorkshop crossedDeeds).session.store.get? deskPath = some nullText ∧
    Readable deskWorkshop.language deskPath nullText ∧
    ((desk.run deskWorkshop crossedDeeds).session.registry.entries.get? deskPath).isNone = true ∧
    ¬ (desk.run deskWorkshop crossedDeeds).Current deskWorkshop.language deskPath := by
  have facts : (desk.run deskWorkshop crossedDeeds).session.registry.tracks deskPath = true ∧
      (desk.run deskWorkshop crossedDeeds).session.store.get? deskPath = some nullText ∧
      Readable deskWorkshop.language deskPath nullText ∧
      ((desk.run deskWorkshop crossedDeeds).session.registry.entries.get? deskPath).isNone = true := by
    decide +kernel
  obtain ⟨tracked, held, readable, unknown⟩ := facts
  refine ⟨crossedDeeds_allowed, tracked, held, readable, unknown, fun current => ?_⟩
  obtain ⟨e, entry, -⟩ := current.readable nullText held readable
  rw [Registry.known_entry] at entry
  rw [entry] at unknown
  cases unknown

end Chronicle

end LiveMarkup
