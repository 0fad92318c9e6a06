import LiveMarkup.Proofs.Project.Coherence
import Mathlib.Data.List.Induction
/-
# LiveMarkup.Proofs.Project.Action -- what an operation does to each file

Whatever a registry is asked to do comes down to a row of actions, each on one file: a text
is taken in, a file is forgotten, a failure is kept for it, or it is excluded.  Reading a
file again is one action at most (`visit?`), following a change is one at most (`response?`),
and reading a whole store is a row of them (`loadAll_eq_performAll`).

`Action.effect` says all that an action does to what is known of its file; of other files
nothing changes (`known_perform`).  Everything that is proved of actions is read off these
two, so nothing that uses them has to look into an operation again.
-/

namespace LiveMarkup

set_option autoImplicit false

open LiveMarkup.Syntax

/-- No source is refused unread. -/
theorem Document.read_ne_unsupported {l : Language} {p : Path} {text shown : String} (source : p.isSource = true) :
    (Document.read l p text).value ≠ .error (.unsupported shown) := fun read => by
  rw [Document.read_eq_unsupported read] at source
  cases source

namespace Registry

/-! ## Actions -/

/-- What can be done to one file. -/
inductive Action where
  | ingest (path : Path) (text : String)
  | remove (path : Path)
  | fail (path : Path) (failure : FileFailure)
  | exclude (path : Path)

def Action.path : Action → Path
  | ingest p _ | remove p | fail p _ | exclude p => p

variable (w : Workshop)

def perform (r : Registry) : Action → Registry
  | .ingest p text => (r.ingest w p text).value.2
  | .remove p => r.remove p
  | .fail p f => r.fail p f
  | .exclude p => r.exclude p

/-- Do one action after the other. -/
def performAll (r : Registry) (as : List Action) : Registry := as.foldl (perform w) r

/-- What is known of a file behind an action on it, when the registry was `r` and knew `k`. -/
def Action.effect (r : Registry) (k : Knowledge) : Action → Knowledge
  | .ingest p text =>
      match (Document.read w.language p text).value with
      | .ok d => ⟨some (makeEntry w r d text).1, some (makeEntry w r d text).1.version, none⟩
      | .error (.unsupported _) => k
      | .error f => ⟨none, k.version, some ⟨p, .unreadable f⟩⟩
  | .remove _ => ⟨none, k.version, none⟩
  | .fail p f => ⟨none, k.version, some ⟨p, f⟩⟩
  | .exclude _ => ⟨none, k.version, k.diagnostic⟩

variable {w} {r r' : Registry} {p q : Path} {a : Action}

theorem known_exclude : (r.exclude p).known q =
    if q.components = p.components then ⟨none, r.versions.get? q, r.diagnostics.get? q⟩ else r.known q := by
  simp only [exclude, known, OrderedMap.get?_erase, Path.compare_eq_iff]
  split <;> rfl

theorem known_congr (same : p.components = q.components) (r : Registry) : r.known p = r.known q := by
  have key : compare p q = .eq := Path.compare_eq_iff.mpr same
  simp only [known, OrderedMap.get?_congr key]

theorem version_eq_known (r : Registry) (p : Path) : r.version p = (r.known p).version.getD 0 := rfl

theorem version_congr (same : p.components = q.components) (r : Registry) : r.version p = r.version q := by
  rw [version, version, OrderedMap.get?_congr (Path.compare_eq_iff.mpr same)]

/-- What an action does to what is known: its effect on its own file, and nothing elsewhere. -/
theorem known_perform : (r.perform w a).known q =
    if q.components = a.path.components then a.effect w r (r.known q) else r.known q := by
  cases a with
  | remove p => exact known_remove
  | fail p f => exact known_fail
  | exclude p => exact known_exclude
  | ingest p text =>
      simp only [perform, ingest, Logged.bind_value, Action.effect]
      cases (Document.read w.language p text).value with
      | ok d => exact known_accept
      | error f =>
          cases f with
          | unsupported shown => exact (ite_self _).symm
          | malformed shown diagnostics => exact known_fail

/-- An action does not matter to whether another file is read. -/
theorem perform_tracks (other : q.components ≠ a.path.components) :
    (r.perform w a).tracks q = r.tracks q := by
  cases a with
  | exclude p =>
      have unlisted : (p :: r.excluded).contains q = r.excluded.contains q := Path.contains_cons other
      simp only [perform, exclude, tracks, unlisted]
  | ingest p text => exact (ingest_differs w r p text).tracks q
  | _ => rfl

@[simp] theorem performAll_nil : r.performAll w [] = r := rfl

@[simp] theorem performAll_cons {as : List Action} :
    r.performAll w (a :: as) = (r.perform w a).performAll w as := rfl

theorem performAll_append {as bs : List Action} :
    r.performAll w (as ++ bs) = (r.performAll w as).performAll w bs := List.foldl_append

/-! ## What the operations come down to -/

section Store

variable {σ : Type} [SourceStore σ]

/-- Is a file passed over when it is to be read again? -/
def passes (r : Registry) (store : σ) (p : Path) : Bool := !r.tracks p || SourceStore.ignores store p

/-- What reading a file again comes down to. -/
def visit? (r : Registry) (store : σ) (p : Path) : Option Action :=
  if r.passes store p then none
  else
    match SourceStore.read store p with
    | .ok text => some (.ingest p text)
    | .error (.notFound _) => some (.remove p)
    | .error f => some (.fail p (.store f))

/-- What following a change comes down to. -/
def response? (r : Registry) (store : σ) (c : Change) : Option Action :=
  match c.kind with
  | .created | .changed => r.visit? store c.path
  | .deleted => some (.remove c.path)

/-- What reading a whole store comes down to. -/
def sweep (r : Registry) (store : σ) : List Action :=
  match SourceStore.list store with
  | .error _ => []
  | .ok all =>
      let paths := all.filter r.tracks
      (r.entries.keys.filter fun p => !paths.contains p).map .remove ++ paths.filterMap (r.visit? store)

variable {store : σ} {c : Change}

theorem passes_congr (same : r'.tracks p = r.tracks p) : r'.passes store p = r.passes store p := by
  rw [passes, passes, same]

theorem visit?_congr (same : r'.tracks p = r.tracks p) : r'.visit? store p = r.visit? store p := by
  rw [visit?, visit?, passes_congr same]

theorem response?_congr (same : r'.tracks c.path = r.tracks c.path) :
    r'.response? store c = r.response? store c := by
  rw [response?, response?, visit?_congr same]

/-- All that a visit can be. -/
theorem visit?_cases (r : Registry) (store : σ) (p : Path) :
    (r.passes store p = true ∧ r.visit? store p = none) ∨
    (r.passes store p = false ∧
      ((∃ text, SourceStore.read store p = .ok text ∧ r.visit? store p = some (.ingest p text)) ∨
      (∃ shown, SourceStore.read store p = .error (.notFound shown) ∧ r.visit? store p = some (.remove p)) ∨
      ∃ f, SourceStore.read store p = .error f ∧ (∀ shown, f ≠ .notFound shown) ∧
        r.visit? store p = some (.fail p (.store f)))) := by
  unfold visit?
  cases passed : r.passes store p with
  | true => exact .inl ⟨rfl, rfl⟩
  | false =>
      refine .inr ⟨rfl, ?_⟩
      rw [if_neg Bool.false_ne_true]
      cases read : SourceStore.read store p with
      | ok text => exact .inl ⟨text, rfl, rfl⟩
      | error f =>
          cases f with
          | notFound shown => exact .inr (.inl ⟨shown, rfl, rfl⟩)
          | io | unlistable => exact .inr (.inr ⟨_, rfl, nofun, rfl⟩)

/-- A visit does something to the file that is visited, which is not passed over. -/
theorem visit?_path (visit : r.visit? store p = some a) : a.path = p ∧ r.passes store p = false := by
  rcases visit?_cases r store p with ⟨-, is⟩ | ⟨looks, ⟨text, -, is⟩ | ⟨shown, -, is⟩ | ⟨f, -, -, is⟩⟩
  · cases is.symm.trans visit
  all_goals
    cases is.symm.trans visit
    exact ⟨rfl, looks⟩

theorem response?_path (response : r.response? store c = some a) : a.path = c.path := by
  unfold response? at response
  split at response
  · exact (visit?_path response).1
  · exact (visit?_path response).1
  · cases response
    rfl

theorem refresh_eq_performAll : (r.refresh w store p).value.2 = r.performAll w (r.visit? store p).toList := by
  unfold refresh visit? passes
  split
  · rfl
  · cases SourceStore.read store p with
    | ok text => rfl
    | error f => cases f <;> rfl

theorem applyChange_eq_performAll :
    (r.applyChange w store c).value.2 = r.performAll w (r.response? store c).toList := by
  unfold applyChange response?
  cases c.kind with
  | deleted => rfl
  | _ => exact refresh_eq_performAll

theorem refreshAll_eq_performAll (ps : List Path) (n : LoadSummary) (r : Registry) :
    (refreshAll w store ps n r).value.2 = r.performAll w (ps.filterMap (r.visit? store)) := by
  induction ps generalizing n r with
  | nil => rfl
  | cons p ps ih =>
      have later : (r.refresh w store p).value.2.visit? store = r.visit? store :=
        funext fun q => visit?_congr ((refresh_differs w r store p).tracks q)
      have step : (refreshAll w store (p :: ps) n r).value.2 =
          (r.refresh w store p).value.2.performAll w (ps.filterMap (r.visit? store)) := by
        rw [← later]
        exact ih _ _
      rw [step, refresh_eq_performAll, ← performAll_append]
      cases visit : r.visit? store p with
      | none => simp [visit]
      | some a => simp [visit]

theorem foldl_remove_eq_performAll (ps : List Path) (r : Registry) :
    ps.foldl remove r = r.performAll w (ps.map .remove) := by
  rw [performAll, List.foldl_map]
  rfl

theorem loadAll_eq_performAll : (r.loadAll w store).value.2 = r.performAll w (r.sweep store) := by
  unfold loadAll sweep
  cases SourceStore.list store with
  | error f => rfl
  | ok all =>
      simp only [Logged.bind_value, Logged.pure_value]
      have later : ∀ ps : List Path, (ps.foldl remove r).visit? store = r.visit? store :=
        fun ps => funext fun q => visit?_congr ((foldl_remove_moves w ps r).tracks q)
      rw [refreshAll_eq_performAll, later, foldl_remove_eq_performAll (w := w), ← performAll_append]

variable (w store) in
/-- The registry behind a change. -/
def follow (r : Registry) (c : Change) : Registry := (r.applyChange w store c).value.2

variable (w store) in
/-- The registry behind changes that are followed one after the other. -/
def followAll (r : Registry) (cs : List Change) : Registry := cs.foldl (follow w store) r

/-- What is known behind a change: the effect of the response on the file of the change. -/
theorem known_follow (r : Registry) (c : Change) (q : Path) : (r.follow w store c).known q =
    if q.components = c.path.components then
      (r.response? store c).elim (r.known q) (Action.effect w r (r.known q))
    else r.known q := by
  rw [follow, applyChange_eq_performAll]
  cases response : r.response? store c with
  | none => exact (ite_self _).symm
  | some a =>
      have path := response?_path response
      simp only [Option.toList_some, performAll_cons, performAll_nil, known_perform, path, Option.elim_some]

theorem follow_differs (r : Registry) (c : Change) : DiffersOnlyAt c.path r (r.follow w store c) :=
  applyChange_differs w r store c

theorem followAll_append_singleton {cs : List Change} :
    r.followAll w store (cs ++ [c]) = (r.followAll w store cs).follow w store c := by
  simp only [followAll, List.foldl_append, List.foldl_cons, List.foldl_nil]

theorem followAll_tracks (cs : List Change) (q : Path) : (r.followAll w store cs).tracks q = r.tracks q := by
  induction cs using List.reverseRecOn with
  | nil => rfl
  | append_singleton cs c ih => rw [followAll_append_singleton, (follow_differs _ c).tracks, ih]

end Store

/-! ## Operations and runs -/

/-- What a registry can be asked to do; each operation may be given a store of its own. -/
inductive Operation where
  | loadAll {σ : Type} [SourceStore σ] (store : σ)
  | applyChange {σ : Type} [SourceStore σ] (store : σ) (c : Change)
  | refresh {σ : Type} [SourceStore σ] (store : σ) (p : Path)
  | ingest (p : Path) (text : String)
  | remove (p : Path)
  | exclude (p : Path)

namespace Operation

/-- The file that an operation is about, when it is about one file. -/
def path? : Operation → Option Path
  | loadAll _ => none
  | applyChange _ c => some c.path
  | refresh _ p | ingest p _ | remove p | exclude p => some p

def run (w : Workshop) (r : Registry) : Operation → Registry
  | loadAll store => (r.loadAll w store).value.2
  | applyChange store c => (r.applyChange w store c).value.2
  | refresh store p => (r.refresh w store p).value.2
  | ingest p text => (r.ingest w p text).value.2
  | remove p => r.remove p
  | exclude p => r.exclude p

/-- What an operation comes down to. -/
def actions (r : Registry) : Operation → List Action
  | loadAll store => r.sweep store
  | applyChange store c => (r.response? store c).toList
  | refresh store p => (r.visit? store p).toList
  | ingest p text => [.ingest p text]
  | remove p => [.remove p]
  | exclude p => [.exclude p]

theorem run_eq_performAll (op : Operation) (r : Registry) : op.run w r = r.performAll w (op.actions r) := by
  cases op with
  | loadAll store => exact loadAll_eq_performAll
  | applyChange store c => exact applyChange_eq_performAll
  | refresh store p => exact refresh_eq_performAll
  | ingest p text => rfl
  | remove p => rfl
  | exclude p => rfl

/-- An operation on one file is no more than actions on that file. -/
theorem actions_path {op : Operation} (about : op.path? = some p) (acts : a ∈ op.actions r) : a.path = p := by
  cases op with
  | loadAll store => cases about
  | applyChange store c =>
      cases about
      exact response?_path (Option.mem_toList.mp acts)
  | refresh store p =>
      cases about
      exact (visit?_path (Option.mem_toList.mp acts)).1
  | ingest p text | remove p | exclude p =>
      cases about
      rw [List.mem_singleton.mp acts]
      rfl

theorem run_arises (op : Operation) (arises : r.Arises w) : (op.run w r).Arises w := by
  cases op with
  | loadAll store => exact .loadAll arises store
  | applyChange store c => exact .applyChange arises store c
  | refresh store p => exact .refresh arises store p
  | ingest p text => exact .ingest arises p text
  | remove p => exact .remove arises p
  | exclude p => exact .exclude arises p

/-- Carry out one operation after the other. -/
def runAll (w : Workshop) (r : Registry) (ops : List Operation) : Registry := ops.foldl (run w) r

end Operation

end Registry

end LiveMarkup
