import LiveMarkup.Proofs.Project.Action
/-
# LiveMarkup.Proofs.Project.Versions -- versions count up for ever

The version of a file is the number of texts that were taken in for it.  `history` is the row of
the versions that a run returns for one file: those of the entries that come of the texts that
are taken in, by whatever operation, an operation being the row of actions that it comes down to
(`Operation.run_eq_performAll`).  It is 1, 2, 3, … (`versions_count_up`), since a text that is
taken in counts one up and nothing else counts (`perform_counts`).

`Counts` says that a row of versions is all the counting between two registries; rows that
follow each other join (`Counts.append`), which carries the one step to every run.

Versions are natural numbers, so what is said here holds below the limit of a machine word.
-/

namespace LiveMarkup

set_option autoImplicit false

namespace Registry

variable {w : Workshop} {r r' r'' : Registry} {p : Path} {vs us : List Nat}

/-! ## Rows of versions -/

/-- The versions `vs` are all that was counted for a file from one registry to the other. -/
structure Counts (p : Path) (r r' : Registry) (vs : List Nat) : Prop where
  row : vs = List.range' (r.version p + 1) vs.length
  version : r'.version p = r.version p + vs.length
  kept : vs = [] → r'.versions.get? p = r.versions.get? p

theorem Counts.none (kept : r'.versions.get? p = r.versions.get? p) : Counts p r r' [] :=
  ⟨rfl, congrArg (·.getD 0) kept, fun _ => kept⟩

theorem Counts.one (next : r'.versions.get? p = some (r.version p + 1)) :
    Counts p r r' [r.version p + 1] :=
  ⟨rfl, congrArg (·.getD 0) next, fun nothing => absurd nothing (List.cons_ne_nil _ _)⟩

theorem Counts.append (first : Counts p r r' vs) (second : Counts p r' r'' us) :
    Counts p r r'' (vs ++ us) where
  row := by
    have next : r.version p + 1 + vs.length = r'.version p + 1 := by
      have := first.version
      omega
    rw [List.length_append, ← List.range'_append_1, next, ← first.row, ← second.row]
  version := by rw [second.version, first.version, List.length_append, Nat.add_assoc]
  kept nothing := by
    obtain ⟨left, right⟩ := List.append_eq_nil_iff.mp nothing
    exact (second.kept right).trans (first.kept left)

/-! ## What an action returns -/

variable (w p) in
/-- The version that is returned when a text of the file is taken in. -/
def returned? (r : Registry) : Action → Option Nat
  | .ingest q text =>
      if q.components = p.components then (r.ingest w q text).value.1.toOption.map FileEntry.version else none
  | _ => none

variable (w p) in
/-- The versions that are returned for a file when actions are done one after the other. -/
def returned (r : Registry) : List Action → List Nat
  | [] => []
  | a :: as => (r.returned? w p a).toList ++ returned (r.perform w a) as

theorem returned?_of_ne {a : Action} (other : p.components ≠ a.path.components) :
    r.returned? w p a = none := by
  cases a with
  | ingest q text => exact if_neg fun same => other same.symm
  | _ => rfl

/-- A text that can be read counts the version of its file up; no other action counts. -/
theorem perform_counts (r : Registry) (a : Action) :
    Counts p r (r.perform w a) (r.returned? w p a).toList := by
  by_cases same : p.components = a.path.components
  case neg =>
    rw [returned?_of_ne same]
    exact .none (congrArg Knowledge.version ((@known_perform w r p a).trans (if_neg same)))
  cases a with
  | remove q | fail q f | exclude q =>
      exact .none (congrArg Knowledge.version ((@known_perform w r p _).trans (if_pos same)))
  | ingest q text =>
      have here : q.components = p.components := same.symm
      simp only [returned?, perform, if_pos here]
      rcases ingest_cases w r q text with ⟨d, read, value⟩ | ⟨shown, -, value⟩ | ⟨f, -, value⟩
      · obtain ⟨path, -, -⟩ := Document.read_eq_ok read
        have made : (makeEntry w r d text).1.version = r.version p + 1 :=
          congrArg (· + 1) (version_congr ((congrArg Path.components path).trans here) r)
        rw [value]
        simp only [Except.toOption, Option.map_some, Option.toList_some, made]
        refine .one ((congrArg Knowledge.version (known_accept.trans (if_pos same))).trans ?_)
        exact congrArg some made
      · rw [value]
        exact .none rfl
      · rw [value]
        exact .none (congrArg Knowledge.version (known_fail.trans (if_pos same)))

theorem performAll_counts (r : Registry) (as : List Action) :
    Counts p r (r.performAll w as) (r.returned w p as) := by
  induction as generalizing r with
  | nil => exact .none rfl
  | cons a as ih => exact (perform_counts r a).append (ih _)

/-- Following changes lowers no version. -/
theorem version_le_followAll {σ : Type} [SourceStore σ] (store : σ) (r : Registry) (cs : List Change) :
    r.version p ≤ (r.followAll w store cs).version p := by
  induction cs using List.reverseRecOn with
  | nil => exact Nat.le_refl _
  | append_singleton cs c ih =>
      rw [followAll_append_singleton, follow, applyChange_eq_performAll, (performAll_counts _ _).version]
      exact Nat.le_add_right_of_le ih

/-! ## Runs -/

variable (w p) in
/-- The versions that an operation returns for a file. -/
def Operation.returned (r : Registry) (op : Operation) : List Nat := r.returned w p (op.actions r)

variable (w p) in
/-- The versions that a run returns for a file, in order. -/
def Operation.history (r : Registry) : List Operation → List Nat
  | [] => []
  | op :: ops => op.returned w p r ++ history (op.run w r) ops

theorem Operation.run_counts (op : Operation) (r : Registry) :
    Counts p r (op.run w r) (op.returned w p r) := by
  rw [op.run_eq_performAll]
  exact performAll_counts r _

theorem Operation.runAll_counts (r : Registry) (ops : List Operation) :
    Counts p r (runAll w r ops) (history w p r ops) := by
  induction ops generalizing r with
  | nil => exact .none rfl
  | cons op ops ih => exact (op.run_counts r).append (ih _)

theorem Operation.runAll_arises (arises : r.Arises w) (ops : List Operation) : (runAll w r ops).Arises w := by
  induction ops generalizing r with
  | nil => exact arises
  | cons op ops ih => exact ih (op.run_arises arises)

/-- **Versions count up for ever.**  Whatever operations are carried out on a new registry, over
stores of any kind that may fail as they like, the versions that are returned for a file as its
texts are taken in are 1, 2, 3, … with no gap and no repetition.  The version that is
remembered of the file, and that of its entry whenever it has one, is how many they are.  The
next operation leaves what is remembered as it is, unless it takes in a text of the file. -/
theorem versions_count_up (w : Workshop) (identifierName : String) (next : Nat) (p : Path)
    (ops : List Operation) :
    let history := Operation.history w p (.new identifierName next) ops
    let r := Operation.runAll w (.new identifierName next) ops
    history = List.range' 1 history.length ∧
    r.version p = history.length ∧
    (∀ e, r.entry? p = some e → e.version = history.length) ∧
    ∀ op : Operation, op.returned w p r = [] → (op.run w r).versions.get? p = r.versions.get? p := by
  intro history r
  have counts : Counts p (.new identifierName next) r history := Operation.runAll_counts _ ops
  have fresh : (Registry.new identifierName next).version p = 0 := rfl
  have version : r.version p = history.length := by rw [counts.version, fresh, Nat.zero_add]
  have arises : r.Arises w := Operation.runAll_arises (.new identifierName next) ops
  refine ⟨?_, version, fun e found => ?_, fun op quiet => (op.run_counts r).kept quiet⟩
  · rw [← Nat.zero_add 1, ← fresh]
    exact counts.row
  · obtain ⟨-, -, remembered, -⟩ := arises.coherent.get?_eq_some found
    have same : r.version p = e.version := congrArg (·.getD 0) remembered
    rw [← same, version]

open Session (deskWorkshop deskPath deskStore) in
/-- A file that is removed, breaks and is excluded counts on where it stood. -/
example :
    let ops : List Operation :=
      [.loadAll (deskStore "<b/>;"), .remove deskPath, .refresh (deskStore "<i>;") deskPath,
        .applyChange (deskStore "<i/>;") ⟨.created, deskPath⟩, .exclude deskPath, .ingest deskPath "<u/>;"]
    Operation.history deskWorkshop deskPath (.new "data-uid" 0) ops = [1, 2, 3] := by
  decide +kernel

end Registry

end LiveMarkup
