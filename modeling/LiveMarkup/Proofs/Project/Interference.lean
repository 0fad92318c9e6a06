import LiveMarkup.Proofs.Markup.Draws
import LiveMarkup.Proofs.Project.Action
/-
# LiveMarkup.Proofs.Project.Interference -- files do not interfere

What is done to one file changes nothing that is known of another one, nor whether it is
read (`perform_tracks`, `known_perform`).  What it does to its own file hangs on what is known
of that file, on the name of the attribute, and on the identifiers that are drawn
(`Action.effect_congr`).  So changes of two files may be followed in either order, provided
that each of the files draws the same identifiers both times: the supply is the one thing they
share.  `files_apart` says both.

Pole: two files that are new, and a supply that gives out every identifier twice.
-/

namespace LiveMarkup

set_option autoImplicit false

open LiveMarkup.Syntax

/-- A supply that gives out every identifier twice. -/
def Supply.doubled (s : Supply) : Supply where
  draw n := s.draw (n / 2)
  draw_ne_empty n := s.draw_ne_empty (n / 2)
  tries used n := 2 * s.tries used (n / 2)
  exists_unused used n := by
    obtain ⟨i, few, free⟩ := s.exists_unused used (n / 2)
    refine ⟨2 * i, by omega, ?_⟩
    rwa [show (n + 2 * i) / 2 = n / 2 + i by omega]

namespace Registry

variable {w : Workshop} {r r' : Registry} {p q : Path} {a : Action} {k : Knowledge}

/-! ## What an action draws -/

variable (w) in
/-- The identifiers that are made when an action is done. -/
def drawnBy (r : Registry) : Action → List String
  | .ingest p text =>
      match (Document.read w.language p text).value with
      | .ok d => (d.content.identify w.supply r.identifierName r.next).assigned
      | .error _ => []
  | _ => []

/-- The entry of a document hangs on the name of the attribute, the version of its path, and on what is
drawn. -/
theorem makeEntry_congr {d : Document} (text : String) (name : r'.identifierName = r.identifierName)
    (version : r'.version d.path = r.version d.path)
    (drawn : (d.content.identify w.supply r.identifierName r'.next).assigned =
      (d.content.identify w.supply r.identifierName r.next).assigned) :
    (makeEntry w r' d text).1 = (makeEntry w r d text).1 := by
  obtain ⟨content, arena⟩ := Module.identify_congr w.supply w.supply r.identifierName d.content drawn
  simp only [makeEntry, name, content, arena, version]

/-- What an action does to its file does not hang on other files, but for what is drawn. -/
theorem Action.effect_congr (name : r'.identifierName = r.identifierName)
    (version : r'.version a.path = r.version a.path) (drawn : r'.drawnBy w a = r.drawnBy w a) :
    a.effect w r' k = a.effect w r k := by
  cases a with
  | ingest p text =>
      cases read : (Document.read w.language p text).value with
      | error f =>
          simp only [Action.effect, read]
          cases f <;> rfl
      | ok d =>
          obtain ⟨rfl, -, -⟩ := Document.read_eq_ok read
          simp only [drawnBy, read, name] at drawn
          simp only [Action.effect, read, makeEntry_congr text name version drawn]
  | _ => rfl

/-! ## Operations on one file -/

theorem performAll_apart {as : List Action} (other : ∀ a ∈ as, q.components ≠ a.path.components) :
    (r.performAll w as).known q = r.known q ∧ (r.performAll w as).tracks q = r.tracks q := by
  induction as generalizing r with
  | nil => exact ⟨rfl, rfl⟩
  | cons a as ih =>
      obtain ⟨here, later⟩ := List.forall_mem_cons.mp other
      obtain ⟨known, tracks⟩ := ih (r := r.perform w a) later
      rw [performAll_cons, known, tracks, known_perform, if_neg here, perform_tracks here]
      exact ⟨rfl, rfl⟩

/-- An operation on one file does not matter to another one. -/
theorem Operation.run_apart {op : Operation} (about : op.path? = some p)
    (distinct : p.components ≠ q.components) :
    (op.run w r).known q = r.known q ∧ (op.run w r).tracks q = r.tracks q := by
  rw [op.run_eq_performAll]
  refine performAll_apart fun a acts same => distinct ?_
  rw [← Operation.actions_path about acts, same]

/-! ## Changes of two files -/

section Store

variable {σ : Type} [SourceStore σ] {store : σ} {c d : Change}

variable (w store) in
/-- The identifiers that are made when a change is followed. -/
def drawn (r : Registry) (c : Change) : List String := (r.response? store c).elim [] (r.drawnBy w)

/-- Of its own file a change makes the same whether or not another file has changed before. -/
theorem known_follow_follow (apart : c.path.components ≠ d.path.components)
    (draws : (r.follow w store d).drawn w store c = r.drawn w store c) (here : q.components = c.path.components) :
    ((r.follow w store d).follow w store c).known q = (r.follow w store c).known q := by
  have differs : DiffersOnlyAt d.path r (r.follow w store d) := follow_differs r d
  have known : (r.follow w store d).known q = r.known q := differs.known q (here ▸ apart)
  have response : (r.follow w store d).response? store c = r.response? store c :=
    response?_congr (differs.tracks c.path)
  simp only [drawn, response] at draws
  rw [known_follow _ c, known_follow r c, if_pos here, if_pos here, response, known]
  cases answer : r.response? store c with
  | none => simp only [Option.elim_none]
  | some a =>
      rw [answer] at draws
      refine Action.effect_congr differs.identifierName ?_ draws
      rw [response?_path answer]
      rw [version_eq_known, version_eq_known, differs.known c.path apart]

/-- Changes of two files commute when each file draws the same identifiers in either order. -/
theorem known_follow_comm (apart : c.path.components ≠ d.path.components)
    (first : (r.follow w store d).drawn w store c = r.drawn w store c)
    (second : (r.follow w store c).drawn w store d = r.drawn w store d) (q : Path) :
    ((r.follow w store c).follow w store d).known q = ((r.follow w store d).follow w store c).known q := by
  have beside : ∀ {r : Registry} {c : Change}, q.components ≠ c.path.components →
      (r.follow w store c).known q = r.known q := fun other => (follow_differs _ _).known q other
  by_cases here : q.components = c.path.components
  · rw [known_follow_follow apart first here]
    exact beside (here ▸ apart)
  · rw [beside here]
    by_cases there : q.components = d.path.components
    · exact known_follow_follow apart.symm second there
    · rw [beside there, beside there, beside here]

/-- **Files do not interfere.**  Let two paths have different components.  Whatever operation on
the one is carried out, however it ends, the entry, the version and the diagnostic of the other
are what they were, and so is whether it is read.  Two changes, one of each, followed in either
order over one store, leave the same entry, version and diagnostic of every path, provided that
each file draws the same identifiers in either order. -/
theorem files_apart (w : Workshop) (r : Registry) (store : σ) (distinct : p.components ≠ q.components) :
    (∀ op : Operation, op.path? = some p →
      (op.run w r).known q = r.known q ∧ (op.run w r).tracks q = r.tracks q) ∧
    ∀ c d : Change, c.path = p → d.path = q →
      (r.follow w store d).drawn w store c = r.drawn w store c →
      (r.follow w store c).drawn w store d = r.drawn w store d →
      ∀ s, ((r.follow w store c).follow w store d).known s = ((r.follow w store d).follow w store c).known s := by
  refine ⟨fun op about => Operation.run_apart about distinct, ?_⟩
  rintro c d rfl rfl first second s
  exact known_follow_comm distinct first second s

end Store

/-! ## Pole -/

open Session (deskPath)

/-- A workshop that gives out every identifier twice. -/
def twiceWorkshop : Workshop := ⟨.standard, (Supply.counted 0).doubled⟩

def besidePath : Path := ⟨"/p/c.js"⟩

/-- A store in which two files have come up, each with an element without an identifier. -/
def pairStore : MemoryStore := (Session.deskStore "<b/>;").put besidePath "<i/>;"

/-- A registry that has not read either of them. -/
def blank : Registry := .new "data-uid" 0

/-- A registry that follows a change of a file of the pair. -/
def notice (r : Registry) (kind : ChangeKind) (p : Path) : Registry :=
  r.follow twiceWorkshop pairStore ⟨kind, p⟩

/-- Both files draw one identifier, and the same in either order; then the text of one of them is
replaced by one that is cut off. -/
theorem files_apart_pair :
    (∀ s, ((blank.notice .created deskPath).notice .changed besidePath).known s =
      ((blank.notice .changed besidePath).notice .created deskPath).known s) ∧
    (blank.drawn twiceWorkshop pairStore ⟨.created, deskPath⟩).length = 1 ∧
    (blank.drawn twiceWorkshop pairStore ⟨.changed, besidePath⟩).length = 1 ∧
    ∀ r : Registry, ((Operation.ingest deskPath "<b>;").run twiceWorkshop r).known besidePath =
      r.known besidePath := by
  have facts : deskPath.components ≠ besidePath.components ∧
      (blank.drawn twiceWorkshop pairStore ⟨.created, deskPath⟩).length = 1 ∧
      (blank.drawn twiceWorkshop pairStore ⟨.changed, besidePath⟩).length = 1 ∧
      (blank.notice .changed besidePath).drawn twiceWorkshop pairStore ⟨.created, deskPath⟩ =
        blank.drawn twiceWorkshop pairStore ⟨.created, deskPath⟩ ∧
      (blank.notice .created deskPath).drawn twiceWorkshop pairStore ⟨.changed, besidePath⟩ =
        blank.drawn twiceWorkshop pairStore ⟨.changed, besidePath⟩ := by
    decide +kernel
  obtain ⟨distinct, one, other, first, second⟩ := facts
  exact ⟨(files_apart twiceWorkshop blank pairStore distinct).2 _ _ rfl rfl first second, one, other,
    fun r => ((files_apart twiceWorkshop r pairStore distinct).1 (.ingest deskPath "<b>;") rfl).1⟩

end Registry

end LiveMarkup
