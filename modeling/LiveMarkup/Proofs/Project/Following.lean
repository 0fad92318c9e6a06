import LiveMarkup.Proofs.Project.Action
/-
# LiveMarkup.Proofs.Project.Following -- what changes leave behind

When changes are followed one after the other against one store, what they leave of a file hangs
on the latest change of that file (`Change.latest?`): without one nothing happens to it
(`followAll_untouched`), and otherwise what comes after that one does not matter
(`followAll_split`).

Changes of a file that is passed over do nothing when nothing is known of it (`followAll_passed`).
-/

namespace LiveMarkup

set_option autoImplicit false

/-! ## The latest change of a file -/

namespace Change

/-- The latest change of a file, however its path is spelled. -/
def latest? (q : Path) (cs : List Change) : Option Change :=
  cs.foldl (fun found c => if q.components = c.path.components then some c else found) none

variable {q : Path} {c : Change} {cs : List Change}

theorem latest?_append_singleton : latest? q (cs ++ [c]) =
    if q.components = c.path.components then some c else latest? q cs := by
  simp only [latest?, List.foldl_append, List.foldl_cons, List.foldl_nil]

theorem latest?_eq_none_iff : latest? q cs = none ↔ ∀ c ∈ cs, q.components ≠ c.path.components := by
  induction cs using List.reverseRecOn with
  | nil => exact iff_of_true rfl nofun
  | append_singleton cs c ih =>
      rw [latest?_append_singleton, List.forall_mem_append, List.forall_mem_singleton, ← ih]
      split
      case isTrue same => simp [same]
      case isFalse other => simp [other]

/-- The changes after the latest one of a file are of other files. -/
theorem latest?_split (latest : latest? q cs = some c) : q.components = c.path.components ∧
    ∃ before after, cs = before ++ c :: after ∧ latest? q after = none := by
  induction cs using List.reverseRecOn with
  | nil => cases latest
  | append_singleton cs c' ih =>
      rw [latest?_append_singleton] at latest
      split at latest
      case isTrue same =>
        cases latest
        exact ⟨same, cs, [], rfl, rfl⟩
      case isFalse other =>
        obtain ⟨same, before, after, rfl, later⟩ := ih latest
        refine ⟨same, before, after ++ [c'], by simp, ?_⟩
        rw [latest?_append_singleton, if_neg other, later]

theorem mem_of_latest? (latest : latest? q cs = some c) : c ∈ cs := by
  obtain ⟨-, before, after, rfl, -⟩ := latest?_split latest
  exact List.mem_append_right _ List.mem_cons_self

/-- Changes of other files can be left out. -/
theorem latest?_filter {keep : Change → Bool} (kept : ∀ c, q.components = c.path.components → keep c = true) :
    latest? q (cs.filter keep) = latest? q cs := by
  induction cs using List.reverseRecOn with
  | nil => rfl
  | append_singleton cs c ih =>
      rw [List.filter_append, latest?_append_singleton]
      by_cases same : q.components = c.path.components
      · rw [List.filter_cons_of_pos (kept c same), List.filter_nil, latest?_append_singleton, if_pos same,
          if_pos same]
      · rw [if_neg same, ← ih]
        by_cases keeps : keep c = true
        · rw [List.filter_cons_of_pos keeps, List.filter_nil, latest?_append_singleton, if_neg same]
        · rw [List.filter_cons_of_neg keeps, List.filter_nil, List.append_nil]

end Change

/-! ## Following changes -/

namespace Registry

variable {w : Workshop} {r : Registry} {q : Path} {c : Change} {cs : List Change}
variable {σ : Type} [SourceStore σ] {store : σ}

theorem followAll_untouched (untold : Change.latest? q cs = none) :
    (r.followAll w store cs).known q = r.known q := by
  induction cs using List.reverseRecOn with
  | nil => rfl
  | append_singleton cs c ih =>
      rw [Change.latest?_append_singleton] at untold
      split at untold
      case isTrue => cases untold
      case isFalse other => rw [followAll_append_singleton, (follow_differs _ c).known q other, ih untold]

/-- What is known of a file is what its latest change made of it. -/
theorem followAll_split {before after : List Change} (later : Change.latest? q after = none) :
    (r.followAll w store (before ++ c :: after)).known q =
      ((r.followAll w store before).follow w store c).known q := by
  rw [followAll, List.foldl_append, List.foldl_cons]
  exact followAll_untouched later

/-! ## Files that are passed over -/

/-- Nothing is known of a file, its version apart. -/
def Knowledge.Blank (k : Knowledge) : Prop := k.entry = none ∧ k.diagnostic = none

theorem follow_passed (passed : q.components = c.path.components → r.passes store c.path = true)
    (blank : (r.known q).Blank) : (r.follow w store c).known q = r.known q := by
  rw [known_follow]
  split
  case isFalse => rfl
  case isTrue same =>
    have visit : r.visit? store c.path = none := if_pos (passed same)
    cases kind : c.kind <;> simp only [response?, kind, visit, Option.elim_none, Option.elim_some]
    simp only [Action.effect, ← blank.1, ← blank.2]

/-- Nothing comes to be known of a file whose changes are all passed over. -/
theorem followAll_passed
    (passed : ∀ c ∈ cs, q.components = c.path.components → r.passes store c.path = true)
    (blank : (r.known q).Blank) : (r.followAll w store cs).known q = r.known q := by
  induction cs using List.reverseRecOn with
  | nil => rfl
  | append_singleton cs c ih =>
      obtain ⟨earlier, last⟩ := List.forall_mem_append.mp passed
      rw [followAll_append_singleton, follow_passed _ (by rwa [ih earlier]), ih earlier]
      intro same
      rw [passes_congr (followAll_tracks cs c.path)]
      exact last c List.mem_cons_self same

end Registry

end LiveMarkup
