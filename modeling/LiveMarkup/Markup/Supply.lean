/-
# LiveMarkup.Markup.Supply -- where new identifiers come from

A supply is an endless sequence of texts that are never empty.  It may repeat itself,
but not for ever: for every list of identifiers in use it says how many draws are
enough to come to one that is not in the list.

`Supply.fresh` draws until it comes to a text not in use; `fresh_not_mem` and
`fresh_ne_empty` say what that gives.  `Supply.counted` makes texts by numbering.
-/

namespace LiveMarkup

set_option autoImplicit false

/-- An endless sequence of texts, which always comes to a new one. -/
structure Supply where
  draw : Nat → String
  draw_ne_empty : ∀ n, draw n ≠ ""
  /-- How many draws are enough. -/
  tries : List String → Nat → Nat
  exists_unused : ∀ used from_, ∃ i, i < tries used from_ ∧ draw (from_ + i) ∉ used

namespace Supply

/-- The first unused text among so many draws, and where the draws go on. -/
def search (s : Supply) (used : List String) : Nat → Nat → String × Nat
  | 0, n => (s.draw n, n + 1)
  | more + 1, n => if s.draw n ∈ used then search s used more (n + 1) else (s.draw n, n + 1)

/-- Draw a text that is not in use. -/
def fresh (s : Supply) (used : List String) (n : Nat) : String × Nat := s.search used (s.tries used n) n

theorem search_not_mem (s : Supply) (used : List String) (more n : Nat)
    (h : ∃ i, i < more ∧ s.draw (n + i) ∉ used) : (s.search used more n).1 ∉ used := by
  induction more generalizing n with
  | zero =>
    obtain ⟨i, hi, _⟩ := h
    exact absurd hi (Nat.not_lt_zero i)
  | succ more ih =>
    unfold search
    by_cases hn : s.draw n ∈ used
    · rw [if_pos hn]
      apply ih
      obtain ⟨i, hi, hd⟩ := h
      cases i with
      | zero => exact absurd hn hd
      | succ i => exact ⟨i, by omega, by rw [show n + 1 + i = n + (i + 1) by omega]; exact hd⟩
    · rw [if_neg hn]
      exact hn

/-- What is drawn is not in use. -/
theorem fresh_not_mem (s : Supply) (used : List String) (n : Nat) : (s.fresh used n).1 ∉ used :=
  s.search_not_mem used _ n (s.exists_unused used n)

theorem search_ne_empty (s : Supply) (used : List String) (more n : Nat) :
    (s.search used more n).1 ≠ "" := by
  induction more generalizing n with
  | zero => exact s.draw_ne_empty n
  | succ more ih =>
    unfold search
    split
    · exact ih (n + 1)
    · exact s.draw_ne_empty n

/-- What is drawn is not empty. -/
theorem fresh_ne_empty (s : Supply) (used : List String) (n : Nat) : (s.fresh used n).1 ≠ "" :=
  s.search_ne_empty used _ n

/-- Different members of a list are no more than the list is long. -/
theorem length_le_of_forall_mem {texts used : List String} (different : texts.Nodup)
    (h : ∀ x ∈ texts, x ∈ used) : texts.length ≤ used.length := by
  induction texts generalizing used with
  | nil => exact Nat.zero_le _
  | cons x rest ih =>
    have hx : x ∈ used := h x (by simp)
    have hrest := @ih (used.erase x) (List.nodup_cons.1 different).2 fun y hy =>
      (List.mem_erase_of_ne fun e : y = x => (List.nodup_cons.1 different).1 (e ▸ hy)).2 (h y (by simp [hy]))
    rw [List.length_erase_of_mem hx] at hrest
    have := List.length_pos_of_mem hx
    simp only [List.length_cons]
    omega

/-- Of more different texts than a list is long, one is not in the list. -/
theorem exists_not_mem (f : Nat → String) (hf : ∀ m n, f m = f n → m = n)
    (used : List String) (n : Nat) : ∃ i, i < used.length + 1 ∧ f (n + i) ∉ used := by
  refine Classical.byContradiction fun none => ?_
  have all : ∀ i, i < used.length + 1 → f (n + i) ∈ used := fun i hi =>
    Classical.byContradiction fun hm => none ⟨i, hi, hm⟩
  have different : ((List.range (used.length + 1)).map fun i => f (n + i)).Nodup := by
    rw [List.nodup_iff_pairwise_ne, List.pairwise_map]
    exact (List.nodup_iff_pairwise_ne.1 List.nodup_range).imp fun hab h => hab (by
      have := hf _ _ h
      omega)
  have := length_le_of_forall_mem different fun x hx => by
    obtain ⟨i, hi, rfl⟩ := List.mem_map.1 hx
    exact all i (List.mem_range.1 hi)
  rw [List.length_map, List.length_range] at this
  omega

/-- The characters of identifiers. -/
def alphabet : List Char :=
  "ABCDEFGHIJKLMNOPQRSTUVWXYZabcdefghijklmnopqrstuvwxyz0123456789-_".toList

/-- A number as a text of at least so many characters. -/
def numbered (width n : Nat) : List Char :=
  if _h : width = 0 ∧ n = 0 then []
  else numbered (width - 1) (n / 64) ++ [alphabet.getD (n % 64) 'A']
  termination_by width + n

def numberOf (cs : List Char) : Nat := cs.foldl (fun n c => 64 * n + alphabet.idxOf c) 0

theorem idxOf_alphabet : ∀ d : Fin 64, alphabet.idxOf (alphabet.getD d.val 'A') = d.val := by
  decide

theorem numberOf_numbered (width n : Nat) : numberOf (numbered width n) = n := by
  fun_induction numbered width n with
  | case1 width n h => exact h.2.symm
  | case2 width n h ih =>
    have := idxOf_alphabet ⟨n % 64, Nat.mod_lt _ (by decide)⟩
    simp only [numberOf, List.foldl_append, List.foldl_cons, List.foldl_nil] at ih ⊢
    rw [ih, this]
    show 64 * (n / 64) + n % 64 = n
    omega

theorem numbered_injective (width m n : Nat)
    (h : String.ofList (numbered width m) = String.ofList (numbered width n)) : m = n := by
  have := congrArg numberOf (String.ofList_injective h)
  rwa [numberOf_numbered, numberOf_numbered] at this

/-- The texts of ten characters or more that number upwards from a seed. -/
def counted (seed : Nat) : Supply where
  draw n := String.ofList (numbered 10 (seed + n))
  draw_ne_empty n h := by
    have : numbered 10 (seed + n) = [] := String.ofList_injective (h.trans rfl)
    rw [numbered] at this
    simp at this
  tries used _ := used.length + 1
  exists_unused used n :=
    exists_not_mem (fun n => String.ofList (numbered 10 (seed + n))) (fun a b h => by
      have := numbered_injective 10 _ _ h
      omega) used n

end Supply

end LiveMarkup
