import LiveMarkup.Path.Normal
import Mathlib.Data.List.Infix
import Mathlib.Data.List.SplitBy
import Mathlib.Data.Nat.Log
/-
# LiveMarkup.Proofs.Path.Normal -- the normal spelling of a path

`halveSlashes` acts on every maximal run of slashes by itself: one of `n + 1` slashes becomes one of
`n / 2 + 1` (`halveSlashes_run`), and everything else stays.  So the longest run tells how many
rounds there are (`endsAfter`): as many as it takes to halve its length, rounding up, until it is
one.  What the rounds leave has one slash for each run (`squeezed`), since a round neither loses
a run nor tears one (`squeezed_halveSlashes`).

A spelling is normal when it has no backslash and no slashes that meet.  It has no scheme then,
since a scheme ends in two slashes, so these spellings are the ones that are left as they are
(`normalizedChars_eq_self_iff`).
-/

namespace LiveMarkup.Path

set_option autoImplicit false

variable {cs rest last : List Char} {c : Char}

/-! ## Runs of slashes -/

/-- The text cut into its maximal runs of slashes, with every other character alone. -/
def slashRuns (cs : List Char) : List (List Char) := cs.splitBy fun c d => c == '/' && d == '/'

/-- Every maximal run of slashes as one slash. -/
def squeezed (cs : List Char) : List Char :=
  (slashRuns cs).flatMap fun run => if '/' ∈ run then ['/'] else run

/-- The length of the longest run of slashes. -/
def longestRun (cs : List Char) : Nat := ((slashRuns cs).map (·.count '/')).foldr max 0

/-- A text is built from its end by other characters and by runs of slashes that do not go on. -/
@[elab_as_elim] theorem slashes_induction {motive : List Char → Prop} (nil : motive [])
    (run : ∀ n rest, rest.head? ≠ some '/' → motive rest → motive (List.replicate (n + 1) '/' ++ rest))
    (other : ∀ c rest, c ≠ '/' → motive rest → motive (c :: rest)) (cs : List Char) : motive cs := by
  -- a run is known in full only at its first slash, so runs in front of the text are carried along
  suffices both : motive cs ∧ ∀ n, motive (List.replicate (n + 1) '/' ++ cs) from both.1
  induction cs with
  | nil => exact ⟨nil, fun n => run n [] nofun nil⟩
  | cons c rest ih =>
      by_cases slash : c = '/'
      · subst slash
        refine ⟨ih.2 0, fun n => ?_⟩
        have longer := ih.2 (n + 1)
        rwa [List.replicate_succ', List.append_assoc, List.singleton_append] at longer
      · have here := other c rest slash ih.1
        exact ⟨here, fun n => run n (c :: rest) (by simpa using slash) here⟩

theorem slashRuns_run (n : Nat) (ends : rest.head? ≠ some '/') :
    slashRuns (List.replicate (n + 1) '/' ++ rest) = List.replicate (n + 1) '/' :: slashRuns rest := by
  have chained : (List.replicate (n + 1) '/').IsChain fun c d => (c == '/' && d == '/') = true :=
    List.isChain_replicate_of_rel _ rfl
  rw [slashRuns, List.splitBy_append, List.splitBy_of_isChain (by simp) chained]
  · rfl
  · rintro c - d first
    have other : d ≠ '/' := fun same => ends (same ▸ Option.mem_def.mp first)
    simp [other]

theorem slashRuns_cons (other : c ≠ '/') : slashRuns (c :: rest) = [c] :: slashRuns rest :=
  List.splitBy_append (l := [c]) (m := rest) (by simp [other])

theorem longestRun_run (n : Nat) (ends : rest.head? ≠ some '/') :
    longestRun (List.replicate (n + 1) '/' ++ rest) = max (n + 1) (longestRun rest) := by
  rw [longestRun, slashRuns_run n ends, List.map_cons, List.foldr_cons, List.count_replicate_self]
  rfl

theorem longestRun_cons (other : c ≠ '/') : longestRun (c :: rest) = longestRun rest := by
  have none : List.count '/' [c] = 0 := List.count_eq_zero.mpr (by simpa using other.symm)
  rw [longestRun, slashRuns_cons other, List.map_cons, List.foldr_cons, none, Nat.zero_max]
  rfl

theorem longestRun_le_length (cs : List Char) : longestRun cs ≤ cs.length := by
  induction cs using slashes_induction with
  | nil => exact Nat.le_refl 0
  | run n rest ends ih =>
      rw [longestRun_run n ends, List.length_append, List.length_replicate]
      omega
  | other c rest other ih =>
      rw [longestRun_cons other, List.length_cons]
      omega

theorem squeezed_run (n : Nat) (ends : rest.head? ≠ some '/') :
    squeezed (List.replicate (n + 1) '/' ++ rest) = '/' :: squeezed rest := by
  rw [squeezed, slashRuns_run n ends, List.flatMap_cons, if_pos (by simp)]
  rfl

theorem squeezed_cons (other : c ≠ '/') : squeezed (c :: rest) = c :: squeezed rest := by
  rw [squeezed, slashRuns_cons other, List.flatMap_cons, if_neg (by simpa using other.symm)]
  rfl

theorem squeezed_subset (cs : List Char) : squeezed cs ⊆ cs := by
  induction cs using slashes_induction with
  | nil => exact List.Subset.refl _
  | run n rest ends ih =>
      rw [squeezed_run n ends, List.replicate_succ, List.cons_append]
      exact List.cons_subset_cons _ (List.subset_append_of_subset_right _ ih)
  | other c rest other ih =>
      rw [squeezed_cons other]
      exact List.cons_subset_cons c ih

theorem slashesMeet_cons (other : c ≠ '/') : slashesMeet (c :: rest) = slashesMeet rest := by
  rw [slashesMeet]
  exact fun _ slash => absurd slash other

theorem slashesMeet_slash (ends : rest.head? ≠ some '/') : slashesMeet ('/' :: rest) = slashesMeet rest := by
  rw [slashesMeet]
  rintro more - rfl
  exact ends rfl

/-- Slashes meet just where a run has two of them. -/
theorem slashesMeet_iff : slashesMeet cs = true ↔ 2 ≤ longestRun cs := by
  induction cs using slashes_induction with
  | nil => decide
  | run n rest ends ih =>
      rw [longestRun_run n ends]
      cases n with
      | zero =>
          show slashesMeet ('/' :: rest) = true ↔ _
          rw [slashesMeet_slash ends, ih]
          omega
      | succ n =>
          have meet : slashesMeet (List.replicate (n + 1 + 1) '/' ++ rest) = true := rfl
          simp only [meet, true_iff]
          omega
  | other c rest other ih => rw [slashesMeet_cons other, longestRun_cons other, ih]

/-- Where no slashes meet every run is a slash. -/
theorem squeezed_of_apart (apart : slashesMeet cs = false) : squeezed cs = cs := by
  rw [Bool.eq_false_iff, ne_eq, slashesMeet_iff] at apart
  induction cs using slashes_induction with
  | nil => rfl
  | run n rest ends ih =>
      rw [longestRun_run n ends] at apart
      obtain rfl : n = 0 := by omega
      rw [squeezed_run 0 ends, ih (by omega)]
      rfl
  | other c rest other ih =>
      rw [longestRun_cons other] at apart
      rw [squeezed_cons other, ih apart]

/-! ## One round -/

/-- A round halves a run, rounding up. -/
theorem halveSlashes_run (ends : rest.head? ≠ some '/') : ∀ n : Nat,
    halveSlashes (List.replicate (n + 1) '/' ++ rest) = List.replicate (n / 2 + 1) '/' ++ halveSlashes rest
  | 0 => by
      show halveSlashes ('/' :: rest) = '/' :: halveSlashes rest
      rw [halveSlashes]
      rintro more - rfl
      exact ends rfl
  | 1 => rfl
  | n + 2 => by
      have rounded : (n + 2) / 2 = n / 2 + 1 := by omega
      calc halveSlashes (List.replicate (n + 2 + 1) '/' ++ rest)
        _ = '/' :: halveSlashes (List.replicate (n + 1) '/' ++ rest) := rfl
        _ = '/' :: (List.replicate (n / 2 + 1) '/' ++ halveSlashes rest) := by rw [halveSlashes_run ends n]
        _ = List.replicate ((n + 2) / 2 + 1) '/' ++ halveSlashes rest := by rw [rounded]; rfl

/-- One round is not enough for three slashes. -/
example : halveSlashes "a///b".toList = "a//b".toList := by decide

theorem halveSlashes_cons (other : c ≠ '/') : halveSlashes (c :: rest) = c :: halveSlashes rest := by
  rw [halveSlashes]
  exact fun _ slash => absurd slash other

theorem head?_halveSlashes (cs : List Char) : (halveSlashes cs).head? = cs.head? := by
  fun_cases halveSlashes cs <;> rfl

theorem longestRun_halveSlashes (cs : List Char) : longestRun (halveSlashes cs) = (longestRun cs + 1) / 2 := by
  induction cs using slashes_induction with
  | nil => rfl
  | run n rest ends ih =>
      have ends' : (halveSlashes rest).head? ≠ some '/' := by rwa [head?_halveSlashes]
      rw [halveSlashes_run ends, longestRun_run _ ends', longestRun_run n ends, ih]
      omega
  | other c rest other ih => rw [halveSlashes_cons other, longestRun_cons other, longestRun_cons other, ih]

/-- No run is lost in a round, and none is torn. -/
theorem squeezed_halveSlashes (cs : List Char) : squeezed (halveSlashes cs) = squeezed cs := by
  induction cs using slashes_induction with
  | nil => rfl
  | run n rest ends ih =>
      have ends' : (halveSlashes rest).head? ≠ some '/' := by rwa [head?_halveSlashes]
      rw [halveSlashes_run ends, squeezed_run _ ends', squeezed_run n ends, ih]
  | other c rest other ih => rw [halveSlashes_cons other, squeezed_cons other, squeezed_cons other, ih]

/-! ## All rounds -/

/-- The rounds that start at a text are over after so many of them and leave the last text: as
long as slashes meet another round is made, and no bound is set on them. -/
inductive EndsAfter : Nat → List Char → List Char → Prop
  | done {cs : List Char} (apart : slashesMeet cs = false) : EndsAfter 0 cs cs
  | round {n : Nat} {cs last : List Char} (meet : slashesMeet cs = true)
      (others : EndsAfter n (halveSlashes cs) last) : EndsAfter (n + 1) cs last

theorem EndsAfter.apart {n : Nat} (ends : EndsAfter n cs last) : slashesMeet last = false := by
  induction ends with
  | done apart => exact apart
  | round _ _ ih => exact ih

/-- A bound that is not too low plays no part. -/
theorem EndsAfter.halveWhile_eq {n bound : Nat} (ends : EndsAfter n cs last) (enough : n ≤ bound) :
    halveWhile bound cs = last := by
  induction ends generalizing bound with
  | @done cs apart =>
      cases bound with
      | zero => rfl
      | succ bound => rw [halveWhile, apart, if_neg Bool.false_ne_true]
  | round meet _ ih =>
      obtain ⟨bound, rfl⟩ := Nat.exists_eq_succ_of_ne_zero (Nat.ne_zero_of_lt enough)
      rw [halveWhile, if_pos meet, ih (Nat.le_of_succ_le_succ enough)]

/-- The longest run is halved until it is a slash, and by then all runs are. -/
theorem endsAfter (cs : List Char) : EndsAfter (Nat.clog 2 (longestRun cs)) cs (squeezed cs) := by
  induction longest : longestRun cs using Nat.strong_induction_on generalizing cs with
  | _ n ih =>
      subst longest
      cases meet : slashesMeet cs with
      | false =>
          have short : longestRun cs ≤ 1 := by
            rw [Bool.eq_false_iff, ne_eq, slashesMeet_iff] at meet
            omega
          rw [Nat.clog_of_right_le_one short, squeezed_of_apart meet]
          exact .done meet
      | true =>
          have long := slashesMeet_iff.mp meet
          have others := ih _ (by omega) (halveSlashes cs) (longestRun_halveSlashes cs)
          rw [squeezed_halveSlashes] at others
          rw [Nat.clog_of_two_le Nat.one_lt_two long]
          exact .round meet others

theorem rounds_le_length (cs : List Char) : Nat.clog 2 (longestRun cs) ≤ cs.length :=
  calc Nat.clog 2 (longestRun cs)
    _ ≤ longestRun cs := Nat.clog_le_of_le_pow Nat.lt_two_pow_self.le
    _ ≤ cs.length := longestRun_le_length cs

theorem singleSlashes_eq (cs : List Char) : singleSlashes cs = squeezed cs :=
  (endsAfter cs).halveWhile_eq (rounds_le_length cs)

/-! ## The scheme -/

/-- What is behind one leading `file://`, or the whole text when it starts in another way. -/
def behindScheme (cs : List Char) : List Char :=
  if "file://".toList.isPrefixOf cs then cs.drop "file://".toList.length else cs

theorem behindScheme_scheme (rest : List Char) : behindScheme ("file://".toList ++ rest) = rest := by
  rw [behindScheme, if_pos (List.isPrefixOf_iff_prefix.mpr (List.prefix_append _ rest)), List.drop_left]

theorem behindScheme_other (other : ¬ "file://".toList <+: cs) : behindScheme cs = cs := by
  rw [behindScheme, if_neg fun starts => other (List.isPrefixOf_iff_prefix.mp starts)]

/-- The slash of the root that is put back is one that was behind the scheme. -/
theorem withoutScheme_eq (cs : List Char) : withoutScheme cs = behindScheme cs := by
  unfold withoutScheme
  split
  · rename_i rest rooted
    obtain rfl := List.append_eq_of_isPrefixOf?_eq_some rooted
    exact (behindScheme_scheme ('/' :: rest)).symm
  · cases found : "file://".toList.isPrefixOf? cs with
    | some rest =>
        obtain rfl := List.append_eq_of_isPrefixOf?_eq_some found
        exact (behindScheme_scheme rest).symm
    | none =>
        have other : ¬ "file://".toList <+: cs := by
          rintro ⟨rest, whole⟩
          cases found.symm.trans (List.isPrefixOf?_eq_some_iff_append_eq.mpr whole)
        exact (behindScheme_other other).symm

/-! ## Normal spellings -/

/-- A spelling on which nothing is left to do. -/
structure IsNormal (cs : List Char) : Prop where
  forward : '\\' ∉ cs
  apart : slashesMeet cs = false

theorem normalizedChars_eq (cs : List Char) :
    normalizedChars cs = squeezed (behindScheme (forwardSlashes cs)) := by
  rw [normalizedChars, singleSlashes_eq, withoutScheme_eq]

theorem behindScheme_subset (cs : List Char) : behindScheme cs ⊆ cs := by
  unfold behindScheme
  split
  · exact List.drop_subset _ cs
  · exact List.Subset.refl cs

theorem not_mem_forwardSlashes (cs : List Char) : '\\' ∉ forwardSlashes cs := by
  rw [forwardSlashes, List.mem_map]
  rintro ⟨c, -, same⟩
  by_cases back : c = '\\'
  · simp [back] at same
  · exact back (by rwa [if_neg back] at same)

theorem normalizedChars_isNormal (cs : List Char) : IsNormal (normalizedChars cs) where
  forward := by
    rw [normalizedChars_eq]
    intro back
    exact not_mem_forwardSlashes cs (behindScheme_subset _ (squeezed_subset _ back))
  apart := by
    rw [normalizedChars_eq]
    exact (endsAfter _).apart

/-- A normal spelling has no scheme, since two slashes meet at its end. -/
theorem IsNormal.not_scheme (normal : IsNormal cs) : ¬ "file://".toList <+: cs := by
  rintro ⟨rest, rfl⟩
  have meet : slashesMeet ("file://".toList ++ rest) = true := rfl
  exact Bool.false_ne_true (normal.apart.symm.trans meet)

theorem IsNormal.forwardSlashes_eq (normal : IsNormal cs) : forwardSlashes cs = cs := by
  have kept : ∀ c ∈ cs, (if c = '\\' then '/' else c) = id c := by
    intro c member
    have other : c ≠ '\\' := fun back => normal.forward (back ▸ member)
    exact if_neg other
  rw [forwardSlashes, List.map_congr_left kept, List.map_id]

theorem IsNormal.normalizedChars_eq (normal : IsNormal cs) : normalizedChars cs = cs := by
  rw [Path.normalizedChars_eq, normal.forwardSlashes_eq, behindScheme_other normal.not_scheme,
    squeezed_of_apart normal.apart]

/-- Normal spellings are the ones that are left as they are. -/
theorem normalizedChars_eq_self_iff : normalizedChars cs = cs ↔ IsNormal cs :=
  ⟨fun same => same ▸ normalizedChars_isNormal cs, IsNormal.normalizedChars_eq⟩

/-- **The normal spelling of a path.**  The rounds in which slashes that meet are halved come to an
end, and the longest run tells how many there are.  What they leave is the text with forward
slashes, without one leading `file://`, and with one slash in place of every maximal run.  It is
a normal form: spelling it again changes nothing. -/
theorem normalized_normal_form (s : String) :
    EndsAfter (Nat.clog 2 (longestRun (withoutScheme (forwardSlashes s.toList))))
      (withoutScheme (forwardSlashes s.toList)) (normalized s).toList ∧
    (normalized s).toList = squeezed (behindScheme (s.toList.map fun c => if c = '\\' then '/' else c)) ∧
    normalized (normalized s) = normalized s := by
  have spelled : (normalized s).toList = normalizedChars s.toList := String.toList_ofList
  refine ⟨?_, ?_, ?_⟩
  · rw [spelled, normalizedChars, singleSlashes_eq]
    exact endsAfter _
  · rw [spelled, normalizedChars_eq, forwardSlashes]
  · have settled := normalizedChars_eq_self_iff.mpr (normalizedChars_isNormal s.toList)
    rw [normalized, spelled, settled, normalized]

/-- A scheme that only stands at the start once the first one is gone stays, less a slash. -/
example : normalized "file://file:\\\\\\a///b\\" = "file:/a/b/" := by decide

end LiveMarkup.Path
