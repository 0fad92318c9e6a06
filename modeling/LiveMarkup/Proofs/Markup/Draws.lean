import LiveMarkup.Proofs.Markup.Reidentification
import Mathlib.Data.List.Infix
import Mathlib.Data.Nat.Find
/-
# LiveMarkup.Proofs.Markup.Draws -- identification depends on what is drawn, not on the supply

Two walks through one module may have different supplies, or one supply at different places.
As long as both draw the same identifiers they stay abreast (`Walk.Abreast`): they enter the
same nodes and leave the same tree.

What is drawn later may hang on what was drawn before, so it cannot be said beforehand which
part of a walk draws what.  The induction compares instead with one list that what either walk
has drawn begins: walks only ever add to what they have drawn (`Visits.assigned`), so of two
that come to the same end every part has drawn the same (`Tree.identify_abreast`).
`Module.identify_congr` is that for whole modules.

That a supply has no end is no condition on what is drawn.  A new identifier is the first draw
that is not in use, whatever comes behind it (`Supply.fresh_congr`), and any finitely many
texts that are not empty are the first draws of some supply (`Supply.startingWith_draw`).
-/

namespace LiveMarkup.Supply

set_option autoImplicit false

/-! ## Finitely many draws -/

theorem search_eq (s : Supply) {used : List String} {more n k : Nat} (enough : k ≤ more)
    (taken : ∀ i < k, s.draw (n + i) ∈ used) (free : s.draw (n + k) ∉ used) :
    s.search used more n = (s.draw (n + k), n + k + 1) := by
  induction more generalizing n k with
  | zero =>
      obtain rfl : k = 0 := Nat.le_zero.mp enough
      rfl
  | succ more ih =>
      unfold search
      cases k with
      | zero => exact if_neg free
      | succ k =>
          have later : ∀ i, n + 1 + i = n + (i + 1) := fun i => by omega
          have rest := ih (n := n + 1) (k := k) (by omega)
            (fun i early => by rw [later]; exact taken (i + 1) (by omega)) (by rwa [later])
          have here : s.draw n ∈ used := taken 0 (Nat.succ_pos k)
          rw [if_pos here, rest, later]

/-- What is new is the first draw that is not in use, however long was searched. -/
theorem fresh_eq (s : Supply) {used : List String} {n k : Nat} (taken : ∀ i < k, s.draw (n + i) ∈ used)
    (free : s.draw (n + k) ∉ used) : s.fresh used n = (s.draw (n + k), n + k + 1) := by
  obtain ⟨i, few, unused⟩ := s.exists_unused used n
  have first : k ≤ i := Nat.le_of_not_lt fun early => unused (taken i early)
  exact s.search_eq (by omega) taken free

/-- Which draw is taken hangs on the draws up to it only. -/
theorem fresh_congr {s s' : Supply} {used : List String} {n : Nat}
    (same : ∀ i, n ≤ i → i < (s.fresh used n).2 → s'.draw i = s.draw i) :
    s'.fresh used n = s.fresh used n := by
  classical
  have some : ∃ k, s.draw (n + k) ∉ used := (s.exists_unused used n).imp fun _ both => both.2
  obtain ⟨k, free, first⟩ : ∃ k, s.draw (n + k) ∉ used ∧ ∀ i < k, s.draw (n + i) ∈ used :=
    ⟨Nat.find some, Nat.find_spec some, fun i early => not_not.mp (Nat.find_min some early)⟩
  have drawn := s.fresh_eq first free
  have alike : ∀ i ≤ k, s'.draw (n + i) = s.draw (n + i) := by
    intro i upTo
    apply same (n + i) (Nat.le_add_right n i)
    rw [drawn]
    show n + i < n + k + 1
    omega
  rw [drawn, ← alike k (Nat.le_refl k)]
  apply s'.fresh_eq
  · intro i early
    rw [alike i (Nat.le_of_lt early)]
    exact first i early
  · rw [alike k (Nat.le_refl k)]
    exact free

/-- The supply that starts with some draws and goes on with numbered texts. -/
def startingWith (draws : List String) (sound : ∀ d ∈ draws, d ≠ "") : Supply where
  draw n := if h : n < draws.length then draws[n] else (counted 0).draw n
  draw_ne_empty n := by
    split
    · exact sound _ (List.getElem_mem _)
    · exact (counted 0).draw_ne_empty n
  tries used _ := draws.length + (used.length + 1)
  exists_unused used n := by
    obtain ⟨i, few, unused⟩ := (counted 0).exists_unused used (n + draws.length)
    have few : i < used.length + 1 := few
    refine ⟨draws.length + i, by omega, ?_⟩
    rw [dif_neg (by omega), ← Nat.add_assoc]
    exact unused

/-- Any finitely many texts that are not empty are the first draws of a supply. -/
theorem startingWith_draw {draws : List String} (sound : ∀ d ∈ draws, d ≠ "") {n : Nat}
    (early : n < draws.length) : (startingWith draws sound).draw n = draws[n] := dif_pos early

end LiveMarkup.Supply

namespace LiveMarkup.Syntax

/-- Two walks that have come past the same elements and drawn the same identifiers. -/
structure Walk.Abreast (w w' : Walk) : Prop where
  arena : w.arena = w'.arena
  assigned : w.assigned = w'.assigned

variable {supply supply' : Supply} {name : String}

/-! ## What is drawn -/

theorem chooseIdentifier_assigned (supply : Supply) (name : String) (given : List (Attribute Tree)) (w : Walk) :
    w.assigned <+: (chooseIdentifier supply name given w).2.2.assigned := by
  unfold chooseIdentifier
  split
  · exact List.prefix_refl _
  · exact List.prefix_append _ _

/-- A walk adds to what has been drawn. -/
theorem Visits.assigned {around : Option Nat} {w w' : Walk} {es : List Markup}
    (visits : Visits supply name around w es w') : w.assigned <+: w'.assigned := by
  induction visits with
  | done around w => exact List.prefix_refl _
  | enter given shown inside rest ihInside ihRest =>
      exact (chooseIdentifier_assigned supply name given _).trans (ihInside.trans ihRest)

/-- Two beginnings of one list that are one longer than the same list end in the same way. -/
theorem eq_of_append_singleton_prefix {xs ys all : List String} {x y : String} (same : xs = ys)
    (first : xs ++ [x] <+: all) (second : ys ++ [y] <+: all) : x = y := by
  subst same
  have short : (xs ++ [x]).length = (xs ++ [y]).length := by simp
  have equal := (List.prefix_of_prefix_length_le first second short.le).eq_of_length short
  exact List.head_eq_of_cons_eq (List.append_cancel_left equal)

/-- Walks that are abreast choose the same for an element when they draw the same. -/
theorem chooseIdentifier_abreast {w w' : Walk} (abreast : w.Abreast w') (given : List (Attribute Tree))
    {all : List String} (draws : (chooseIdentifier supply name given w).2.2.assigned <+: all)
    (draws' : (chooseIdentifier supply' name given w').2.2.assigned <+: all) :
    (chooseIdentifier supply name given w).1 = (chooseIdentifier supply' name given w').1 ∧
    (chooseIdentifier supply name given w).2.1 = (chooseIdentifier supply' name given w').2.1 ∧
    (chooseIdentifier supply name given w).2.2.Abreast (chooseIdentifier supply' name given w').2.2 := by
  unfold chooseIdentifier at draws draws' ⊢
  rw [← abreast.arena] at draws' ⊢
  cases kept : keptIdentifier? name w.arena.uids given with
  | some uid => exact ⟨rfl, rfl, abreast⟩
  | none =>
      simp only [kept] at draws draws'
      have same := eq_of_append_singleton_prefix abreast.assigned draws draws'
      exact ⟨same, congrArg some same, rfl, by simp only [abreast.assigned, same]⟩

theorem Walk.Abreast.enter {w w' : Walk} {given : List (Attribute Tree)} (around : Option Nat) (e : Markup)
    (uid : (chooseIdentifier supply name given w).1 = (chooseIdentifier supply' name given w').1)
    (abreast : (chooseIdentifier supply name given w).2.2.Abreast (chooseIdentifier supply' name given w').2.2) :
    (w.enter supply name around given e).Abreast (w'.enter supply' name around given e) :=
  ⟨by simp only [Walk.enter, abreast.arena, uid], abreast.assigned⟩

/-! ## Walks that stay abreast -/

/-- Two walks that have come to the same and have left the same behind. -/
abbrev Agree {α : Type} (r r' : α × Walk) : Prop := r.1 = r'.1 ∧ r.2.Abreast r'.2

variable (supply supply' name)

mutual

theorem Tree.identify_abreast : ∀ (t : Tree) (around : Option Nat) {w w' : Walk} {all : List String},
    w.Abreast w' → (t.identify supply name around w).2.assigned <+: all →
    (t.identify supply' name around w').2.assigned <+: all →
    Agree (t.identify supply name around w) (t.identify supply' name around w')
  | .node kind parts, around, w, w', all, abreast, draws, draws' => by
      obtain ⟨same, after⟩ := identifyOf_abreast parts around abreast draws draws'
      simp only [Tree.identify, same]
      exact ⟨rfl, after⟩
  | .element ⟨tagName, attributes, typeArguments, selfClosing, children, closing, lines⟩, around, w, w', all,
      abreast, draws, draws' => by
      rw [Tree.identify_element] at draws draws' ⊢
      rw [Tree.identify_element]
      dsimp only at draws draws' ⊢
      -- what each part has drawn is a beginning of what the parts behind it have drawn
      have upToOption := (identifyOf_visits supply name children _ _).assigned.trans draws
      have upToOption' := (identifyOf_visits supply' name children _ _).assigned.trans draws'
      have upToAttributes := (identifyOption_visits supply name typeArguments _ _).assigned.trans upToOption
      have upToAttributes' := (identifyOption_visits supply' name typeArguments _ _).assigned.trans upToOption'
      have upToHere := (identifyAttributes_visits supply name attributes _ _ _).assigned.trans upToAttributes
      have upToHere' := (identifyAttributes_visits supply' name attributes _ _ _).assigned.trans upToAttributes'
      obtain ⟨uid, new, chosen⟩ := chooseIdentifier_abreast abreast attributes upToHere upToHere'
      have entered := Walk.Abreast.enter around
        ⟨tagName, attributes, typeArguments, selfClosing, children, closing, lines⟩ uid chosen
      rw [← new, ← chosen.arena] at draws' upToOption' upToAttributes' ⊢
      have as := identifyAttributes_abreast attributes _ _ entered upToAttributes upToAttributes'
      have ts := identifyOption_abreast typeArguments _ as.2 upToOption upToOption'
      have cs := identifyOf_abreast children _ ts.2 draws draws'
      exact ⟨by simp only [as.1, ts.1, cs.1], cs.2⟩

theorem identifyOf_abreast : ∀ (ts : List Tree) (around : Option Nat) {w w' : Walk} {all : List String},
    w.Abreast w' → (identifyOf supply name around ts w).2.assigned <+: all →
    (identifyOf supply' name around ts w').2.assigned <+: all →
    Agree (identifyOf supply name around ts w) (identifyOf supply' name around ts w')
  | [], _, _, _, _, abreast, _, _ => ⟨rfl, abreast⟩
  | t :: ts, around, w, w', all, abreast, draws, draws' => by
      have first := t.identify_abreast around abreast
        ((identifyOf_visits supply name ts _ _).assigned.trans draws)
        ((identifyOf_visits supply' name ts _ _).assigned.trans draws')
      have rest := identifyOf_abreast ts around first.2 draws draws'
      exact ⟨by simp only [identifyOf, first.1, rest.1], rest.2⟩

theorem identifyAttributes_abreast : ∀ (as : List (Attribute Tree)) (around : Option Nat)
    (new : Option String) {w w' : Walk} {all : List String},
    w.Abreast w' → (identifyAttributes supply name around new as w).2.assigned <+: all →
    (identifyAttributes supply' name around new as w').2.assigned <+: all →
    Agree (identifyAttributes supply name around new as w) (identifyAttributes supply' name around new as w')
  | [], _, none, _, _, _, abreast, _, _ => ⟨rfl, abreast⟩
  | [], _, some _, _, _, _, abreast, _, _ => ⟨rfl, abreast⟩
  | a :: as, around, none, w, w', all, abreast, draws, draws' => by
      have first := identifyIn_abreast a around abreast
        ((identifyAttributes_visits supply name as _ _ _).assigned.trans draws)
        ((identifyAttributes_visits supply' name as _ _ _).assigned.trans draws')
      have rest := identifyAttributes_abreast as around none first.2 draws draws'
      exact ⟨by simp only [identifyAttributes, first.1, rest.1], rest.2⟩
  | a :: as, around, some uid, w, w', all, abreast, draws, draws' => by
      simp only [identifyAttributes] at draws draws' ⊢
      split at draws
      · rename_i named
        rw [if_pos named] at draws' ⊢
        rw [if_pos named]
        have rest := identifyAttributes_abreast as around none abreast draws draws'
        exact ⟨by simp only [rest.1], rest.2⟩
      · rename_i other
        rw [if_neg other] at draws' ⊢
        rw [if_neg other]
        have first := identifyIn_abreast a around abreast
          ((identifyAttributes_visits supply name as _ _ _).assigned.trans draws)
          ((identifyAttributes_visits supply' name as _ _ _).assigned.trans draws')
        have rest := identifyAttributes_abreast as around (some uid) first.2 draws draws'
        exact ⟨by simp only [first.1, rest.1], rest.2⟩

theorem identifyIn_abreast : ∀ (a : Attribute Tree) (around : Option Nat) {w w' : Walk} {all : List String},
    w.Abreast w' → (identifyIn supply name around a w).2.assigned <+: all →
    (identifyIn supply' name around a w').2.assigned <+: all →
    Agree (identifyIn supply name around a w) (identifyIn supply' name around a w')
  | .named n value, around, _, _, _, abreast, draws, draws' => by
      have inside := identifyOption_abreast value around abreast draws draws'
      exact ⟨by simp only [identifyIn, inside.1], inside.2⟩
  | .spread value, around, _, _, _, abreast, draws, draws' => by
      have inside := value.identify_abreast around abreast draws draws'
      exact ⟨by simp only [identifyIn, inside.1], inside.2⟩

theorem identifyOption_abreast : ∀ (t : Option Tree) (around : Option Nat) {w w' : Walk} {all : List String},
    w.Abreast w' → (identifyOption supply name around t w).2.assigned <+: all →
    (identifyOption supply' name around t w').2.assigned <+: all →
    Agree (identifyOption supply name around t w) (identifyOption supply' name around t w')
  | none, _, _, _, _, abreast, _, _ => ⟨rfl, abreast⟩
  | some t, around, _, _, _, abreast, draws, draws' => by
      have inside := t.identify_abreast around abreast draws draws'
      exact ⟨by simp only [identifyOption, inside.1], inside.2⟩

end

/-- Identification from supplies that draw the same identifiers gives the same tree and arena. -/
theorem Module.identify_congr (m : Module) {next next' : Nat}
    (drawn : (m.identify supply name next).assigned = (m.identify supply' name next').assigned) :
    (m.identify supply name next).content = (m.identify supply' name next').content ∧
    (m.identify supply name next).arena = (m.identify supply' name next').arena := by
  have same : (identifyOf supply name none m.items ⟨.empty, [], next⟩).2.assigned =
      (identifyOf supply' name none m.items ⟨.empty, [], next'⟩).2.assigned := drawn
  have start : Walk.Abreast ⟨.empty, [], next⟩ ⟨.empty, [], next'⟩ := ⟨rfl, rfl⟩
  have agree := identifyOf_abreast supply supply' name m.items none start (same ▸ List.prefix_refl _)
    (List.prefix_refl _)
  exact ⟨by simp only [Module.identify, agree.1], agree.2.arena⟩

end LiveMarkup.Syntax
