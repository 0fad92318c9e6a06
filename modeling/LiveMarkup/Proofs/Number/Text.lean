import LiveMarkup.Number.Text
/-
# LiveMarkup.Proofs.Number.Text -- the characters that numbers are written with

Every written form of a number is put together from digits, signs, points, exponent marks and a few
words, so there is nothing but printed ASCII characters in it (`graphic_dataText`,
`graphic_styleText`).  No such character is white space, for data or for a script.
-/

namespace LiveMarkup.Double

set_option autoImplicit false

/-- Is a character a printed one of the ASCII range? -/
def isGraphic (c : Char) : Bool := Nat.blt 0x20 c.toNat && Nat.blt c.toNat 0x7f

def Graphic (cs : List Char) : Prop := ∀ c ∈ cs, isGraphic c = true

instance (cs : List Char) : Decidable (Graphic cs) := List.decidableBAll (isGraphic · = true) cs

variable {c : Char} {cs ds : List Char}

theorem isGraphic_iff : isGraphic c = true ↔ 0x20 < c.toNat ∧ c.toNat < 0x7f := by
  simp [isGraphic, Nat.blt_eq]

theorem Graphic.append (first : Graphic cs) (second : Graphic ds) : Graphic (cs ++ ds) :=
  fun c member => (List.mem_append.mp member).elim (first c) (second c)

theorem Graphic.cons (first : isGraphic c = true) (rest : Graphic cs) : Graphic (c :: cs) :=
  List.forall_mem_cons.mpr ⟨first, rest⟩

theorem graphic_replicate (n : Nat) (first : isGraphic c = true) : Graphic (List.replicate n c) :=
  fun _ member => List.eq_of_mem_replicate member ▸ first

theorem isGraphic_of_isDigit (digit : c.isDigit = true) : isGraphic c = true := by
  obtain ⟨least, greatest⟩ := Bool.and_eq_true_iff.mp digit
  have least : 48 ≤ c.toNat := UInt32.le_iff_toNat_le.mp (of_decide_eq_true least)
  have greatest : c.toNat ≤ 57 := UInt32.le_iff_toNat_le.mp (of_decide_eq_true greatest)
  exact isGraphic_iff.mpr ⟨by omega, by omega⟩

theorem graphic_digits (n : Nat) : Graphic (Nat.toDigits 10 n) := fun _ member =>
  isGraphic_of_isDigit (Nat.isDigit_of_mem_toDigits (by decide) (by decide) member)

theorem graphic_toString_nat (n : Nat) : Graphic (toString n).toList := by
  rw [Nat.toString_eq_repr, Nat.repr, String.toList_ofList]
  exact graphic_digits n

theorem graphic_toString_int (i : Int) : Graphic (toString i).toList := by
  cases i with
  | ofNat n => exact graphic_toString_nat n
  | negSucc n =>
      change Graphic ("-" ++ (n + 1).repr).toList
      rw [String.toList_append]
      exact Graphic.append (by decide) (graphic_toString_nat (n + 1))

theorem graphic_positional (d : Decimal) : Graphic (positional d).toList := by
  have digits : Graphic (digitChars d.digits) := graphic_digits d.digits
  have zeros (n : Nat) : Graphic (List.replicate n '0') := graphic_replicate n (by decide)
  rw [positional]
  split
  · rw [String.toList_ofList]
    exact digits.append (zeros _)
  split
  · rw [String.toList_ofList]
    exact Graphic.append (fun c member => digits c (List.mem_of_mem_take member))
      (Graphic.cons (by decide) fun c member => digits c (List.mem_of_mem_drop member))
  · rw [String.toList_ofList]
    exact Graphic.append (Graphic.cons (by decide) (Graphic.cons (by decide) (zeros _))) digits

theorem graphic_scientific (d : Decimal) {up down : String} (positive : Graphic up.toList)
    (negative : Graphic down.toList) : Graphic (scientific d up down).toList := by
  have digits : Graphic (digitChars d.digits) := graphic_digits d.digits
  simp only [scientific, String.toList_append]
  refine Graphic.append (Graphic.append ?_ ?_) (graphic_toString_nat _)
  · split
    · decide
    · next c single =>
        rw [single] at digits
        rwa [String.toList_singleton]
    · next c rest _ several =>
        rw [several] at digits
        obtain ⟨first, others⟩ := List.forall_mem_cons.mp digits
        rw [String.toList_ofList]
        exact Graphic.cons first (Graphic.cons (by decide) others)
  · split
    · exact negative
    · exact positive

theorem graphic_withSign (negative : Bool) {s : String} (graphic : Graphic s.toList) :
    Graphic (withSign negative s).toList := by
  cases negative with
  | false => exact graphic
  | true =>
      simp only [withSign, if_true, String.toList_append]
      exact Graphic.append (by decide) graphic

theorem graphic_dataText (x : Double) : Graphic x.dataText.toList := by
  cases x with
  | nan => exact (by decide : Graphic "null".toList)
  | infinite s => exact (by decide : Graphic "null".toList)
  | finite s r =>
      simp only [dataText]
      split
      · exact graphic_withSign s (by decide)
      refine graphic_withSign s ?_
      split
      · rw [String.toList_append]
        exact (graphic_positional _).append (by decide)
      split
      · exact graphic_positional _
      · exact graphic_scientific _ (by decide) (by decide)

theorem graphic_plainText (x : Double) : Graphic x.plainText.toList := by
  cases x with
  | nan => exact (by decide : Graphic "NaN".toList)
  | infinite s => exact graphic_withSign s (by decide)
  | finite s r => exact graphic_withSign s (graphic_positional _)

theorem graphic_styleText (x : Double) : Graphic x.styleText.toList := by
  cases x with
  | nan => exact (by decide : Graphic "NaN".toList)
  | infinite s => exact graphic_withSign s (by decide)
  | finite s r =>
      simp only [styleText]
      split
      · split
        · exact graphic_toString_int _
        · exact graphic_plainText _
      · exact graphic_plainText _

end LiveMarkup.Double
