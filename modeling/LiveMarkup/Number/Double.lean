/-
# LiveMarkup.Number.Double -- numbers of double precision as a plain data type

A double is NaN, an infinity, or a finite number given by its sign and its *rank*:
the finite magnitudes in increasing order are the ranks `0, 1, 2, …`.  Rank `r`
below `2 ^ 52` is `r` units of `2 ^ -1074`; above, the ranks come in blocks of
`2 ^ 52` and each block doubles the unit.  The rank is also the number read off
the sixty-three low bits of the interchange format, so `ofBits` and `toBits` are
plain arithmetic and equality of doubles is equality of data.  The definitions write
`2 ^ 52` and `2 ^ 63` as hexadecimal literals and powers of two as shifts.

Rounding happens in one place, `ofRatio`: the nearest double of a quotient of
natural numbers, a tie going to the even rank.
-/

namespace LiveMarkup

set_option autoImplicit false

/-- A number of double precision. -/
inductive Double where
  | nan
  | infinite (negative : Bool)
  | finite (negative : Bool) (rank : Fin 0x7ff0000000000000)
  deriving DecidableEq, Repr

namespace Double

instance : Inhabited Double := ⟨.finite false 0⟩

/-- Positive zero. -/
def zero : Double := .finite false 0

/-- Negating flips the sign; NaN has none. -/
def neg : Double → Double
  | nan => nan
  | infinite s => infinite (!s)
  | finite s r => finite (!s) r

/-- Forget the sign. -/
def abs : Double → Double
  | nan => nan
  | infinite _ => infinite false
  | finite _ r => finite false r

/-- The sign bit, which negative zero has too. -/
def isSignNegative : Double → Bool
  | nan => false
  | infinite s => s
  | finite s _ => s

def isFinite : Double → Bool
  | finite _ _ => true
  | _ => false

def isZero : Double → Bool
  | finite _ r => r.val == 0
  | _ => false

theorem neg_neg (x : Double) : x.neg.neg = x := by
  cases x <;> simp [neg]

theorem abs_abs (x : Double) : x.abs.abs = x.abs := by
  cases x <;> rfl

/-- A number is its magnitude, negated when the sign is set. -/
theorem signed_abs (x : Double) : (if x.isSignNegative then x.abs.neg else x.abs) = x := by
  cases x with
  | nan => rfl
  | infinite s => cases s <;> rfl
  | finite s r => cases s <;> rfl

/-! ## Magnitudes as integer multiples of a power of two -/

/-- Rank `r` is `mantissa r` units of `2 ^ (exponent r)`. -/
def mantissa (rank : Nat) : Nat :=
  if rank < 0x10000000000000 then rank else rank % 0x10000000000000 + 0x10000000000000

/-- The exponent of the unit in which a rank counts. -/
def exponent (rank : Nat) : Int :=
  if rank < 0x10000000000000 then -1074 else (rank / 0x10000000000000 : Nat) - 1075

/-- A magnitude as a quotient of natural numbers. -/
def ratio (rank : Nat) : Nat × Nat :=
  match exponent rank with
  | .ofNat e => (mantissa rank <<< e, 1)
  | .negSucc e => (mantissa rank, 1 <<< (e + 1))

/-- Half-even rounding of a quotient to a natural number. -/
def roundDiv (num den : Nat) : Nat :=
  let q := num / den
  let r := num % den
  if 2 * r < den then q
  else if den < 2 * r then q + 1
  else if q % 2 = 0 then q else q + 1

/-- The exponent `e` with `2 ^ e ≤ num / den < 2 ^ (e + 1)`. -/
def binaryOrder (num den : Nat) : Int :=
  let guess : Int := (Nat.log2 num : Int) - (Nat.log2 den : Int)
  let reached := match guess with
    | .ofNat e => decide (den <<< e ≤ num)
    | .negSucc e => decide (den ≤ num <<< (e + 1))
  if reached then guess else guess - 1

/-- The sign and rank as a double; a rank past the last finite one is infinite. -/
def ofRank (negative : Bool) (rank : Nat) : Double :=
  if h : rank < 0x7ff0000000000000 then finite negative ⟨rank, h⟩ else infinite negative

/-- The double nearest to `num / den`, a tie going to the even rank. -/
def ofRatio (negative : Bool) (num den : Nat) : Double :=
  if num = 0 then ofRank negative 0
  else if den = 0 then infinite negative
  else
    let unit := max (-1074) (binaryOrder num den - 52)
    let count := match unit with
      | .ofNat e => roundDiv num (den <<< e)
      | .negSucc e => roundDiv (num <<< (e + 1)) den
    ofRank negative ((unit + 1074).toNat * 0x10000000000000 + count)

def ofNat (n : Nat) : Double := ofRatio false n 1

def ofInt (i : Int) : Double := ofRatio (decide (i < 0)) i.natAbs 1

/-- The double nearest to `digits * 10 ^ power`.  Powers far outside the range of
doubles are answered without computing them. -/
def ofDecimal (negative : Bool) (digits : Nat) (power : Int) : Double :=
  if digits = 0 then ofRank negative 0
  else
    let order : Int := power + (Nat.log2 digits / 3 : Nat)
    if 800 < power then infinite negative
    else if order < -800 then ofRank negative 0
    else match power with
      | .ofNat e => ofRatio negative (digits * Nat.pow 10 e) 1
      | .negSucc e => ofRatio negative digits (Nat.pow 10 (e + 1))

/-! ## Arithmetic on magnitudes -/

/-- The product, rounded once. -/
def mul (x y : Double) : Double :=
  let s := x.isSignNegative != y.isSignNegative
  match x, y with
  | nan, _ => nan
  | _, nan => nan
  | infinite _, y => if y.isZero then nan else infinite s
  | x, infinite _ => if x.isZero then nan else infinite s
  | finite _ a, finite _ b =>
      ofRatio s ((ratio a.val).1 * (ratio b.val).1) ((ratio a.val).2 * (ratio b.val).2)

/-- The quotient of finite numbers, rounded once. -/
def div (x y : Double) : Double :=
  let s := x.isSignNegative != y.isSignNegative
  match x, y with
  | nan, _ => nan
  | _, nan => nan
  | infinite _, infinite _ => nan
  | infinite _, _ => infinite s
  | finite _ _, infinite _ => ofRank s 0
  | finite _ a, finite _ b =>
      if b.val = 0 then (if a.val = 0 then nan else infinite s)
      else ofRatio s ((ratio a.val).1 * (ratio b.val).2) ((ratio a.val).2 * (ratio b.val).1)

/-- The integer a finite number is, when it is one. -/
def toInt? : Double → Option Int
  | finite s r =>
      let (num, den) := ratio r.val
      if num % den = 0 then
        some (if s then -((num / den : Nat) : Int) else ((num / den : Nat) : Int))
      else none
  | _ => none

/-! ## The interchange format -/

/-- Sixty-four bits: the sign, then the rank; NaN is the quiet one without payload. -/
def toBits : Double → Nat
  | nan => 0x7ff8000000000000
  | infinite s => (if s then 0x8000000000000000 else 0) + 0x7ff0000000000000
  | finite s r => (if s then 0x8000000000000000 else 0) + r.val

/-- Reading sixty-four bits; every NaN pattern is NaN. -/
def ofBits (bits : Nat) : Double :=
  let s := decide (0x8000000000000000 ≤ bits)
  let low := bits % 0x8000000000000000
  if h : low < 0x7ff0000000000000 then finite s ⟨low, h⟩
  else if low = 0x7ff0000000000000 then infinite s
  else nan

/-- The format loses nothing. -/
theorem ofBits_toBits (x : Double) : ofBits x.toBits = x := by
  cases x with
  | nan => decide
  | infinite s => cases s <;> decide
  | finite s r =>
    have hr := r.isLt
    have low : (toBits (finite s r)) % 0x8000000000000000 = r.val := by
      cases s with
      | false =>
        show (0 + r.val) % 0x8000000000000000 = r.val
        omega
      | true =>
        show (0x8000000000000000 + r.val) % 0x8000000000000000 = r.val
        omega
    have sign : decide (0x8000000000000000 ≤ toBits (finite s r)) = s := by
      cases s with
      | false =>
        show decide (0x8000000000000000 ≤ 0 + r.val) = false
        rw [decide_eq_false_iff_not]
        omega
      | true =>
        show decide (0x8000000000000000 ≤ 0x8000000000000000 + r.val) = true
        rw [decide_eq_true_eq]
        omega
    simp only [ofBits, low, sign, hr, dite_true]

end Double

end LiveMarkup
