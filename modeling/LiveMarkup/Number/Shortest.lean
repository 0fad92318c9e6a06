import LiveMarkup.Number.Double
/-
# LiveMarkup.Number.Shortest -- the shortest decimal that reads back

`shortest r` gives the digits of the shortest decimal inside the interval of reals
that round to the magnitude of rank `r`, and of those the one nearest to it.  The
interval reaches half way to either neighbour, and holds its ends when the
mantissa is even.

The search goes through the grids of one, two, … seventeen digits.  On each it
looks at the two grid points around the magnitude, in exact arithmetic; the first
grid with a point in the interval wins.  If a grid has any point in the interval,
one of these two is in it.
-/

namespace LiveMarkup.Double

set_option autoImplicit false

/-- A decimal `digits * 10 ^ power`. -/
structure Decimal where
  digits : Nat
  power : Int
  deriving DecidableEq, Repr

/-- Compare `a / b` with `c / d`, all over positive denominators. -/
def ratioLt (x y : Nat × Nat) : Bool := decide (x.1 * y.2 < y.1 * x.2)

/-- Scale a quotient by a power of ten. -/
def scaled (x : Nat × Nat) : Int → Nat × Nat
  | .ofNat e => (x.1 * Nat.pow 10 e, x.2)
  | .negSucc e => (x.1, x.2 * Nat.pow 10 (e + 1))

/-- The ends of the interval of reals that round to rank `r`, as quotients. -/
def interval (rank : Nat) : (Nat × Nat) × (Nat × Nat) :=
  let m := mantissa rank
  let q := exponent rank
  let below := if m = 0x10000000000000 && decide (rank ≠ 0x10000000000000) then 1 else 2
  let unit (n : Nat) : Nat × Nat := match q - 2 with
    | .ofNat e => (n <<< e, 1)
    | .negSucc e => (n, 1 <<< (e + 1))
  (unit (4 * m - below), unit (4 * m + 2))

/-- Does the quotient round to rank `r`? -/
def roundsTo (rank : Nat) (x : Nat × Nat) : Bool :=
  let (low, high) := interval rank
  if mantissa rank % 2 = 0 then !ratioLt x low && !ratioLt high x
  else ratioLt low x && ratioLt x high

/-- The number of decimal digits, at least one. -/
def digitCount (n : Nat) : Nat := (Nat.toDigits 10 n).length

/-- The power `p` with `10 ^ p ≤ num / den < 10 ^ (p + 1)`, for positive quotients. -/
def decimalOrder (x : Nat × Nat) : Int :=
  let guess : Int := (digitCount x.1 : Int) - (digitCount x.2 : Int)
  let y := scaled x (-guess)
  if y.1 < y.2 then guess - 1 else guess

/-- The point of the grid `10 ^ power` that rounds to the rank and is nearest to it. -/
def gridPoint? (rank : Nat) (power : Int) : Option Nat :=
  let x := scaled (ratio rank) (-power)
  let low := x.1 / x.2
  let inside (n : Nat) : Bool := n ≠ 0 && roundsTo rank (scaled (n, 1) power)
  let upperNearer : Bool := decide (x.2 < 2 * (x.1 % x.2)) ||
    (2 * (x.1 % x.2) == x.2 && low % 2 == 1)
  match inside low, inside (low + 1) with
  | true, true => some (if upperNearer then low + 1 else low)
  | true, false => some low
  | false, true => some (low + 1)
  | false, false => none

/-- Drop trailing zeros of the digits into the power. -/
def Decimal.trim (digits : Nat) (power : Int) : Nat → Decimal
  | 0 => ⟨digits, power⟩
  | fuel + 1 =>
      if digits ≠ 0 && digits % 10 == 0 then Decimal.trim (digits / 10) (power + 1) fuel
      else ⟨digits, power⟩

/-- Try grids of growing digit count from `order` downwards. -/
def firstGrid (rank : Nat) (power : Int) : Nat → Decimal
  | 0 => ⟨(ratio rank).1 / (ratio rank).2, 0⟩
  | fuel + 1 =>
      match gridPoint? rank power with
      | some n => Decimal.trim n power 400
      | none => firstGrid rank (power - 1) fuel

/-- The shortest decimal that reads back as the magnitude of this rank. -/
def shortest (rank : Nat) : Decimal :=
  if rank = 0 then ⟨0, 0⟩ else firstGrid rank (decimalOrder (ratio rank)) 20

end LiveMarkup.Double
