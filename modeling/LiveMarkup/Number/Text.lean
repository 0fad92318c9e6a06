import LiveMarkup.Number.Shortest
/-
# LiveMarkup.Number.Text -- how numbers are written

All written forms use the digits of `shortest`; they differ in where positional
notation ends and in how whole numbers and exponents look:

* `plainText` never uses an exponent;
* `scriptText` is positional from `1e-6` up to below `1e21`, and then `1e+21`;
* `dataText` is positional from `1e-5` up to below `1e16`, always with a point, and
  then `1e16`;
* `styleText` writes whole numbers below `1e15` as integers and all others plainly.
-/

namespace LiveMarkup.Double

set_option autoImplicit false

def digitChars (n : Nat) : List Char := Nat.toDigits 10 n

/-- Digits with the point after the first `place` of them, filled with zeros on
either side; no point when nothing follows it. -/
def positional (d : Decimal) : String :=
  let cs := digitChars d.digits
  let place : Int := cs.length + d.power
  if 0 ≤ d.power then String.ofList (cs ++ List.replicate d.power.toNat '0')
  else if 0 < place then
    String.ofList (cs.take place.toNat ++ '.' :: cs.drop place.toNat)
  else String.ofList ('0' :: '.' :: List.replicate (-place).toNat '0' ++ cs)

/-- Scientific notation with the given mark between digits and exponent. -/
def scientific (d : Decimal) (positiveMark negativeMark : String) : String :=
  let cs := digitChars d.digits
  let order : Int := cs.length + d.power - 1
  let head := match cs with
    | [] => "0"
    | [c] => String.singleton c
    | c :: rest => String.ofList (c :: '.' :: rest)
  head ++ (if order < 0 then negativeMark else positiveMark) ++ toString order.natAbs

/-- The place of the decimal point counted from the first digit. -/
def pointPlace (d : Decimal) : Int := (digitChars d.digits).length + d.power

def withSign (negative : Bool) (s : String) : String := if negative then "-" ++ s else s

/-- Positional notation for every finite number. -/
def plainText : Double → String
  | nan => "NaN"
  | infinite s => withSign s "inf"
  | finite s r => withSign s (positional (shortest r.val))

/-- The notation of number literals in scripts. -/
def scriptText : Double → String
  | nan => "NaN"
  | infinite s => withSign s "Infinity"
  | finite s r =>
      if r.val = 0 then "0"
      else
        let d := shortest r.val
        let place := pointPlace d
        withSign s <|
          if -6 < place ∧ place ≤ 21 then positional d else scientific d "e+" "e-"

/-- The notation of numbers with a fraction in data files. -/
def dataText : Double → String
  | nan => "null"
  | infinite _ => "null"
  | finite s r =>
      if r.val = 0 then withSign s "0.0"
      else
        let d := shortest r.val
        let place := pointPlace d
        withSign s <|
          if 0 ≤ d.power ∧ place ≤ 16 then positional d ++ ".0"
          else if -5 < place ∧ place ≤ 16 then positional d
          else scientific d "e" "e-"

/-- The notation inside style objects. -/
def styleText : Double → String
  | nan => "NaN"
  | infinite s => withSign s "Infinity"
  | x@(finite _ _) =>
      match x.toInt? with
      | some i => if i.natAbs < 1000000000000000 then toString i else plainText x
      | none => plainText x

end LiveMarkup.Double
