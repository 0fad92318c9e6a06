/-
# LiveMarkup.Text.Split -- cutting text at a separator, and trimming

`split` cuts a list of characters at every separator and `join` puts the pieces back
together, so `join_split` holds for every text.  `trimWhite` drops white space of every
script at both ends.
-/

namespace LiveMarkup.Text

set_option autoImplicit false

/-- The pieces between separators; there is always at least one. -/
def split (sep : Char) : List Char → List (List Char)
  | [] => [[]]
  | c :: rest =>
      if c = sep then [] :: split sep rest
      else match split sep rest with
        | [] => [[c]]
        | piece :: pieces => (c :: piece) :: pieces

/-- Pieces with one separator between neighbours. -/
def join (sep : Char) : List (List Char) → List Char
  | [] => []
  | [piece] => piece
  | piece :: pieces => piece ++ sep :: join sep pieces

theorem split_ne_nil (sep : Char) (cs : List Char) : split sep cs ≠ [] := by
  cases cs with
  | nil => simp [split]
  | cons c rest =>
    simp only [split]
    split
    · simp
    · split <;> simp

/-- Nothing is lost by cutting. -/
theorem join_split (sep : Char) (cs : List Char) : join sep (split sep cs) = cs := by
  induction cs with
  | nil => rfl
  | cons c rest ih =>
    simp only [split]
    cases h : split sep rest with
    | nil => exact absurd h (split_ne_nil sep rest)
    | cons piece pieces =>
      rw [h] at ih
      by_cases hc : c = sep
      · simp [hc, join, ih]
      · cases pieces with
        | nil => simpa [hc, join] using ih
        | cons next more => simpa [hc, join] using ih

/-- White space of every script. -/
def isWhite (c : Char) : Bool :=
  let n := c.toNat
  n == 0x20 || (0x9 ≤ n && n ≤ 0xd) || n == 0x85 || n == 0xa0 || n == 0x1680
    || (0x2000 ≤ n && n ≤ 0x200a) || n == 0x2028 || n == 0x2029 || n == 0x202f
    || n == 0x205f || n == 0x3000

/-- Drop from the end while the test holds. -/
def dropEndWhile (p : Char → Bool) (cs : List Char) : List Char :=
  (cs.reverse.dropWhile p).reverse

def trimWhiteChars (cs : List Char) : List Char := dropEndWhile isWhite (cs.dropWhile isWhite)

/-- A text without white space at its ends. -/
def trimWhite (s : String) : String := String.ofList (trimWhiteChars s.toList)

/-- A letter of the ASCII range in lower case, and any other character as it is. -/
def asciiLower (s : String) : String := String.ofList (s.toList.map Char.toLower)

/-- Equality up to the case of ASCII letters. -/
def sameIgnoringCase (s t : String) : Bool := asciiLower s == asciiLower t

/-- Texts with a separator between neighbours. -/
def joined (sep : String) (texts : List String) : String := sep.intercalate texts

end LiveMarkup.Text
