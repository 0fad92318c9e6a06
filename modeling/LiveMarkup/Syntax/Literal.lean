import LiveMarkup.Text.Quoted
import LiveMarkup.Number.Text
/-
# LiveMarkup.Syntax.Literal -- how made-up literals are written

A literal that was not read from text is written from its value: a string between the
quotes that need fewer escapes, a number in the notation of scripts.
-/

namespace LiveMarkup.Syntax

set_option autoImplicit false

open LiveMarkup.Text (hexDigits)

/-- Is the text after a backslash the rest of an escaped half of a surrogate pair?  Such a
backslash stands for itself. -/
def surrogateEscape : List Char → Bool
  | 'u' :: '{' :: d :: a :: b :: c :: _ => half d a b c
  | 'u' :: d :: a :: b :: c :: _ => half d a b c
  | _ => false
where
  half (d a b c : Char) : Bool :=
    (d == 'd' || d == 'D') && "89abcdefABCDEF".contains a &&
      [b, c].all fun x => x.isDigit || "abcdefABCDEF".contains x

def twoHexDigits (n : Nat) : String :=
  (if n < 16 then "0" else "") ++ hexDigits n

/-- One character between the given quotes, with a view of what follows it. -/
def escapedChar (quote c : Char) (rest : List Char) : String :=
  if c == '\\' then (if surrogateEscape rest then "\\" else "\\\\")
  else if c == quote then String.ofList ['\\', c]
  else if c == '\n' then "\\n"
  else if c == '\r' then "\\r"
  else if c == '\x08' then "\\b"
  else if c == '\x0c' then "\\f"
  else if c == '\x0b' then "\\v"
  else if c == '\t' then "\t"
  else if c.toNat == 0 then
    match rest with
    | d :: _ => if d.isDigit then "\\x00" else "\\0"
    | [] => "\\0"
  else if c.toNat < 32 then "\\x" ++ twoHexDigits c.toNat
  else if c.toNat == 0x2028 then "\\u2028"
  else if c.toNat == 0x2029 then "\\u2029"
  else if c.toNat == 0xfeff then "\\uFEFF"
  else String.singleton c

def escapedChars (quote : Char) : List Char → List String
  | [] => []
  | c :: rest => escapedChar quote c rest :: escapedChars quote rest

/-- Double quotes, unless the text holds more of them than single quotes. -/
def preferredQuote (cs : List Char) : Char :=
  if cs.count '\'' < cs.count '"' then '\'' else '"'

/-- A string literal for a text. -/
def stringLiteral (s : String) : String :=
  let cs := s.toList
  let quote := preferredQuote cs
  String.singleton quote ++ String.join (escapedChars quote cs) ++ String.singleton quote

def numberLiteral (x : Double) : String := x.scriptText

end LiveMarkup.Syntax
