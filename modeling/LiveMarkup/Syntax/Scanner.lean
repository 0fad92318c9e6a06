import LiveMarkup.Text.Identifier
import LiveMarkup.Text.Entity
import LiveMarkup.Text.Quoted
import LiveMarkup.Syntax.Token
/-
# LiveMarkup.Syntax.Scanner -- reading one token off a text

A `Cursor` is the rest of a text and the number of characters before it.  Each scan takes
the characters at the cursor and gives what it read with the cursor behind it; the raw
text of a token is what lies between two cursors.

What a character starts depends on where it stands, so there are three modes: code,
the inside of a tag, and the text between tags.
-/

namespace LiveMarkup.Syntax

set_option autoImplicit false

open LiveMarkup.Text

structure Cursor where
  rest : List Char
  offset : Nat
  deriving Repr

namespace Cursor

def drop (c : Cursor) (n : Nat) : Cursor := ⟨c.rest.drop n, c.offset + n⟩

/-- The text from one cursor to a later one. -/
def textTo (start finish : Cursor) : String :=
  String.ofList (start.rest.take (finish.offset - start.offset))

def atEnd (c : Cursor) : Bool := c.rest.isEmpty

end Cursor

/-! ## Blanks and comments -/

def isLineEnd (c : Char) : Bool :=
  c == '\n' || c == '\r' || c.toNat == 0x2028 || c.toNat == 0x2029

def isBlank (c : Char) : Bool :=
  c == ' ' || c == '\t' || c.toNat == 11 || c.toNat == 12 || c.toNat == 0xa0 ||
    c.toNat == 0xfeff || c.toNat == 0x1680 || (0x2000 ≤ c.toNat && c.toNat ≤ 0x200a) ||
    c.toNat == 0x202f || c.toNat == 0x205f || c.toNat == 0x3000

inductive BlankState where
  | between | lineComment | blockComment

/-- What was skipped before a token: whether a line ended in it, and whether its last
comment is closed. -/
structure Blanks where
  cursor : Cursor
  newline : Bool
  closed : Bool

def skipBlanks : BlankState → Bool → Nat → List Char → Blanks
  | .between, newline, n, '/' :: '/' :: rest => skipBlanks .lineComment newline (n + 2) rest
  | .between, newline, n, '/' :: '*' :: rest => skipBlanks .blockComment newline (n + 2) rest
  | .between, newline, n, c :: rest =>
      if isLineEnd c then skipBlanks .between true (n + 1) rest
      else if isBlank c then skipBlanks .between newline (n + 1) rest
      else ⟨⟨c :: rest, n⟩, newline, true⟩
  | .lineComment, newline, n, c :: rest =>
      if isLineEnd c then skipBlanks .between true (n + 1) rest
      else skipBlanks .lineComment newline (n + 1) rest
  | .blockComment, newline, n, '*' :: '/' :: rest => skipBlanks .between newline (n + 2) rest
  | .blockComment, newline, n, c :: rest =>
      skipBlanks .blockComment (newline || isLineEnd c) (n + 1) rest
  | .blockComment, newline, n, [] => ⟨⟨[], n⟩, newline, false⟩
  | _, newline, n, [] => ⟨⟨[], n⟩, newline, true⟩

/-! ## Escapes -/

/-- A code point of a text; the half of a pair stands for the six characters that write it. -/
def codePointText (code : Nat) : List Char :=
  if 0xd800 ≤ code && code ≤ 0xdfff then '\\' :: 'u' :: (hexDigits code).toList
  else [Char.ofNat code]

/-- The escape `u…` behind a backslash: its code point and its length. -/
def unicodeEscape? : List Char → Option (Nat × Nat)
  | 'u' :: '{' :: rest =>
      let hex := rest.takeWhile isHexDigit
      if !hex.isEmpty && (rest.drop hex.length).head? == some '}' then
        some (digitsValue 16 hex, hex.length + 3)
      else none
  | 'u' :: a :: b :: c :: d :: _ =>
      if [a, b, c, d].all isHexDigit then some (digitsValue 16 [a, b, c, d], 5) else none
  | _ => none

/-- What an escape in a string stands for, and its length behind the backslash. -/
def stringEscape (rest : List Char) : List Char × Nat :=
  match rest with
  | [] => ([], 0)
  | 'n' :: _ => (['\n'], 1)
  | 'r' :: _ => (['\r'], 1)
  | 't' :: _ => (['\t'], 1)
  | 'b' :: _ => (['\x08'], 1)
  | 'v' :: _ => (['\x0b'], 1)
  | 'f' :: _ => (['\x0c'], 1)
  | '\r' :: '\n' :: _ => ([], 2)
  | 'x' :: a :: b :: _ =>
      if isHexDigit a && isHexDigit b then ([Char.ofNat (digitsValue 16 [a, b])], 3) else (['x'], 1)
  | c :: _ =>
      if isLineEnd c then ([], 1)
      else if c == 'u' then
        match unicodeEscape? rest with
        | some (code, n) => (codePointText code, n)
        | none => (['u'], 1)
      else if '0' ≤ c && c ≤ '7' then
        let digits := (rest.take (if c ≤ '3' then 3 else 2)).takeWhile fun d => '0' ≤ d && d ≤ '7'
        ([Char.ofNat (digitsValue 8 digits)], digits.length)
      else ([c], 1)

/-- The value of a string literal up to its closing quote, how many characters it takes with
that quote, and whether the quote is there. -/
def scanString (quote : Char) : Nat → List Char → List Char × Nat × Bool
  | 0, _ => ([], 0, false)
  | _ + 1, [] => ([], 0, false)
  | fuel + 1, c :: rest =>
      if c == quote then ([], 1, true)
      else if c == '\\' then
        let (value, n) := stringEscape rest
        let (more, m, closed) := scanString quote fuel (rest.drop n)
        (value ++ more, 1 + n + m, closed)
      else if c == '\n' || c == '\r' then ([], 0, false)
      else
        let (more, m, closed) := scanString quote fuel rest
        (c :: more, 1 + m, closed)

/-! ## Names and numbers -/

/-- The characters of a name and how many characters they take. -/
def scanName : Nat → List Char → List Char × Nat
  | 0, _ => ([], 0)
  | _ + 1, [] => ([], 0)
  | fuel + 1, c :: rest =>
      if c == '\\' then
        match unicodeEscape? rest with
        | some (code, n) =>
            let (more, m) := scanName fuel (rest.drop n)
            (codePointText code ++ more, 1 + n + m)
        | none => ([], 0)
      else if isNameContinue c then
        let (more, m) := scanName fuel rest
        (c :: more, 1 + m)
      else ([], 0)

def isNameHead (c : Char) (rest : List Char) : Bool :=
  isNameStart c || (c == '\\' && (unicodeEscape? rest).isSome)

def withoutSeparators (cs : List Char) : List Char := cs.filter (· != '_')

/-- The digits at the start, with separators. -/
def digitRun (isDigit : Char → Bool) (cs : List Char) : List Char :=
  cs.takeWhile fun c => isDigit c || c == '_'

/-- An exponent: its value and length. -/
def scanExponent (cs : List Char) : Int × Nat :=
  match cs with
  | e :: rest =>
      if e == 'e' || e == 'E' then
        let (sign, signLength, digits) : Int × Nat × List Char := match rest with
          | '-' :: ds => (-1, 1, digitRun isAsciiDigit ds)
          | '+' :: ds => (1, 1, digitRun isAsciiDigit ds)
          | ds => (1, 0, digitRun isAsciiDigit ds)
        if digits.isEmpty then (0, 0)
        else (sign * (digitsValue 10 (withoutSeparators digits) : Nat), 1 + signLength + digits.length)
      else (0, 0)
  | [] => (0, 0)

/-- A number written with a base mark of two characters. -/
def scanBased (base : Nat) (isDigit : Char → Bool) (start : Cursor) : Token × Cursor :=
  let digits := digitRun isDigit (start.rest.drop 2)
  let finish := start.drop (2 + digits.length)
  if finish.rest.head? == some 'n' then
    (.bigint (start.textTo (finish.drop 1)), finish.drop 1)
  else (.number (Double.ofNat (digitsValue base (withoutSeparators digits))) (start.textTo finish), finish)

/-- A decimal number, which may start with its point. -/
def scanDecimal (start : Cursor) : Token × Cursor :=
  let whole := digitRun isAsciiDigit start.rest
  let afterWhole := start.drop whole.length
  if afterWhole.rest.head? == some 'n' then
    (.bigint (start.textTo (afterWhole.drop 1)), afterWhole.drop 1)
  else
    let octal := whole.head? == some '0' && decide (1 < whole.length) &&
      whole.all fun d => '0' ≤ d && d ≤ '7'
    if octal then
      (.number (Double.ofNat (digitsValue 8 whole)) (start.textTo afterWhole), afterWhole)
    else
      let (fraction, afterFraction) : List Char × Cursor := match afterWhole.rest with
        | '.' :: rest =>
            let digits := digitRun isAsciiDigit rest
            (digits, afterWhole.drop (1 + digits.length))
        | _ => ([], afterWhole)
      let (exponent, exponentLength) := scanExponent afterFraction.rest
      let finish := afterFraction.drop exponentLength
      let fractionDigits := withoutSeparators fraction
      let digits := digitsValue 10 (withoutSeparators whole ++ fractionDigits)
      (.number (Double.ofDecimal false digits (exponent - fractionDigits.length))
        (start.textTo finish), finish)

def isOctalDigit (c : Char) : Bool := '0' ≤ c && c ≤ '7'

def isBinaryDigit (c : Char) : Bool := c == '0' || c == '1'

def scanNumber (start : Cursor) : Token × Cursor :=
  match start.rest with
  | '0' :: mark :: _ =>
      if mark == 'x' || mark == 'X' then scanBased 16 isHexDigit start
      else if mark == 'o' || mark == 'O' then scanBased 8 isOctalDigit start
      else if mark == 'b' || mark == 'B' then scanBased 2 isBinaryDigit start
      else scanDecimal start
  | _ => scanDecimal start

/-! ## Punctuators -/

/-- The punctuators, longer ones before those they start with. -/
def punctuators : List String :=
  [">>>=", "...", "===", "!==", "**=", "<<=", ">>=", ">>>", "&&=", "||=", "??=",
   "=>", "==", "!=", "<=", ">=", "&&", "||", "??", "?.", "++", "--", "+=", "-=", "*=", "/=", "%=",
   "&=", "|=", "^=", "<<", ">>", "**",
   "\x7b", "\x7d", "(", ")", "[", "]", ";", ",", "<", ">", "+", "-", "*", "/", "%", "&", "|", "^",
   "!", "~", "?", ":", "=", ".", "@", "#", "`"]

def startsWith : List Char → List Char → Bool
  | [], _ => true
  | _ :: _, [] => false
  | p :: ps, c :: cs => p == c && startsWith ps cs

/-- The longest punctuator at the start.  A question mark and a point before a digit are two. -/
def punctuator? (cs : List Char) : Option String :=
  match cs with
  | '?' :: '.' :: d :: _ =>
      if d.isDigit then some "?" else some "?."
  | _ => punctuators.find? fun p => startsWith p.toList cs

/-! ## Tokens of code -/

/-- A token with the complaints of its text, which do not stop the reader. -/
structure Scanned where
  token : Token
  cursor : Cursor
  complaint : Option Complaint := none

def scanCode (start : Cursor) : Scanned :=
  match start.rest with
  | [] => ⟨.eof, start, none⟩
  | c :: rest =>
      if c == '\'' || c == '"' then
        let (value, n, closed) := scanString c (rest.length + 1) rest
        let finish := start.drop (1 + n)
        ⟨.string (String.ofList value) (start.textTo finish), finish,
          if closed then none else some .unterminatedString⟩
      else if isAsciiDigit c || (c == '.' && (rest.head?.map isAsciiDigit).getD false) then
        let (token, finish) := scanNumber start
        ⟨token, finish, none⟩
      else if isNameHead c rest then
        let (name, n) := scanName (start.rest.length + 1) start.rest
        ⟨.word (String.ofList name), start.drop n, none⟩
      else
        match punctuator? start.rest with
        | some p => ⟨.punctuator p, start.drop p.length, none⟩
        | none => ⟨.broken (.unexpectedCharacter c), start.drop 1, none⟩

/-- The pattern of a regular expression behind its first slash: its length, and whether it
is closed on its line. -/
def scanPattern (inClass : Bool) : List Char → Nat × Bool
  | [] => (0, false)
  | '\\' :: c :: rest =>
      if isLineEnd c then (1, false)
      else
        let (n, closed) := scanPattern inClass rest
        (n + 2, closed)
  | c :: rest =>
      if isLineEnd c then (0, false)
      else if c == '/' && !inClass then (0, true)
      else
        let (n, closed) := scanPattern (if c == '[' then true else if c == ']' then false else inClass) rest
        (n + 1, closed)

def scanRegex (start : Cursor) : Scanned :=
  let (n, closed) := scanPattern false (start.rest.drop 1)
  let body := start.drop (1 + n)
  if closed then
    let (flags, m) := scanName (body.rest.length + 1) (body.rest.drop 1)
    ⟨.regex ((start.drop 1).textTo body) (String.ofList flags), body.drop (1 + m), none⟩
  else ⟨.broken .unterminatedRegex, body, none⟩

/-- How a chunk of a template ends. -/
inductive ChunkEnd where
  | closing | hole | missing

/-- The length of a template chunk, without its end. -/
def scanChunk : List Char → Nat × ChunkEnd
  | [] => (0, .missing)
  | '`' :: _ => (0, .closing)
  | '$' :: '{' :: _ => (0, .hole)
  | '\\' :: _ :: rest =>
      let (n, e) := scanChunk rest
      (n + 2, e)
  | _ :: rest =>
      let (n, e) := scanChunk rest
      (n + 1, e)

/-- Line ends inside a template are single line feeds. -/
def plainLineEnds : List Char → List Char
  | [] => []
  | '\r' :: '\n' :: rest => '\n' :: plainLineEnds rest
  | '\r' :: rest => '\n' :: plainLineEnds rest
  | c :: rest => c :: plainLineEnds rest

/-! ## Tokens of markup -/

/-- An attribute string up to its quote: entities are decoded, nothing is escaped. -/
def scanMarkupString (quote : Char) : Nat → List Char → List Char × Nat × Bool
  | 0, _ => ([], 0, false)
  | _ + 1, [] => ([], 0, false)
  | fuel + 1, c :: rest =>
      if c == quote then ([], 1, true)
      else
        let (value, n) : Char × Nat := if c == '&' then
            match entity? rest with
            | some (decoded, n) => (decoded, n)
            | none => ('&', 0)
          else (c, 0)
        let (more, m, closed) := scanMarkupString quote fuel (rest.drop n)
        (value :: more, 1 + n + m, closed)

/-- Text between tags, up to a bracket or brace that opens something: its value with
entities decoded and line ends made single line feeds, its length, whether anything
follows it, and the brackets and braces that should not stand in it. -/
def scanMarkupText : Nat → Nat → List Char → List Char × Nat × Bool × List Trouble
  | 0, _, _ => ([], 0, false, [])
  | _ + 1, _, [] => ([], 0, false, [])
  | fuel + 1, offset, c :: rest =>
      if c == '<' || c == '{' then ([], 0, true, [])
      else
        let (value, n) : Char × Nat := if c == '&' then
            match entity? rest with
            | some (decoded, n) => (decoded, n)
            | none => ('&', 0)
          else if c == '\r' && rest.head? == some '\n' then ('\n', 1)
          else (c, 0)
        let (more, m, followed, troubles) := scanMarkupText fuel (offset + 1 + n) (rest.drop n)
        (value :: more, 1 + n + m, followed,
          if c == '>' || c == '}' then ⟨offset, .bareMarkupCharacter c⟩ :: troubles else troubles)

/-- A name inside a tag may hold hyphens. -/
def markupNameRun (cs : List Char) : List Char :=
  cs.takeWhile fun c => isNameContinue c || c == '-'

def scanTag (start : Cursor) : Scanned :=
  match start.rest with
  | [] => ⟨.eof, start, none⟩
  | c :: rest =>
      if isNameStart c then
        let name := markupNameRun start.rest
        ⟨.markupName (String.ofList name), start.drop name.length, none⟩
      else if c == '>' then ⟨.markupEnd, start.drop 1, none⟩
      else if c == '<' then ⟨.markupStart, start.drop 1, none⟩
      else if c == '\'' || c == '"' then
        let (value, n, closed) := scanMarkupString c (rest.length + 1) rest
        let finish := start.drop (1 + n)
        ⟨.string (String.ofList value) (start.textTo finish), finish,
          if closed then none else some .unterminatedString⟩
      else scanCode start

end LiveMarkup.Syntax
