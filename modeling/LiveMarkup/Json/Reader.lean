import LiveMarkup.Json.Basic
import LiveMarkup.Text.Entity
/-
# LiveMarkup.Json.Reader -- text into JSON values

`ofText` reads a text as one JSON value.  The answer always has a value, damaged where
the text is (see `LiveMarkup.Json.Basic`), an outline that says where each part stands
in the text, and the fault of whatever follows the value.

There are two ways over a text.  Reading checks everything: escapes make whole
characters, numbers have a finite value, nesting is bounded.  Skipping only finds the
end of a value.  A value that cannot be read can so still be skipped.

A number with a point or an exponent is its digits, cut to sixty-four bits, multiplied
or divided by a power of ten in double precision.
-/

namespace LiveMarkup.Json

set_option autoImplicit false

/-- The rest of a text and how many bytes came before it. -/
structure Cursor where
  rest : List Char
  offset : Nat
  deriving Repr

namespace Cursor

def ofText (s : String) : Cursor := ⟨s.toList, 0⟩

/-- Move over characters of one byte each. -/
def drop (n : Nat) (c : Cursor) : Cursor := ⟨c.rest.drop n, c.offset + min n c.rest.length⟩

/-- Blanks between tokens. -/
def isBlank (c : Char) : Bool := c == ' ' || c == '\n' || c == '\t' || c == '\r'

def skipBlanks (c : Cursor) : Cursor := c.drop (c.rest.takeWhile isBlank).length

/-- A fault at the bytes consumed so far. -/
def fault (c : Cursor) (cause : Cause) : Fault := ⟨cause, .offset c.offset⟩

/-- A fault at the next character, as far as there is one. -/
def faultNext (c : Cursor) (cause : Cause) : Fault :=
  ⟨cause, .offset (c.offset + min 1 c.rest.length)⟩

def digitCount (c : Cursor) : Nat := (c.rest.takeWhile Char.isDigit).length

end Cursor

/-! ## Words and strings -/

/-- The rest of a word whose first letter was seen. -/
def readWord : List Char → Cursor → Except Fault Cursor
  | [], c => .ok c
  | w :: ws, c =>
      match c.rest with
      | [] => .error (c.fault .endInValue)
      | x :: _ => if x == w then readWord ws (c.drop 1) else .error ((c.drop 1).fault .wordExpected)

/-- Four hexadecimal digits. -/
def readHex (c : Cursor) : Except Fault (Nat × Cursor) :=
  let bytes := c.rest.foldl (fun n x => n + x.utf8Size) 0
  if bytes < 4 then .error ⟨.endInString, .offset (c.offset + bytes)⟩
  else
    let four := c.rest.take 4
    if four.all Text.isHexDigit then .ok (Text.digitsValue 16 four, c.drop 4)
    else .error ⟨.badEscape, .offset (c.offset + 4)⟩

/-- What a one-letter escape stands for. -/
def shortEscape? : Char → Option Char
  | '"' => some '"'
  | '\\' => some '\\'
  | '/' => some '/'
  | 'b' => some '\x08'
  | 'f' => some '\x0c'
  | 'n' => some '\n'
  | 'r' => some '\r'
  | 't' => some '\t'
  | _ => none

/-- The character of an escape by code, behind its `\u`. -/
def readCode (c : Cursor) : Except Fault (Char × Cursor) := do
  let (n, c) ← readHex c
  if 0xdc00 ≤ n ∧ n ≤ 0xdfff then throw (c.fault .loneSurrogate)
  if n < 0xd800 ∨ 0xdbff < n then return (Char.ofNat n, c)
  match c.rest with
  | [] => throw (c.fault .endInString)
  | '\\' :: _ =>
      let c := c.drop 1
      match c.rest with
      | [] => throw (c.fault .endInString)
      | 'u' :: _ =>
          let (m, c) ← readHex (c.drop 1)
          if m < 0xdc00 ∨ 0xdfff < m then throw (c.fault .loneSurrogate)
          return (Char.ofNat ((n - 0xd800) * 0x400 + (m - 0xdc00) + 0x10000), c)
      | _ => throw ((c.drop 1).fault .brokenSurrogate)
  | _ => throw ((c.drop 1).fault .brokenSurrogate)

/-- The rest of a string behind its opening quote; `fuel` bounds its length. -/
def readString : Nat → List Char → Cursor → Except Fault (String × Cursor)
  | 0, _, c => .error (c.fault .endInString)
  | fuel + 1, read, c =>
      match c.rest with
      | [] => .error (c.fault .endInString)
      | '"' :: _ => .ok (String.ofList read.reverse, c.drop 1)
      | '\\' :: rest =>
          let c := c.drop 1
          match rest with
          | [] => .error (c.fault .endInString)
          | 'u' :: _ =>
              match readCode (c.drop 1) with
              | .ok (x, c) => readString fuel (x :: read) c
              | .error f => .error f
          | e :: _ =>
              match shortEscape? e with
              | some x => readString fuel (x :: read) (c.drop 1)
              | none => .error ⟨.badEscape, .offset (c.offset + 1)⟩
      | x :: rest =>
          if x.toNat < 32 then .error ((c.drop 1).fault .controlCharacter)
          else readString fuel (x :: read) ⟨rest, c.offset + x.utf8Size⟩

/-- Behind the end of a string. -/
def skipString : Nat → Cursor → Except Fault Cursor
  | 0, c => .error (c.fault .endInString)
  | fuel + 1, c =>
      match c.rest with
      | [] => .error (c.fault .endInString)
      | '"' :: _ => .ok (c.drop 1)
      | '\\' :: rest =>
          let c := c.drop 1
          match rest with
          | [] => .error (c.fault .endInString)
          | 'u' :: _ =>
              match readHex (c.drop 1) with
              | .ok (_, c) => skipString fuel c
              | .error f => .error f
          | e :: _ =>
              match shortEscape? e with
              | some _ => skipString fuel (c.drop 1)
              | none => .error ⟨.badEscape, .offset (c.offset + 1)⟩
      | x :: rest =>
          if x.toNat < 32 then .error ((c.drop 1).fault .controlCharacter)
          else skipString fuel ⟨rest, c.offset + x.utf8Size⟩

/-! ## Numbers -/

/-- The largest count of units kept of a number's digits. -/
def largestCount : Nat := 0xffffffffffffffff

/-- A power of ten in double precision. -/
def powerOfTen (n : Nat) : Double := Double.ofDecimal false 1 n

/-- `x` times ten to a power, in steps that double precision holds; none when the result
is too large. -/
def scaled : Nat → Double → Int → Option Double
  | 0, x, _ => some x
  | fuel + 1, x, e =>
      if e.natAbs ≤ 308 then
        if 0 ≤ e then
          let y := x.mul (powerOfTen e.natAbs)
          if y.isFinite then some y else none
        else some (x.div (powerOfTen e.natAbs))
      else if x.isZero then some x
      else if 0 ≤ e then none
      else scaled fuel (x.div (powerOfTen 308)) (e + 308)

/-- The number with these digits and exponent. -/
def decimalOf (positive : Bool) (count : Nat) (exponent : Int) (c : Cursor) :
    Except Fault (Number × Cursor) :=
  match scaled 4 (Double.ofNat count) exponent with
  | some x => .ok (.decimal (if positive then x else x.neg), c)
  | none => .error (c.fault .numberTooLarge)

/-- Digits added to a count while it stays within its bound: the count, how many digits
went into it, and whether digits were left. -/
def takeDigits : Nat → Nat → List Char → Nat × Nat × Bool
  | count, taken, [] => (count, taken, false)
  | count, taken, d :: rest =>
      if d.isDigit then
        let next := count * 10 + (d.toNat - 48)
        if largestCount < next then (count, taken, true) else takeDigits next (taken + 1) rest
      else (count, taken, false)

/-- The digits of an exponent as a number, up to what thirty-two bits hold. -/
def exponentOf? (digits : List Char) : Option Nat :=
  digits.foldl (fun e d => e.bind fun n =>
    let next := n * 10 + (d.toNat - 48)
    if next ≤ 0x7fffffff then some next else none) (some 0)

/-- Behind `e`. -/
def readExponent (positive : Bool) (count : Nat) (start : Int) (c : Cursor) :
    Except Fault (Number × Cursor) :=
  let (up, c) := match c.rest with
    | '+' :: _ => (true, c.drop 1)
    | '-' :: _ => (false, c.drop 1)
    | _ => (true, c)
  match c.rest with
  | [] => .error (c.fault .endInValue)
  | d :: _ =>
      if !d.isDigit then .error ⟨.badNumber, .offset (c.offset + 1)⟩
      else
        let n := c.digitCount
        match exponentOf? (c.rest.take n) with
        | some e => decimalOf positive count (if up then start + e else start - e) (c.drop n)
        | none =>
            if count != 0 && up then .error (c.fault .numberTooLarge)
            else .ok (.decimal (if positive then .zero else Double.zero.neg), c.drop n)

/-- The exponent, when there is one. -/
def readScale (positive : Bool) (count : Nat) (exponent : Int) (c : Cursor) :
    Except Fault (Number × Cursor) :=
  match c.rest with
  | 'e' :: _ | 'E' :: _ => readExponent positive count exponent (c.drop 1)
  | _ => decimalOf positive count exponent c

/-- Behind the point. -/
def readFraction (positive : Bool) (count : Nat) (exponent : Int) (c : Cursor) :
    Except Fault (Number × Cursor) :=
  let n := c.digitCount
  if n = 0 then
    .error (c.faultNext (if c.rest.isEmpty then .endInValue else .badNumber))
  else
    let (count, taken, _) := takeDigits count 0 c.rest
    readScale positive count (exponent - taken) (c.drop n)

/-- A number behind its sign. -/
def readNumber (positive : Bool) (c : Cursor) : Except Fault (Number × Cursor) :=
  match c.rest with
  | [] => .error (c.fault .endInValue)
  | d :: rest =>
      if !d.isDigit then .error ⟨.badNumber, .offset (c.offset + 1)⟩
      else if d == '0' && (rest.head?.map Char.isDigit).getD false then
        .error ((c.drop 1).faultNext .badNumber)
      else
        let n := c.digitCount
        let (count, taken, more) := takeDigits 0 0 c.rest
        let c := c.drop n
        let exponent : Int := (n - taken : Nat)
        match c.rest with
        | '.' :: _ => readFraction positive count exponent (c.drop 1)
        | 'e' :: _ | 'E' :: _ => readExponent positive count exponent (c.drop 1)
        | _ =>
            if more then decimalOf positive count exponent c
            else if positive then .ok (.whole count, c)
            else if count = 0 ∨ 0x8000000000000000 < count then .ok (.decimal (Double.ofNat count).neg, c)
            else .ok (.whole (-count), c)

/-- Behind a number whose sign was passed. -/
def skipNumber (c : Cursor) : Except Fault Cursor :=
  match c.rest with
  | [] => .error (c.fault .badNumber)
  | d :: rest =>
      if !d.isDigit then .error ⟨.badNumber, .offset (c.offset + 1)⟩
      else if d == '0' && (rest.head?.map Char.isDigit).getD false then
        .error ((c.drop 1).faultNext .badNumber)
      else
        let c := c.drop c.digitCount
        match c.rest with
        | '.' :: _ =>
            let c := c.drop 1
            if c.digitCount = 0 then .error (c.faultNext .badNumber)
            else skipScale (c.drop c.digitCount)
        | _ => skipScale c
where
  skipScale (c : Cursor) : Except Fault Cursor :=
    match c.rest with
    | 'e' :: _ | 'E' :: _ =>
        let c := c.drop 1
        let c := match c.rest with
          | '+' :: _ | '-' :: _ => c.drop 1
          | _ => c
        match c.rest with
        | [] => .error (c.fault .badNumber)
        | d :: _ =>
            if d.isDigit then .ok (c.drop c.digitCount)
            else .error ⟨.badNumber, .offset (c.offset + 1)⟩
    | _ => .ok c

/-! ## Skipping values -/

mutual

/-- Behind a value. -/
def skipValue : Nat → Cursor → Except Fault Cursor
  | 0, c => .error (c.fault .tooDeep)
  | fuel + 1, c =>
      let c := c.skipBlanks
      match c.rest with
      | [] => .error (c.faultNext .endInValue)
      | 'n' :: _ => readWord "ull".toList (c.drop 1)
      | 't' :: _ => readWord "rue".toList (c.drop 1)
      | 'f' :: _ => readWord "alse".toList (c.drop 1)
      | '-' :: _ => skipNumber (c.drop 1)
      | '"' :: rest => skipString (rest.length + 1) (c.drop 1)
      | '[' :: _ =>
          let c := (c.drop 1).skipBlanks
          match c.rest with
          | [] => .error (c.faultNext .endInArray)
          | ']' :: _ => .ok (c.drop 1)
          | _ => skipItems fuel c
      | '{' :: _ =>
          let c := (c.drop 1).skipBlanks
          match c.rest with
          | [] => .error (c.faultNext .endInObject)
          | '}' :: _ => .ok (c.drop 1)
          | _ => skipMembers fuel c
      | d :: _ => if d.isDigit then skipNumber c else .error (c.faultNext .valueExpected)

/-- Behind an array, from one of its items. -/
def skipItems : Nat → Cursor → Except Fault Cursor
  | 0, c => .error (c.fault .tooDeep)
  | fuel + 1, c =>
      match skipValue fuel c with
      | .error f => .error f
      | .ok c =>
          let c := c.skipBlanks
          match c.rest with
          | [] => .error (c.faultNext .endInArray)
          | ',' :: _ => skipItems fuel (c.drop 1)
          | ']' :: _ => .ok (c.drop 1)
          | _ => .error (c.faultNext .commaOrBracketExpected)

/-- Behind an object, from one of its members. -/
def skipMembers : Nat → Cursor → Except Fault Cursor
  | 0, c => .error (c.fault .tooDeep)
  | fuel + 1, c =>
      let c := c.skipBlanks
      match c.rest with
      | [] => .error (c.faultNext .endInObject)
      | '"' :: rest =>
          match skipString (rest.length + 1) (c.drop 1) with
          | .error f => .error f
          | .ok c =>
              let c := c.skipBlanks
              match c.rest with
              | [] => .error (c.faultNext .endInObject)
              | ':' :: _ =>
                  match skipValue fuel (c.drop 1) with
                  | .error f => .error f
                  | .ok c =>
                      let c := c.skipBlanks
                      match c.rest with
                      | [] => .error (c.faultNext .endInObject)
                      | ',' :: _ => skipMembers fuel (c.drop 1)
                      | '}' :: _ => .ok (c.drop 1)
                      | _ => .error (c.faultNext .commaOrBraceExpected)
              | _ => .error (c.faultNext .colonExpected)
      | _ => .error (c.faultNext .keyExpected)

end

/-! ## Reading values -/

/-- Where a part of a value stands: the bytes before its end, before its start, and
before the end of its key. -/
inductive Outline where
  | node (key start stop : Nat) (parts : List Outline)
  deriving Repr

namespace Outline

instance : Inhabited Outline := ⟨.node 0 0 0 []⟩

def withKey (key : Nat) : Outline → Outline
  | node _ start stop parts => node key start stop parts

/-- The offset of a side of a part. -/
def offsetOf : Outline → List Nat → Side → Nat
  | node key start stop _, [], side =>
      match side with
      | .start => start
      | .behindStart => start + 1
      | .stop => stop
      | .key => key
  | node _ _ stop parts, i :: steps, side =>
      match parts[i]? with
      | some o => offsetOf o steps side
      | none => stop

end Outline

/-- A value that was read, and the rest of the text unless reading ended here. -/
structure Readout where
  value : Json
  outline : Outline
  rest : Option Cursor

/-- How deep values may nest. -/
def depthLimit : Nat := 127

/-- A part that is nothing but a fault; the text behind it is not read. -/
def Readout.broken (f : Fault) (c : Cursor) : Readout :=
  ⟨.fault f, .node c.offset c.offset c.offset [], none⟩

/-- A value at `c` that holds a fault; the text behind it is read on where skipping ends. -/
def Readout.damaged (fuel : Nat) (v : Json) (parts : List Outline) (c : Cursor) : Readout :=
  match skipValue fuel c with
  | .ok next => ⟨.cut v none, .node c.offset c.offset next.offset parts, some next⟩
  | .error f => ⟨.cut v (some f), .node c.offset c.offset c.offset parts, none⟩

def Readout.plain (v : Json) (c next : Cursor) (parts : List Outline) : Readout :=
  ⟨v, .node c.offset c.offset next.offset parts, some next⟩

mutual

/-- A value; `depth` is how many containers may still be opened. -/
def readValue : Nat → Nat → Cursor → Readout
  | 0, _, c => .broken (c.fault .tooDeep) c
  | fuel + 1, depth, c =>
      let c := c.skipBlanks
      let scalar (r : Except Fault (Json × Cursor)) : Readout :=
        match r with
        | .ok (v, next) => .plain v c next []
        | .error f => .damaged (fuel + 1) (.fault f) [] c
      match c.rest with
      | [] => .damaged (fuel + 1) (.fault (c.faultNext .endInValue)) [] c
      | 'n' :: _ => scalar ((readWord "ull".toList (c.drop 1)).map (.null, ·))
      | 't' :: _ => scalar ((readWord "rue".toList (c.drop 1)).map (.boolean true, ·))
      | 'f' :: _ => scalar ((readWord "alse".toList (c.drop 1)).map (.boolean false, ·))
      | '-' :: _ => scalar ((readNumber false (c.drop 1)).map fun (x, c) => (.number x, c))
      | '"' :: rest =>
          scalar ((readString (rest.length + 1) [] (c.drop 1)).map fun (s, c) => (.string s, c))
      | '[' :: _ =>
          match depth with
          | 0 => .damaged (fuel + 1) (.fault (c.faultNext .tooDeep)) [] c
          | depth + 1 =>
              let inner := (c.drop 1).skipBlanks
              match inner.rest with
              | ']' :: _ => .plain (.array []) c (inner.drop 1) []
              | [] =>
                  .damaged (fuel + 1) (.array [.fault (inner.faultNext .endInArray)]) [] c
              | _ =>
                  let (items, outlines, stop) := readItems fuel depth inner
                  match stop with
                  | some next => .plain (.array items) c next outlines
                  | none => .damaged (fuel + 1) (.array items) outlines c
      | '{' :: _ =>
          match depth with
          | 0 => .damaged (fuel + 1) (.fault (c.faultNext .tooDeep)) [] c
          | depth + 1 =>
              let inner := (c.drop 1).skipBlanks
              match inner.rest with
              | '}' :: _ => .plain (.object []) c (inner.drop 1) []
              | '"' :: _ =>
                  let (members, outlines, stop) := readMembers fuel depth inner
                  match stop with
                  | some next => .plain (.object members) c next outlines
                  | none => .damaged (fuel + 1) (.object members) outlines c
              | [] =>
                  .damaged (fuel + 1) (.object [("", .fault (inner.faultNext .endInObject))]) [] c
              | _ =>
                  .damaged (fuel + 1) (.object [("", .fault (inner.faultNext .keyExpected))]) [] c
      | d :: _ =>
          if d.isDigit then scalar ((readNumber true c).map fun (x, c) => (.number x, c))
          else .damaged (fuel + 1) (.fault (c.faultNext .valueExpected)) [] c

/-- The items of an array from one of them on; no cursor when one of them is damaged
beyond skipping, or what stands between them is. -/
def readItems : Nat → Nat → Cursor → List Json × List Outline × Option Cursor
  | 0, _, c => ([.fault (c.fault .tooDeep)], [], none)
  | fuel + 1, depth, c =>
      let r := readValue fuel depth c
      match r.rest with
      | none => ([r.value], [r.outline], none)
      | some c =>
          let c := c.skipBlanks
          let ending (f : Fault) : List Json × List Outline × Option Cursor :=
            ([r.value, .fault f], [r.outline, .node 0 c.offset c.offset []], none)
          match c.rest with
          | [] => ending (c.faultNext .endInArray)
          | ']' :: _ => ([r.value], [r.outline], some (c.drop 1))
          | ',' :: _ =>
              let c := (c.drop 1).skipBlanks
              match c.rest with
              | [] => ending (c.faultNext .endInValue)
              | ']' :: _ => ending (c.faultNext .trailingComma)
              | _ =>
                  let (items, outlines, stop) := readItems fuel depth c
                  (r.value :: items, r.outline :: outlines, stop)
          | _ => ending (c.faultNext .commaOrBracketExpected)

/-- The members of an object from one of them on. -/
def readMembers : Nat → Nat → Cursor → List (String × Json) × List Outline × Option Cursor
  | 0, _, c => ([("", .fault (c.fault .tooDeep))], [], none)
  | fuel + 1, depth, c =>
      let c := c.skipBlanks
      let ending (f : Fault) : List (String × Json) × List Outline × Option Cursor :=
        ([("", .fault f)], [.node 0 c.offset c.offset []], none)
      match readString (c.rest.length + 1) [] (c.drop 1) with
      | .error f => ending f
      | .ok (key, c) =>
          let keyStop := c.offset
          let c := c.skipBlanks
          match c.rest with
          | [] => ending (c.faultNext .endInObject)
          | ':' :: _ =>
              let r := readValue fuel depth (c.drop 1)
              let outline := r.outline.withKey keyStop
              match r.rest with
              | none => ([(key, r.value)], [outline], none)
              | some c =>
                  let c := c.skipBlanks
                  let ending (f : Fault) : List (String × Json) × List Outline × Option Cursor :=
                    ([(key, r.value), ("", .fault f)], [outline, .node 0 c.offset c.offset []], none)
                  match c.rest with
                  | [] => ending (c.faultNext .endInObject)
                  | '}' :: _ => ([(key, r.value)], [outline], some (c.drop 1))
                  | ',' :: _ =>
                      let c := (c.drop 1).skipBlanks
                      match c.rest with
                      | [] => ending (c.faultNext .endInValue)
                      | '"' :: _ =>
                          let (members, outlines, stop) := readMembers fuel depth c
                          ((key, r.value) :: members, outline :: outlines, stop)
                      | '}' :: _ => ending (c.faultNext .trailingComma)
                      | _ => ending (c.faultNext .keyExpected)
                  | _ => ending (c.faultNext .commaOrBraceExpected)
          | _ => ending (c.faultNext .colonExpected)

end

/-- A text as JSON: its value, where the parts of it stand, and the fault of what follows. -/
structure Reading where
  value : Json
  outline : Outline
  trailing : Option Fault

/-- Read a text. -/
def ofText (s : String) : Reading :=
  let c := Cursor.ofText s
  let r := readValue (2 * c.rest.length + 2) depthLimit c
  let trailing := r.rest.bind fun c =>
    let c := c.skipBlanks
    if c.rest.isEmpty then none else some (c.faultNext .trailingText)
  ⟨r.value, r.outline, trailing⟩

/-- The value of a text without any fault. -/
def ofText? (s : String) : Except Fault Json :=
  let r := ofText s
  match r.value.firstFault?.or r.trailing with
  | some f => .error f
  | none => .ok r.value

/-! ## Places -/

/-- The line, from one, and the column, in bytes, of an offset. -/
def lineAndColumn (s : String) (offset : Nat) : Nat × Nat :=
  let step (state : Nat × Nat × Nat) (c : Char) : Nat × Nat × Nat :=
    let (bytes, line, column) := state
    if offset ≤ bytes then state
    else if c == '\n' then (bytes + 1, line + 1, 0)
    else (bytes + c.utf8Size, line, column + c.utf8Size)
  (s.toList.foldl step (0, 1, 0)).2

/-- The wording of a fault of a text, with its place. -/
def Reading.describe (s : String) (r : Reading) (f : Fault) : String :=
  let offset := match f.place with
    | .offset n => n
    | .part steps side => r.outline.offsetOf steps side
  let (line, column) := lineAndColumn s offset
  f.cause.message ++ " at line " ++ toString line ++ " column " ++ toString column

end LiveMarkup.Json
