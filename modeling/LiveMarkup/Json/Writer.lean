import LiveMarkup.Json.Basic
/-
# LiveMarkup.Json.Writer -- JSON values into text

`quoted` writes a string: quotes, backslashes and control characters are escaped, and
everything else stands for itself.  `compact` writes a value without any blanks,
`pretty` with one item or member a line.
-/

namespace LiveMarkup.Json

set_option autoImplicit false

/-- The two hexadecimal digits of a control character. -/
def controlDigits (n : Nat) : List Char :=
  (if n < 16 then ['0'] else []) ++ Nat.toDigits 16 n

/-- One character inside a string. -/
def escaped (c : Char) : List Char :=
  if c = '"' then ['\\', '"']
  else if c = '\\' then ['\\', '\\']
  else if c = '\x08' then ['\\', 'b']
  else if c = '\x0c' then ['\\', 'f']
  else if c = '\n' then ['\\', 'n']
  else if c = '\r' then ['\\', 'r']
  else if c = '\t' then ['\\', 't']
  else if c.toNat < 32 then ['\\', 'u', '0', '0'] ++ controlDigits c.toNat
  else [c]

/-- A string with its quotes. -/
def quotedChars (cs : List Char) : List Char := '"' :: cs.flatMap escaped ++ ['"']

def quoted (s : String) : String := String.ofList (quotedChars s.toList)

def Number.text : Number → String
  | whole i => toString i
  | decimal x => x.dataText

/-- Texts between brackets, with commas. -/
def enclosed (opening closing : String) (parts : List String) : String :=
  opening ++ ",".intercalate parts ++ closing

/-- A value without blanks. -/
def compact : Json → String
  | .null => "null"
  | .boolean b => toString b
  | .number x => x.text
  | .string s => quoted s
  | .array items => enclosed "[" "]" (ofItems items)
  | .object members => enclosed "\x7b" "\x7d" (ofMembers members)
  | .fault _ => "null"
  | .cut v _ => compact v
where
  ofItems : List Json → List String
    | [] => []
    | v :: rest => compact v :: ofItems rest
  ofMembers : List (String × Json) → List String
    | [] => []
    | (k, v) :: rest => (quoted k ++ ":" ++ compact v) :: ofMembers rest

def indent (level : Nat) : String := "".pushn ' ' (2 * level)

/-- Lines between brackets; nothing between them stays on one line. -/
def spread (level : Nat) (opening closing : String) (lines : List String) : String :=
  if lines.isEmpty then opening ++ closing
  else opening ++ "\n" ++ ",\n".intercalate (lines.map (indent (level + 1) ++ ·)) ++ "\n"
    ++ indent level ++ closing

/-- A value on several lines, each level two blanks deeper. -/
def prettyAt (level : Nat) : Json → String
  | .null => "null"
  | .boolean b => toString b
  | .number x => x.text
  | .string s => quoted s
  | .array items => spread level "[" "]" (ofItems (level + 1) items)
  | .object members => spread level "\x7b" "\x7d" (ofMembers (level + 1) members)
  | .fault _ => "null"
  | .cut v _ => prettyAt level v
where
  ofItems (level : Nat) : List Json → List String
    | [] => []
    | v :: rest => prettyAt level v :: ofItems level rest
  ofMembers (level : Nat) : List (String × Json) → List String
    | [] => []
    | (k, v) :: rest => (quoted k ++ ": " ++ prettyAt level v) :: ofMembers level rest

def pretty (v : Json) : String := prettyAt 0 v

end LiveMarkup.Json
