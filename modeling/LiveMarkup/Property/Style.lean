import LiveMarkup.Json.Writer
/-
# LiveMarkup.Property.Style -- inline styles

A `Style` lists the entries of a style object in source order.  `set` replaces the
value of a key where it stands and appends a new key at the end, so a style built by
`set` has each key once; one that was received may repeat keys, and then the first
entry of a key is the one found.

`code` writes a style as an object literal.  An entry whose key starts with three
points and whose value is code stands for a spread and is written as that code.
-/

namespace LiveMarkup

set_option autoImplicit false

/-- The value of a style entry. -/
inductive StyleValue where
  | number (value : Double)
  | string (value : String)
  | code (code : String)
  deriving DecidableEq, Repr

structure StyleEntry where
  key : String
  value : StyleValue
  deriving DecidableEq, Repr

/-- The entries of a style in source order. -/
structure Style where
  entries : List StyleEntry
  deriving DecidableEq, Repr

/-- Does a key stand without quotes in an object literal? -/
def isBareKey (s : String) : Bool :=
  let letter (c : Char) : Bool := c.isAlpha || c == '_' || c == '$'
  match s.toList with
  | [] => false
  | c :: rest => letter c && rest.all fun c => letter c || c.isDigit

/-- A key in an object literal. -/
def keyText (key : String) : String := if isBareKey key then key else Json.quoted key

namespace StyleValue

def text : StyleValue → String
  | number x => x.styleText
  | string s => Json.quoted s
  | code c => c

end StyleValue

namespace StyleEntry

/-- Does the entry stand for a spread? -/
def isSpread (e : StyleEntry) : Bool := "...".toList.isPrefixOf e.key.toList

def text (e : StyleEntry) : String :=
  match e.value, e.isSpread with
  | .code c, true => c
  | v, _ => keyText e.key ++ ": " ++ v.text

end StyleEntry

namespace Style

def empty : Style := ⟨[]⟩

instance : Inhabited Style := ⟨empty⟩

def isEmpty (s : Style) : Bool := s.entries.isEmpty

def size (s : Style) : Nat := s.entries.length

/-- The value of the first entry with a key. -/
def get? (s : Style) (key : String) : Option StyleValue :=
  (s.entries.find? fun e => e.key == key).map (·.value)

/-- Entries with the value of a key replaced where it first stands, or appended. -/
def setIn (key : String) (value : StyleValue) : List StyleEntry → List StyleEntry
  | [] => [⟨key, value⟩]
  | e :: rest => if e.key = key then ⟨key, value⟩ :: rest else e :: setIn key value rest

/-- Replace the value of a key in place, or append the key. -/
def set (s : Style) (key : String) (value : StyleValue) : Style := ⟨setIn key value s.entries⟩

/-- The value of the first entry of a key, and the style without that entry. -/
def take (s : Style) (key : String) : Option StyleValue × Style :=
  match s.entries.findIdx? fun e => e.key == key with
  | some i => (s.entries[i]?.map (·.value), ⟨s.entries.eraseIdx i⟩)
  | none => (none, s)

/-- Remove the first entry of a key. -/
def remove (s : Style) (key : String) : Style := (s.take key).2

/-- Entries collected one after the other. -/
def ofEntries (entries : List StyleEntry) : Style :=
  entries.foldl (fun s e => s.set e.key e.value) empty

/-- The style as an object literal. -/
def code (s : Style) : String :=
  match s.entries with
  | [] => "\x7b\x7d"
  | entries => "\x7b " ++ ", ".intercalate (entries.map (·.text)) ++ " \x7d"

end Style

end LiveMarkup
