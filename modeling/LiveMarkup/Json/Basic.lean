import LiveMarkup.Number.Text
import LiveMarkup.Text.Quoted
/-
# LiveMarkup.Json.Basic -- JSON values and what can be wrong with them

`Json` is a JSON value with the members of objects in the order in which they were
written, repetitions included.  A value that was read from text may be damaged: where
reading stopped stands a `fault`, and a value that holds one is marked by `cut`
together with the fault that skipping over the value would meet.  So a decoder that
walks a value in the order of the text complains about whatever comes first, the shape
of the data or the spelling of the text.

A `Fault` is a cause at a place; `Cause.kind` sorts the causes and `Cause.message` is
their wording.
-/

namespace LiveMarkup

set_option autoImplicit false

namespace Json

/-- A number: whole numbers of at most sixty-four bits are kept exactly. -/
inductive Number where
  | whole (value : Int)
  | decimal (value : Double)
  deriving DecidableEq, Repr

/-- What stands in a value, as far as a message names it. -/
inductive Found where
  | null
  | boolean (value : Bool)
  | whole (value : Int)
  | decimal (value : Double)
  | string (value : String)
  | array
  | object
  deriving DecidableEq, Repr

inductive Cause where
  -- The text ended early.
  | endInArray
  | endInObject
  | endInString
  | endInValue
  -- The text is no JSON.
  | colonExpected
  | commaOrBracketExpected
  | commaOrBraceExpected
  | wordExpected
  | valueExpected
  | badEscape
  | badNumber
  | numberTooLarge
  | controlCharacter
  | keyExpected
  | loneSurrogate
  | brokenSurrogate
  | trailingComma
  | trailingText
  | tooDeep
  -- The value has not the shape asked for.
  | wrongType (found : Found) (expected : String)
  | wrongValue (found : Found) (expected : String)
  | wrongLength (length : Nat) (expected : String)
  | unknownVariant (name : String) (expected : List String)
  | missingField (name : String)
  | duplicateField (name : String)
  | noVariant (type : String)
  deriving DecidableEq, Repr

/-- The three kinds of causes. -/
inductive FaultKind where
  | ended
  | spelling
  | shape
  deriving DecidableEq, Repr

namespace Found

def text : Found → String
  | null => "null"
  | boolean b => "boolean `" ++ toString b ++ "`"
  | whole i => "integer `" ++ toString i ++ "`"
  | decimal x => "floating point `" ++ x.dataText ++ "`"
  | string s => "string " ++ Text.quoted s
  | array => "sequence"
  | object => "map"

end Found

namespace Cause

def kind : Cause → FaultKind
  | endInArray | endInObject | endInString | endInValue => .ended
  | colonExpected | commaOrBracketExpected | commaOrBraceExpected | wordExpected
  | valueExpected | badEscape | badNumber | numberTooLarge | controlCharacter | keyExpected
  | loneSurrogate | brokenSurrogate | trailingComma | trailingText | tooDeep => .spelling
  | wrongType _ _ | wrongValue _ _ | wrongLength _ _ | unknownVariant _ _ | missingField _
  | duplicateField _ | noVariant _ => .shape

/-- Alternatives in a message. -/
def alternatives : List String → String
  | [] => "there are no variants"
  | [a] => "`" ++ a ++ "`"
  | [a, b] => "`" ++ a ++ "` or `" ++ b ++ "`"
  | names => "one of " ++ ", ".intercalate (names.map fun n => "`" ++ n ++ "`")

def message : Cause → String
  | endInArray => "EOF while parsing a list"
  | endInObject => "EOF while parsing an object"
  | endInString => "EOF while parsing a string"
  | endInValue => "EOF while parsing a value"
  | colonExpected => "expected `:`"
  | commaOrBracketExpected => "expected `,` or `]`"
  | commaOrBraceExpected => "expected `,` or `\x7d`"
  | wordExpected => "expected ident"
  | valueExpected => "expected value"
  | badEscape => "invalid escape"
  | badNumber => "invalid number"
  | numberTooLarge => "number out of range"
  | controlCharacter => "control character (\\u0000-\\u001F) found while parsing a string"
  | keyExpected => "key must be a string"
  | loneSurrogate => "lone leading surrogate in hex escape"
  | brokenSurrogate => "unexpected end of hex escape"
  | trailingComma => "trailing comma"
  | trailingText => "trailing characters"
  | tooDeep => "recursion limit exceeded"
  | wrongType found expected => "invalid type: " ++ found.text ++ ", expected " ++ expected
  | wrongValue found expected => "invalid value: " ++ found.text ++ ", expected " ++ expected
  | wrongLength n expected => "invalid length " ++ toString n ++ ", expected " ++ expected
  | unknownVariant name [] => "unknown variant `" ++ name ++ "`, there are no variants"
  | unknownVariant name names => "unknown variant `" ++ name ++ "`, expected " ++ alternatives names
  | missingField name => "missing field `" ++ name ++ "`"
  | duplicateField name => "duplicate field `" ++ name ++ "`"
  | noVariant type => "data did not match any variant of untagged enum " ++ type

end Cause

/-- Which place of a part of a value is meant. -/
inductive Side where
  | start
  | behindStart
  | stop
  | key
  deriving DecidableEq, Repr

/-- A place: so many bytes into the text, or a part of the value that was read, reached
by the positions of the parts on the way to it. -/
inductive Place where
  | offset (bytes : Nat)
  | part (steps : List Nat) (side : Side)
  deriving DecidableEq, Repr

structure Fault where
  cause : Cause
  place : Place
  deriving DecidableEq, Repr

namespace Fault

def kind (f : Fault) : FaultKind := f.cause.kind

/-- A fault at the value itself. -/
def here (cause : Cause) (side : Side) : Fault := ⟨cause, .part [] side⟩

/-- A fault in the `i`-th part of a value as a fault in the value. -/
def within (i : Nat) (f : Fault) : Fault :=
  match f.place with
  | .offset _ => f
  | .part steps side => ⟨f.cause, .part (i :: steps) side⟩

end Fault

end Json

/-- JSON values, perhaps damaged. -/
inductive Json where
  | null
  | boolean (value : Bool)
  | number (value : Json.Number)
  | string (value : String)
  | array (items : List Json)
  | object (members : List (String × Json))
  | fault (fault : Json.Fault)
  | cut (value : Json) (skipped : Option Json.Fault)
  deriving Repr

namespace Json

instance : Inhabited Json := ⟨null⟩

/-- What a message says stands in a value; a damaged one is named by what is left of it. -/
def found : Json → Found
  | null => .null
  | boolean b => .boolean b
  | number (.whole i) => .whole i
  | number (.decimal x) => .decimal x
  | string s => .string s
  | array _ => .array
  | object _ => .object
  | fault _ => .null
  | cut v _ => v.found

def whole (i : Int) : Json := .number (.whole i)

def ofNat (n : Nat) : Json := .whole n

/-- The value of a member; of repeated ones the last counts. -/
def get? (key : String) : Json → Option Json
  | object members => (members.reverse.find? fun m => m.1 == key).map (·.2)
  | _ => none

/-- The first fault met when a value is read whole. -/
def firstFault? : Json → Option Fault
  | .fault f => some f
  | .cut v _ => firstFault? v
  | .array items => ofItems items
  | .object members => ofMembers members
  | _ => none
where
  ofItems : List Json → Option Fault
    | [] => none
    | v :: rest => (firstFault? v).or (ofItems rest)
  ofMembers : List (String × Json) → Option Fault
    | [] => none
    | (_, v) :: rest => (firstFault? v).or (ofMembers rest)

/-- The fault met when a value is skipped. -/
def skipFault? : Json → Option Fault
  | .fault f => some f
  | .cut _ skipped => skipped
  | _ => none

end Json

end LiveMarkup
