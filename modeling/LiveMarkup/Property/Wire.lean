import LiveMarkup.Json.Decode
import LiveMarkup.Property.Value
/-
# LiveMarkup.Property.Wire -- values of properties as JSON

A value is written as an object with its `kind` and, unless the kind says it all, its
`value`.  It is read back from such an object whatever the order of the two, from
unknown fields apart, and from an array of the two.  A style value is a number, a
string, or an object with `code`.
-/

namespace LiveMarkup.Property

set_option autoImplicit false

open LiveMarkup.Json

/-! ## Writing -/

def codeJson (code : String) : Json := .object [("code", .string code)]

def styleValueJson : StyleValue → Json
  | .number x => .number (.decimal x)
  | .string s => .string s
  | .code c => codeJson c

def styleEntryJson (e : StyleEntry) : Json :=
  .object [("key", .string e.key), ("value", styleValueJson e.value)]

def styleJson (s : Style) : Json := .array (s.entries.map styleEntryJson)

namespace Value

def kindName : Value → String
  | undefined => "undefined"
  | null => "null"
  | boolean _ => "bool"
  | number _ => "number"
  | string _ => "string"
  | code _ => "code"
  | style _ => "style"

def content? : Value → Option Json
  | undefined => none
  | null => none
  | boolean b => some (.boolean b)
  | number x => some (.number (.decimal x))
  | string s => some (.string s)
  | code c => some (codeJson c)
  | style s => some (styleJson s)

def toJson (v : Value) : Json :=
  match v.content? with
  | none => .object [("kind", .string v.kindName)]
  | some c => .object [("kind", .string v.kindName), ("value", c)]

end Value

/-! ## Reading -/

/-- A record of one string field. -/
def asOneString (type field : String) (origin : Origin) : Json → Decoded String
  | .cut v _ => asOneString type field origin v
  | .object members => do
      let step (s : Option String) (k : String) (v : Json) : Option (Decoded (Option String)) :=
        if k = field then some ((once field s (asString "a string") v).map some) else none
      required field (← foldMembers step 0 none members)
  | .array items => do
      match items with
      | [] => throw (.here (.wrongLength 0 ("struct " ++ type ++ " with 1 element")) .stop)
      | .fault f :: _ => throw f
      | v :: rest =>
          let s ← (asString "a string" v).within 0
          leftOver origin 1 rest
          return s
  | v => refuse ("struct " ++ type) v

def asCode : Origin → Json → Decoded String := asOneString "CodeValue" "code"

/-- Decode a style value; it is read whole before its shape is looked at. -/
def asStyleValue (v : Json) : Decoded StyleValue := do
  match ← asWhole v with
  | .number (.whole i) => return .number (.ofInt i)
  | .number (.decimal x) => return .number x
  | .string s => return .string s
  | v =>
      match asCode .buffer v with
      | .ok c => return .code c
      | .error _ => throw (.here (.noVariant "StyleValue") .stop)

def asStyleEntry (origin : Origin) : Json → Decoded StyleEntry
  | .cut v _ => asStyleEntry origin v
  | .object members => do
      let step (s : Option String × Option StyleValue) (k : String) (v : Json) :
          Option (Decoded (Option String × Option StyleValue)) :=
        if k = "key" then some ((once "key" s.1 (asString "a string") v).map fun a => (some a, s.2))
        else if k = "value" then some ((once "value" s.2 asStyleValue v).map fun a => (s.1, some a))
        else none
      let s ← foldMembers step 0 (none, none) members
      let key ← required "key" s.1
      let value ← required "value" s.2
      return ⟨key, value⟩
  | .array items => do
      let short (n : Nat) : Fault := .here (.wrongLength n "struct StyleEntry with 2 elements") .stop
      match items with
      | [] => throw (short 0)
      | .fault f :: _ => throw f
      | k :: rest =>
          let key ← (asString "a string" k).within 0
          match rest with
          | [] => throw (short 1)
          | .fault f :: _ => throw f
          | v :: rest =>
              let value ← (asStyleValue v).within 1
              leftOver origin 2 rest
              return ⟨key, value⟩
  | v => refuse "struct StyleEntry" v

def asStyle (origin : Origin) (v : Json) : Decoded Style := do
  return ⟨← asList (asStyleEntry origin) v⟩

/-- The kinds of values as they are named. -/
inductive Tag where
  | undefined | null | boolean | number | string | code | style
  deriving DecidableEq, Repr

namespace Tag

def names : List (String × Tag) :=
  [("undefined", undefined), ("null", null), ("bool", boolean), ("number", number),
    ("string", string), ("code", code), ("style", style)]

/-- The content of a kind that says it all is null. -/
def asNothing (variant : String) : Json → Decoded Unit
  | .null => .ok ()
  | .cut v _ => asNothing variant v
  | v => refuse ("unit variant PropValue::" ++ variant) v

/-- The value of a kind with its content. -/
def decode (origin : Origin) : Tag → Json → Decoded Value
  | undefined, v => do asNothing "Undefined" v; return .undefined
  | null, v => do asNothing "Null" v; return .null
  | boolean, v => do return .boolean (← asBool v)
  | number, v => do return .number (← asDouble v)
  | string, v => do return .string (← asString "a string" v)
  | code, v => do return .code (← asCode origin v)
  | style, v => do return .style (← asStyle origin v)

/-- The value of a kind without content. -/
def alone : Tag → Decoded Value
  | undefined => .ok .undefined
  | null => .ok .null
  | _ => .error (.here (.missingField "value") .stop)

end Tag

/-- What was met of a value's object so far. -/
inductive Met where
  | nothing
  | tag (tag : Tag)
  | content (content : Json)
  | all (value : Value)

/-- Decode the value of a property. -/
def Value.ofJson (origin : Origin) : Json → Decoded Value
  | .cut v _ => Value.ofJson origin v
  | .object members => do
      let step (m : Met) (k : String) (v : Json) : Option (Decoded Met) :=
        if k = "kind" then
          some <| match m with
            | .nothing => (asVariant Tag.names v).map .tag
            | .content c => do
                let tag ← asVariant Tag.names v
                return .all (← tag.decode .buffer c)
            | _ => .error (.here (.duplicateField "kind") .key)
        else if k = "value" then
          some <| match m with
            | .nothing => (asWhole v).map .content
            | .tag t => (t.decode origin v).map .all
            | _ => .error (.here (.duplicateField "value") .key)
        else none
      match ← foldMembers step 0 .nothing members with
      | .all value => return value
      | .tag tag => tag.alone
      | _ => throw (.here (.missingField "kind") .stop)
  | .array items => do
      let short (n : Nat) : Fault := .here (.wrongLength n "adjacently tagged enum PropValue") .stop
      match items with
      | [] => throw (short 0)
      | .fault f :: _ => throw f
      | k :: rest =>
          let tag ← (asVariant Tag.names k).within 0
          match rest with
          | [] => throw (short 1)
          | .fault f :: _ => throw f
          | v :: rest =>
              let value ← (tag.decode origin v).within 1
              leftOver origin 2 rest
              return value
  | v => refuse "adjacently tagged enum PropValue" v

end LiveMarkup.Property
