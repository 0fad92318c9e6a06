import LiveMarkup.Property.Extract
import LiveMarkup.Property.Wire
/-
# LiveMarkup.Project.Message -- what the preview and the editor say to a project

The preview asks for an element by its identifier, or says whether clicks count; the
editor asks for a property to be changed.  A `Selection` is what is shown of an element.
-/

namespace LiveMarkup

set_option autoImplicit false

open LiveMarkup.Json

/-- A message of the preview. -/
inductive Message where
  | select (uid : String)
  | designMode (active : Bool)
  deriving DecidableEq, Repr

namespace Message

def selectName : String := "codepress-select-uid"

def designModeName : String := "codepress-set-design-mode"

def toJson : Message → Json
  | select uid => .object [("type", .string selectName), ("uid", .string uid)]
  | designMode active => .object [("type", .string designModeName), ("active", .boolean active)]

/-- The kinds of messages. -/
inductive Tag where
  | select
  | designMode
  deriving DecidableEq, Repr

namespace Tag

def names : List (String × Tag) := [(selectName, select), (designModeName, designMode)]

/-- The field of a message besides its kind. -/
def field : Tag → String
  | select => "uid"
  | designMode => "active"

def struct : Tag → String
  | select => "struct variant HostMessage::SelectUid"
  | designMode => "struct variant HostMessage::SetDesignMode"

/-- A message of a kind with its field. -/
def decodeField : Tag → Json → Decoded Message
  | select, v => do return .select (← asString "a string" v)
  | designMode, v => do return .designMode (← asBool v)

/-- The message of a kind among the other members of its object. -/
def decodeMembers (t : Tag) (members : List (String × Json)) : Decoded Message := do
  let step (s : Option Message) (k : String) (v : Json) : Option (Decoded (Option Message)) :=
    if k = t.field then some ((once t.field s t.decodeField v).map some) else none
  required t.field (← foldMembers step 0 none members)

/-- The message of a kind before the other items of its array. -/
def decodeItems (t : Tag) : List Json → Decoded Message
  | [] => .error (.here (.wrongLength 0 (t.struct ++ " with 1 element")) .stop)
  | v :: rest => do
      let m ← t.decodeField v
      leftOver .buffer 1 rest
      return m

end Tag

/-- The kind and the other members of an object, all of it read whole. -/
def splitMembers (s : Option Tag × List (String × Json)) (k : String) (v : Json) :
    Option (Decoded (Option Tag × List (String × Json))) :=
  some <|
    if k = "type" then (once "type" s.1 (asVariant Tag.names) v).map fun t => (some t, s.2)
    else (asWhole v).map fun v => (s.1, s.2 ++ [(k, v)])

def ofJson : Json → Decoded Message
  | .cut v _ => ofJson v
  | .object members => do
      let s ← foldMembers splitMembers 0 (none, []) members
      let tag ← required "type" s.1
      tag.decodeMembers s.2
  | .array items => do
      match items with
      | [] => throw (.here (.missingField "type") .stop)
      | .fault f :: _ => throw f
      | v :: rest =>
          let tag ← (asVariant Tag.names v).within 0
          let _ ← asWhole (.array rest)
          tag.decodeItems rest
  | v => refuse "internally tagged enum HostMessage" v

end Message

/-- A change of a property. -/
structure Edit where
  uid : String
  name : String
  value : Property.Value
  deriving DecidableEq, Repr

namespace Edit

def toJson (e : Edit) : Json :=
  .object [("uid", .string e.uid), ("name", .string e.name), ("value", e.value.toJson)]

/-- Fields given so far. -/
structure Partial where
  uid : Option String := none
  name : Option String := none
  value : Option Property.Value := none

def takeField (origin : Origin) (p : Partial) (name : String) (v : Json) : Option (Decoded Partial) :=
  match name with
  | "uid" => some do
      let a ← once name p.uid (asString "a string") v
      return { p with uid := some a }
  | "name" => some do
      let a ← once name p.name (asString "a string") v
      return { p with name := some a }
  | "value" => some do
      let a ← once name p.value (Property.Value.ofJson origin) v
      return { p with value := some a }
  | _ => none

/-- Take in fields in order; each must be there. -/
def takeItems (origin : Origin) : Nat → List String → Partial → List Json → Decoded Partial
  | n, [], p, rest => do
      leftOver origin n rest
      return p
  | n, _ :: _, _, [] =>
      .error (.here (.wrongLength n "struct PropertyEdit with 3 elements") .stop)
  | _, _, _, .fault f :: _ => .error f
  | i, name :: names, p, v :: rest => do
      match takeField origin p name v with
      | some d =>
          let p ← d.within i
          takeItems origin (i + 1) names p rest
      | none => return p

def Partial.complete (p : Partial) : Decoded Edit := do
  let uid ← required "uid" p.uid
  let name ← required "name" p.name
  let value ← required "value" p.value
  return ⟨uid, name, value⟩

def ofJson (origin : Origin) : Json → Decoded Edit
  | .cut v _ => ofJson origin v
  | .object members => do (← foldMembers (takeField origin) 0 {} members).complete
  | .array items => do (← takeItems origin 0 ["uid", "name", "value"] {} items).complete
  | v => refuse "struct PropertyEdit" v

end Edit

/-! ## Selections -/

namespace Property

def Part.toJson : Part → Json
  | .attribute index => .object [("kind", .string "attribute"), ("index", .ofNat index)]
  | .spread index => .object [("kind", .string "spread"), ("index", .ofNat index)]
  | .text => .object [("kind", .string "textContent")]
  | .children => .object [("kind", .string "children")]

end Property

def Property.toJson (p : Property) : Json :=
  .object [
    ("name", .string p.name),
    ("value", p.value.toJson),
    ("inferredType", .string p.kind.name),
    ("source", p.part.toJson),
    ("readOnly", .boolean p.readOnly)]

/-- The first and the last line. -/
def linesJson : Option Syntax.LineRange → Json
  | some r => .array [.ofNat r.first, .ofNat r.last]
  | none => .null

/-- What is shown of an element. -/
structure Selection where
  uid : String
  path : Path
  version : Nat
  tag : String
  isComponent : Bool
  lines : Option Syntax.LineRange
  properties : List Property
  deriving Repr

namespace Selection

def members (s : Selection) : List (String × Json) :=
  [("uid", .string s.uid), ("path", .string s.path.text), ("version", .ofNat s.version),
    ("tag", .string s.tag), ("isComponent", .boolean s.isComponent), ("lines", linesJson s.lines),
    ("properties", .array (s.properties.map Property.toJson))]

def toJson (s : Selection) : Json := .object s.members

end Selection

/-- The answer to a message. -/
inductive Reply where
  | found (selection : Selection)
  | notFound (uid : String)
  | acknowledged
  deriving Repr

def Reply.toJson : Reply → Json
  | found s => .object (("status", .string "found") :: s.members)
  | notFound uid => .object [("status", .string "notFound"), ("uid", .string uid)]
  | acknowledged => .object [("status", .string "ack")]

end LiveMarkup
