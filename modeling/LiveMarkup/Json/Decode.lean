import LiveMarkup.Json.Reader
/-
# LiveMarkup.Json.Decode -- JSON values into data

A decoder takes a value and answers with data or with the first fault.  A record may be
written as an object, its fields in any order among unknown ones, or as an array of its
fields in order.

Values reach a decoder in three ways (`Origin`): straight from a text, as a value that
was read whole before, or as the buffered part of a larger value.  They differ in how
an array that is too long is refused.
-/

namespace LiveMarkup.Json

set_option autoImplicit false

/-- How a value reaches its decoder. -/
inductive Origin where
  | text
  | value
  | buffer
  deriving DecidableEq, Repr

/-- Decode something, or say what is wrong first. -/
abbrev Decoded (α : Type) := Except Fault α

def Decoded.within {α : Type} (i : Nat) (d : Decoded α) : Decoded α := d.mapError (Fault.within i)

/-- The refusal of a value of another type: a container is refused before it is opened. -/
def refuse {α : Type} (expected : String) (v : Json) : Decoded α :=
  match v with
  | .fault f => .error f
  | .array _ | .object _ => .error (.here (.wrongType v.found expected) .start)
  | _ => .error (.here (.wrongType v.found expected) .stop)

def asBool : Json → Decoded Bool
  | .boolean b => .ok b
  | .cut v _ => asBool v
  | v => refuse "a boolean" v

def asString (expected : String) : Json → Decoded String
  | .string s => .ok s
  | .cut v _ => asString expected v
  | v => refuse expected v

/-- A natural number of sixty-four bits. -/
def asNat : Json → Decoded Nat
  | .number (.whole (.ofNat n)) => .ok n
  | .number (.whole i) => .error (.here (.wrongValue (.whole i) "u64") .stop)
  | .cut v _ => asNat v
  | v => refuse "u64" v

def asDouble : Json → Decoded Double
  | .number (.whole i) => .ok (.ofInt i)
  | .number (.decimal x) => .ok x
  | .cut v _ => asDouble v
  | v => refuse "f64" v

/-- Null is nothing. -/
def asOption {α : Type} (d : Json → Decoded α) : Json → Decoded (Option α)
  | .null => .ok none
  | v => (d v).map some

def itemsOf {α : Type} (d : Json → Decoded α) : Nat → List Json → Decoded (List α)
  | _, [] => .ok []
  | _, .fault f :: _ => .error f
  | i, v :: rest => do
      let a ← (d v).within i
      let more ← itemsOf d (i + 1) rest
      return a :: more

def asList {α : Type} (d : Json → Decoded α) : Json → Decoded (List α)
  | .array items => itemsOf d 0 items
  | .cut (.array items) _ => itemsOf d 0 items
  | .cut (.fault f) _ => .error f
  | .cut v _ => refuse "a sequence" v
  | v => refuse "a sequence" v

/-- What is wrong with items after the last one that belongs to a record of `n` fields. -/
def leftOver (origin : Origin) (n : Nat) : List Json → Decoded Unit
  | [] => .ok ()
  | rest =>
      match origin with
      | .value => .error (.here (.wrongLength (n + rest.length) "fewer elements in array") .stop)
      | .buffer =>
          let expected := toString n ++ (if n = 1 then " element" else " elements") ++ " in sequence"
          .error (.here (.wrongLength (n + rest.length) expected) .stop)
      | .text =>
          match rest with
          | .fault f :: _ =>
              match f.cause with
              | .endInArray | .trailingComma => .error f
              | _ => .error ⟨.trailingText, f.place⟩
          | _ => .error ⟨.trailingText, .part [n] .behindStart⟩

/-- Walk the members of an object: `step` takes a known field into the state, and says
nothing about an unknown one, which is skipped. -/
def foldMembers {σ : Type} (step : σ → String → Json → Option (Decoded σ)) :
    Nat → σ → List (String × Json) → Decoded σ
  | _, s, [] => .ok s
  | _, _, (_, .fault f) :: _ => .error f
  | i, s, (k, v) :: rest =>
      match step s k v with
      | some d => do
          let s ← d.within i
          foldMembers step (i + 1) s rest
      | none =>
          match v.skipFault? with
          | some f => .error f
          | none => foldMembers step (i + 1) s rest

/-- Decode into a field that was not yet given. -/
def once {α : Type} (name : String) (old : Option α) (d : Json → Decoded α) (v : Json) : Decoded α :=
  match old with
  | some _ => .error (.here (.duplicateField name) .key)
  | none => d v

/-- A field that must have been given. -/
def required {α : Type} (name : String) : Option α → Decoded α
  | some a => .ok a
  | none => .error (.here (.missingField name) .stop)

/-- The name of one of several variants. -/
def asVariant {α : Type} (names : List (String × α)) (v : Json) : Decoded α := do
  let s ← asString "variant identifier" v
  match names.lookup s with
  | some a => return a
  | none => throw (.here (.unknownVariant s (names.map (·.1))) .stop)

/-- A value read whole: its first fault, wherever it is. -/
def asWhole (v : Json) : Decoded Json :=
  match v.firstFault? with
  | some f => .error f
  | none => .ok v

/-- Decode a text. -/
def decodeText {α : Type} (d : Json → Decoded α) (s : String) : Except Fault α := do
  let r := ofText s
  let a ← d r.value
  match r.trailing with
  | some f => throw f
  | none => return a

/-- Members in the order of their names, of repeated ones the last. -/
def sortedMembers (members : List (String × Json)) : List (String × Json) :=
  let insert (sorted : List (String × Json)) (m : String × Json) : List (String × Json) :=
    let before := sorted.takeWhile fun x => decide (x.1 < m.1)
    let after := (sorted.drop before.length).dropWhile fun x => x.1 == m.1
    before ++ m :: after
  members.foldl insert []

/-- A value as a whole: members sorted, without repetitions. -/
def settled : Json → Json
  | .array items => .array (ofItems items)
  | .object members => .object (sortedMembers (ofMembers members))
  | .cut v _ => settled v
  | v => v
where
  ofItems : List Json → List Json
    | [] => []
    | v :: rest => settled v :: ofItems rest
  ofMembers : List (String × Json) → List (String × Json)
    | [] => []
    | (k, v) :: rest => (k, settled v) :: ofMembers rest

end LiveMarkup.Json
