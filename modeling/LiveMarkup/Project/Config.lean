import LiveMarkup.Json.Decode
import LiveMarkup.Store.Disk
/-
# LiveMarkup.Project.Config -- the settings of a project

Settings are a JSON object with any of the known fields; unknown ones are ignored.
They may also be given as an array, of which the last may be missing.  They stand in
`codepress.json` in the root of the project.
-/

namespace LiveMarkup

set_option autoImplicit false

open LiveMarkup.Json

/-- The settings of a project. -/
structure Config where
  /-- The attribute that holds identifiers. -/
  identifierAttribute : String
  /-- How long files must be quiet before changes are followed. -/
  debounceMs : Nat
  /-- The alias for the root of the project in imports. -/
  importAlias : String
  /-- Where the component map is written, from the root of the project. -/
  componentMapPath : Option Path
  /-- Do identifiers stay in files that are written? -/
  persistIdentifiers : Bool
  /-- The names of directories that hold no sources of the project. -/
  ignoredDirs : List String
  deriving Repr

/-- Why there are no settings. -/
inductive ConfigFailure where
  | unreadable (path : Path) (failure : IoFailure)
  /-- The fault of the text, and its wording with its place. -/
  | malformed (fault : Fault) (description : String)
  deriving Repr

namespace ConfigFailure

/-- What lies behind a failure. -/
def cause : ConfigFailure → String
  | unreadable _ f => f.message
  | malformed _ description => description

def message : ConfigFailure → String
  | unreadable path f => "Failed to read config " ++ path.text ++ ": " ++ f.message
  | malformed _ description => "Invalid config: " ++ description

end ConfigFailure

namespace Config

def defaultAttribute : String := "data-uid"

def defaultAlias : String := "@user-project"

def standard : Config where
  identifierAttribute := defaultAttribute
  debounceMs := 150
  importAlias := defaultAlias
  componentMapPath := none
  persistIdentifiers := false
  ignoredDirs := ["node_modules", ".git", ".next", "dist", "build"]

instance : Inhabited Config := ⟨standard⟩

/-- The name of the file with the settings. -/
def fileName : String := "codepress.json"

/-- Fields given so far. -/
structure Partial where
  identifierAttribute : Option String := none
  debounceMs : Option Nat := none
  importAlias : Option String := none
  componentMapPath : Option (Option Path) := none
  persistIdentifiers : Option Bool := none
  ignoredDirs : Option (List String) := none

/-- Fields that were not given have their standard value. -/
def Partial.complete (p : Partial) : Config where
  identifierAttribute := p.identifierAttribute.getD standard.identifierAttribute
  debounceMs := p.debounceMs.getD standard.debounceMs
  importAlias := p.importAlias.getD standard.importAlias
  componentMapPath := p.componentMapPath.getD standard.componentMapPath
  persistIdentifiers := p.persistIdentifiers.getD standard.persistIdentifiers
  ignoredDirs := p.ignoredDirs.getD standard.ignoredDirs

def asPath (v : Json) : Decoded Path := do return ⟨← asString "path string" v⟩

/-- The names of the fields in order. -/
def fields : List String :=
  ["identifierAttribute", "debounceMs", "importAlias", "componentMapPath", "persistIdentifiers",
    "ignoredDirs"]

/-- Take in a field, unless its name is unknown. -/
def takeField (p : Partial) (name : String) (v : Json) : Option (Decoded Partial) :=
  match name with
  | "identifierAttribute" => some do
      let a ← once name p.identifierAttribute (asString "a string") v
      return { p with identifierAttribute := some a }
  | "debounceMs" => some do
      let a ← once name p.debounceMs asNat v
      return { p with debounceMs := some a }
  | "importAlias" => some do
      let a ← once name p.importAlias (asString "a string") v
      return { p with importAlias := some a }
  | "componentMapPath" => some do
      let a ← once name p.componentMapPath (asOption asPath) v
      return { p with componentMapPath := some a }
  | "persistIdentifiers" => some do
      let a ← once name p.persistIdentifiers asBool v
      return { p with persistIdentifiers := some a }
  | "ignoredDirs" => some do
      let a ← once name p.ignoredDirs (asList (asString "a string")) v
      return { p with ignoredDirs := some a }
  | _ => none

/-- Take in fields in order. -/
def takeItems (origin : Origin) : Nat → List String → Partial → List Json → Decoded Partial
  | n, [], p, rest => do
      leftOver origin n rest
      return p
  | _, _, p, [] => .ok p
  | _, _, _, .fault f :: _ => .error f
  | i, name :: names, p, v :: rest => do
      match takeField p name v with
      | some d =>
          let p ← d.within i
          takeItems origin (i + 1) names p rest
      | none => return p

def ofJson (origin : Origin) : Json → Decoded Config
  | .cut v _ => ofJson origin v
  | .object members => do return (← foldMembers takeField 0 {} members).complete
  | .array items => do return (← takeItems origin 0 fields {} items).complete
  | v => refuse "struct InspectorConfig" v

/-- The settings in a text. -/
def ofText (s : String) : Except ConfigFailure Config :=
  match decodeText (ofJson .text) s with
  | .ok c => .ok c
  | .error f => .error (.malformed f ((Json.ofText s).describe s f))

def toJson (c : Config) : Json :=
  .object [
    ("identifierAttribute", .string c.identifierAttribute),
    ("debounceMs", .ofNat c.debounceMs),
    ("importAlias", .string c.importAlias),
    ("componentMapPath", (c.componentMapPath.map fun p => Json.string p.text).getD .null),
    ("persistIdentifiers", .boolean c.persistIdentifiers),
    ("ignoredDirs", .array (c.ignoredDirs.map .string))]

/-- Read the settings from a file. -/
def load (d : Disk) (path : Path) : Except ConfigFailure Config :=
  match d.readText path with
  | .ok text => ofText text
  | .error f => .error (.unreadable path f)

/-- The settings in the root of a project, or the standard ones. -/
def discover (d : Disk) (root : Path) : Except ConfigFailure Config :=
  let path := root.child fileName
  if d.isFile path then load d path else .ok standard

/-- Where the component map is written. -/
def artifactPath? (c : Config) (root : Path) : Option Path := c.componentMapPath.map (root ++ ·)

end Config

end LiveMarkup
