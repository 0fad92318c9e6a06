import LiveMarkup.Json.Decode
import LiveMarkup.OrderedMap
import LiveMarkup.Source.Variant
/-
# LiveMarkup.Project.Change -- changes of source files

A change says that a file was created, changed or deleted.  The operating system tells
of more; `Notification.changes` keeps what concerns sources, a rename being a deletion
and a creation.  A `ChangeSet` gathers changes, the latest of each path.
-/

namespace LiveMarkup

set_option autoImplicit false

inductive ChangeKind where
  | created
  | changed
  | deleted
  deriving DecidableEq, Repr

namespace ChangeKind

def name : ChangeKind → String
  | created => "created"
  | changed => "changed"
  | deleted => "deleted"

def names : List (String × ChangeKind) :=
  [("created", created), ("changed", changed), ("deleted", deleted)]

end ChangeKind

/-- A change of one file. -/
structure Change where
  kind : ChangeKind
  path : Path
  deriving Repr

namespace Change

def toJson (c : Change) : Json :=
  .object [("kind", .string c.kind.name), ("path", .string c.path.text)]

open Json

/-- A kind by its name, or by an object with its name and null. -/
def asKind : Json → Decoded ChangeKind
  | .cut v _ => asKind v
  | .object [(k, .null)] => asVariant ChangeKind.names (.string k)
  | .object [(k, v)] => do
      let _ ← asVariant ChangeKind.names (.string k)
      refuse "unit" v
  | .object _ => .error (.here (.wrongValue .object "map with a single key") .stop)
  | .string s => asVariant ChangeKind.names (.string s)
  | v => refuse "string or map" v

def ofJson (origin : Origin) : Json → Decoded Change
  | .cut v _ => ofJson origin v
  | .object members => do
      let step (s : Option ChangeKind × Option String) (k : String) (v : Json) :
          Option (Decoded (Option ChangeKind × Option String)) :=
        if k = "kind" then some ((once "kind" s.1 asKind v).map fun a => (some a, s.2))
        else if k = "path" then
          some ((once "path" s.2 (asString "path string") v).map fun a => (s.1, some a))
        else none
      let s ← foldMembers step 0 (none, none) members
      return ⟨← required "kind" s.1, ⟨← required "path" s.2⟩⟩
  | .array items => do
      let short (n : Nat) : Fault := .here (.wrongLength n "struct FileEvent with 2 elements") .stop
      match items with
      | [] => throw (short 0)
      | [_] => throw (short 1)
      | k :: p :: rest =>
          let kind ← (asKind k).within 0
          let path ← (asString "path string" p).within 1
          leftOver origin 2 rest
          return ⟨kind, ⟨path⟩⟩
  | v => refuse "struct FileEvent" v

end Change

/-! ## Notifications -/

/-- What a notification of a rename tells of. -/
inductive RenameSide where
  | unknown
  | before
  | after
  | both
  deriving DecidableEq, Repr

/-- What happened to files, as the operating system tells it. -/
inductive NotificationKind where
  | create
  | remove
  | rename (side : RenameSide)
  /-- Permissions, times and the like. -/
  | attributes
  /-- The content, or something not told. -/
  | modify
  | other
  deriving DecidableEq, Repr

structure Notification where
  kind : NotificationKind
  paths : List Path
  deriving Repr

namespace Notification

/-- The changes of files of any kind. -/
def allChanges (n : Notification) : List Change :=
  match n.kind with
  | .create | .rename .after => n.paths.map (⟨.created, ·⟩)
  | .remove | .rename .before => n.paths.map (⟨.deleted, ·⟩)
  | .rename .both =>
      match n.paths with
      | source :: target :: _ => [⟨.deleted, source⟩, ⟨.created, target⟩]
      | _ => []
  | .rename .unknown | .modify => n.paths.map (⟨.changed, ·⟩)
  | .attributes | .other => []

/-- The changes of source files. -/
def changes (n : Notification) : List Change := n.allChanges.filter fun c => c.path.isSource

end Notification

/-! ## Sets of changes -/

/-- The latest change of each path. -/
structure ChangeSet where
  kinds : OrderedMap Path ChangeKind
  deriving Repr

namespace ChangeSet

def empty : ChangeSet := ⟨.empty⟩

instance : Inhabited ChangeSet := ⟨empty⟩

def record (s : ChangeSet) (c : Change) : ChangeSet := ⟨s.kinds.insert c.path c.kind⟩

def add (s : ChangeSet) (changes : List Change) : ChangeSet := changes.foldl record s

def size (s : ChangeSet) : Nat := s.kinds.size

def isEmpty (s : ChangeSet) : Bool := s.kinds.isEmpty

/-- The changes in path order. -/
def changes (s : ChangeSet) : List Change := s.kinds.entries.map fun e => ⟨e.2, e.1⟩

end ChangeSet

end LiveMarkup
