import LiveMarkup.OrderedMap
import LiveMarkup.Source.Variant
/-
# LiveMarkup.Store.Basic -- where sources are kept

A store keeps the texts of files under a root.  A `SourceStore` is any type of store
that can be listed, read and written; a write answers with the store afterwards,
whether it succeeded or not.  `MemoryStore` keeps everything in a map and refuses
nothing.
-/

namespace LiveMarkup

set_option autoImplicit false

/-- Why the operating system refuses an operation on a file. -/
inductive IoFailure where
  | notFound
  | notADirectory
  | isADirectory
  | alreadyExists
  | invalidText
  deriving DecidableEq, Repr

namespace IoFailure

/-- The name of the kind of failure. -/
def name : IoFailure → String
  | notFound => "NotFound"
  | notADirectory => "NotADirectory"
  | isADirectory => "IsADirectory"
  | alreadyExists => "AlreadyExists"
  | invalidText => "InvalidData"

def message : IoFailure → String
  | notFound => "No such file or directory (os error 2)"
  | notADirectory => "Not a directory (os error 20)"
  | isADirectory => "Is a directory (os error 21)"
  | alreadyExists => "File exists (os error 17)"
  | invalidText => "stream did not contain valid UTF-8"

end IoFailure

/-- Why a store refuses an operation. -/
inductive StoreFailure where
  | notFound (path : Path)
  | io (path : Path) (failure : IoFailure)
  /-- The root cannot be listed. -/
  | unlistable (root : Path) (failure : IoFailure)
  deriving Repr

namespace StoreFailure

def message : StoreFailure → String
  | notFound path => "No such source file: " ++ path.text
  | io path f => "IO error on " ++ path.text ++ ": " ++ f.message
  | unlistable root f =>
      "Directory walk failed: IO error for operation on " ++ root.text ++ ": " ++ f.message

end StoreFailure

/-- Stores of source files. -/
class SourceStore (σ : Type) where
  root : σ → Path
  /-- Every source file, in path order. -/
  list : σ → Except StoreFailure (List Path)
  read : σ → Path → Except StoreFailure String
  write : σ → Path → String → Except StoreFailure Unit × σ
  /-- Is the path under a directory that is never listed? -/
  ignores : σ → Path → Bool

/-- Files held in memory. -/
structure MemoryStore where
  root : Path
  files : OrderedMap Path String
  deriving Repr

namespace MemoryStore

def put (s : MemoryStore) (path : Path) (text : String) : MemoryStore :=
  { s with files := s.files.insert path text }

def delete (s : MemoryStore) (path : Path) : MemoryStore := { s with files := s.files.erase path }

def get? (s : MemoryStore) (path : Path) : Option String := s.files.get? path

instance : SourceStore MemoryStore where
  root := MemoryStore.root
  list s := .ok (s.files.keys.filter Path.isSource)
  read s path :=
    match s.get? path with
    | some text => .ok text
    | none => .error (.notFound path)
  write s path text := (.ok (), s.put path text)
  ignores _ _ := false

end MemoryStore

end LiveMarkup
