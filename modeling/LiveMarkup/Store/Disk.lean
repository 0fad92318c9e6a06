import LiveMarkup.Store.Basic
/-
# LiveMarkup.Store.Disk -- a directory tree and the files in it

A disk is a tree of directories and files with a current directory.  A path is followed
name by name, and every step but the last must be a directory; `..` goes up.  Reading
wants a file of text, writing a place where a file is or may be, making a directory one
where nothing is.

`DiskStore` keeps sources on a disk, in a directory and below it, except in directories
with certain names: `walk` does not enter them, and `ignores` finds their names in a path.
-/

namespace LiveMarkup

set_option autoImplicit false

/-- What a file holds. -/
inductive FileContent where
  | text (text : String)
  /-- Bytes that are no text. -/
  | binary (bytes : List UInt8)
  deriving DecidableEq, Repr

/-- A file, or a directory with its entries by name. -/
inductive DiskNode where
  | file (content : FileContent)
  | directory (entries : List (String × DiskNode))
  deriving Repr

namespace DiskNode

instance : Inhabited DiskNode := ⟨directory []⟩

def isDirectory : DiskNode → Bool
  | directory _ => true
  | file _ => false

/-- The entry of a directory. -/
def entry? (name : String) : DiskNode → Option DiskNode
  | directory entries => entries.lookup name
  | file _ => none

/-- Entries with one put in its place, by name. -/
def putEntry (name : String) (node : DiskNode) : List (String × DiskNode) → List (String × DiskNode)
  | [] => [(name, node)]
  | (n, old) :: rest =>
      if n = name then (name, node) :: rest
      else if name < n then (name, node) :: (n, old) :: rest
      else (n, old) :: putEntry name node rest

/-- The node at the end of names. -/
def at? : List String → DiskNode → Option DiskNode
  | [], n => some n
  | name :: names, n => (n.entry? name).bind (at? names)

/-- Put a node at the end of names; what is on the way must be directories. -/
def putAt : List String → DiskNode → DiskNode → DiskNode
  | [], _, new => new
  | name :: names, directory entries, new =>
      directory (putEntry name (putAt names ((entries.lookup name).getD (directory [])) new) entries)
  | _ :: _, file content, _ => file content

/-- Remove the node at the end of names. -/
def removeAt : List String → DiskNode → DiskNode
  | [name], directory entries => directory (entries.filter fun e => e.1 != name)
  | name :: names, directory entries =>
      match entries.lookup name with
      | some n => directory (putEntry name (removeAt names n) entries)
      | none => directory entries
  | _, n => n

/-- The files of a tree with the names that lead to them. -/
def files (names : List String) : DiskNode → List (List String × FileContent)
  | file content => [(names, content)]
  | directory entries => ofEntries entries
where
  ofEntries : List (String × DiskNode) → List (List String × FileContent)
    | [] => []
    | (name, n) :: rest => files (names ++ [name]) n ++ ofEntries rest

/-- The sources of a tree; directories with ignored names are not entered. -/
def walk (ignored : List String) (path : Path) : DiskNode → List Path
  | file _ => if path.isSource then [path] else []
  | directory entries => ofEntries entries
where
  ofEntries : List (String × DiskNode) → List Path
    | [] => []
    | (name, n) :: rest =>
        (if n.isDirectory && ignored.contains name then [] else walk ignored (path.child name) n)
          ++ ofEntries rest

end DiskNode

/-- A tree of directories with a current one. -/
structure Disk where
  tree : DiskNode
  current : List String
  deriving Repr

/-- A place that a path names: a node, or a name in a directory where nothing is. -/
inductive DiskPlace where
  | found (names : List String) (node : DiskNode)
  | vacant (names : List String)

namespace Disk

/-- The names of a path between slashes, without `.`. -/
def steps (p : Path) : List String :=
  ((Text.split '/' p.text.toList).filter fun s => s != [] && s != ['.']).map String.ofList

/-- Does the text of a path ask for a directory? -/
def wantsDirectory (p : Path) : Bool :=
  match (Text.split '/' p.text.toList).reverse with
  | last :: _ => last == [] || last == ['.'] || last == ['.', '.']
  | [] => false

/-- Follow names from a directory. -/
def follow (tree : DiskNode) : List String → List String → Except IoFailure DiskPlace
  | names, [] =>
      match tree.at? names with
      | some n => .ok (.found names n)
      | none => .error .notFound
  | names, step :: more =>
      match tree.at? names with
      | none => .error .notFound
      | some (.file _) => .error .notADirectory
      | some (.directory entries) =>
          if step = ".." then follow tree names.dropLast more
          else
            match entries.lookup step, more with
            | none, [] => .ok (.vacant (names ++ [step]))
            | none, _ :: _ => .error .notFound
            | some _, more => follow tree (names ++ [step]) more

/-- The place that a path names. -/
def place (d : Disk) (p : Path) : Except IoFailure DiskPlace :=
  if p.text.isEmpty then .error .notFound
  else follow d.tree (if p.isAbsolute then [] else d.current) (steps p)

/-- The node that a path names. -/
def node (d : Disk) (p : Path) : Except IoFailure (List String × DiskNode) := do
  match ← d.place p with
  | .vacant _ => throw .notFound
  | .found names (.file c) =>
      if wantsDirectory p then throw .notADirectory
      return (names, .file c)
  | .found names n => return (names, n)

def isFile (d : Disk) (p : Path) : Bool :=
  match d.node p with
  | .ok (_, .file _) => true
  | _ => false

def isDirectory (d : Disk) (p : Path) : Bool :=
  match d.node p with
  | .ok (_, .directory _) => true
  | _ => false

/-- The text of a file. -/
def readText (d : Disk) (p : Path) : Except IoFailure String := do
  match ← d.node p with
  | (_, .file (.text s)) => return s
  | (_, .file (.binary _)) => throw .invalidText
  | (_, .directory _) => throw .isADirectory

/-- Make one directory. -/
def makeDirectory (d : Disk) (p : Path) : Except IoFailure Disk := do
  match ← d.place p with
  | .found _ _ => throw .alreadyExists
  | .vacant names => return { d with tree := d.tree.putAt names (.directory []) }

/-- Make a directory and those above it that are missing; `fuel` bounds how many. -/
def makeDirectories : Nat → Disk → Path → Except IoFailure Unit × Disk
  | 0, d, _ => (.error .notFound, d)
  | fuel + 1, d, p =>
      if p.text.isEmpty then (.ok (), d)
      else
        match d.makeDirectory p with
        | .ok d => (.ok (), d)
        | .error .notFound =>
            match p.parent? with
            | none => (.error .notFound, d)
            | some above =>
                match makeDirectories fuel d above with
                | (.error f, d) => (.error f, d)
                | (.ok (), d) =>
                    match d.makeDirectory p with
                    | .ok d => (.ok (), d)
                    | .error f => if d.isDirectory p then (.ok (), d) else (.error f, d)
        | .error f => if d.isDirectory p then (.ok (), d) else (.error f, d)

/-- Write a file whose directory is there. -/
def writeFile (d : Disk) (p : Path) (c : FileContent) : Except IoFailure Disk := do
  match ← d.place p with
  | .found _ (.directory _) => throw .isADirectory
  | .found names (.file _) =>
      if wantsDirectory p then throw .isADirectory
      return { d with tree := d.tree.putAt names (.file c) }
  | .vacant names =>
      if wantsDirectory p then throw .isADirectory
      return { d with tree := d.tree.putAt names (.file c) }

/-- Write a file; the directories above it are made first and stay when writing fails. -/
def write (d : Disk) (p : Path) (c : FileContent) : Except IoFailure Unit × Disk :=
  let made := match p.parent? with
    | some above => makeDirectories (above.components.length + 1) d above
    | none => (.ok (), d)
  match made with
  | (.error f, d) => (.error f, d)
  | (.ok (), d) =>
      match d.writeFile p c with
      | .ok d => (.ok (), d)
      | .error f => (.error f, d)

/-- Remove a file. -/
def removeFile (d : Disk) (p : Path) : Except IoFailure Disk := do
  match ← d.node p with
  | (_, .directory _) => throw .isADirectory
  | (names, .file _) => return { d with tree := d.tree.removeAt names }

/-- A path as names from the root. -/
def ofNames (names : List String) : Path := ⟨"/" ++ "/".intercalate names⟩

/-- The files that are not as they were before. -/
def changedFiles (before after : Disk) : List (List String × FileContent) :=
  (after.tree.files []).filter fun (names, content) =>
    match before.tree.at? names with
    | some (.file old) => old != content
    | _ => true

/-- The one absolute spelling of a path that exists. -/
def canonical (d : Disk) (p : Path) : Except IoFailure Path := (d.node p).map fun n => ofNames n.1

end Disk

/-- Sources on a disk, in a directory and below it. -/
structure DiskStore where
  disk : Disk
  root : Path
  /-- The names of directories that are not entered. -/
  ignored : List String
  deriving Repr

namespace DiskStore

/-- Is a path under a directory with an ignored name, seen from the root? -/
def ignores (s : DiskStore) (path : Path) : Bool :=
  (path.below s.root).components.any fun c => s.ignored.contains c.text

/-- A failure to reach a file as the failure of the store. -/
def failure (path : Path) : IoFailure → StoreFailure
  | .notFound => .notFound path
  | f => .io path f

instance : SourceStore DiskStore where
  root := DiskStore.root
  list s :=
    match s.disk.node s.root with
    | .error f => .error (.unlistable s.root f)
    | .ok (_, n) => .ok ((n.walk s.ignored s.root).mergeSort fun p q => (compare p q).isLE)
  read s path := (s.disk.readText path).mapError (failure path)
  write s path text :=
    let r := s.disk.write path (.text text)
    (r.1.mapError (.io path), { s with disk := r.2 })
  ignores := DiskStore.ignores

end DiskStore

end LiveMarkup
