import LiveMarkup.Component.Map
import LiveMarkup.Markup.Identify
import LiveMarkup.Project.Change
import LiveMarkup.Source.Document
import LiveMarkup.Store.Basic
/-
# LiveMarkup.Project.Registry -- what is known of the files of a project

A registry holds an entry for every source file that could be read: its text, its tree,
the tree with identifiers, and the arena of its elements.  An entry is replaced as a
whole.  A file that could not be read has a diagnostic instead, so no path ever has
both.  Versions count the readings of a path and outlive its entry.

An element is found by its identifier in the first entry, by path, that has it.

Operations answer with the registry afterwards and the notices they gave, also when
they fail.
-/

namespace LiveMarkup

set_option autoImplicit false

open LiveMarkup.Syntax

/-- What files are read with: a language, and a supply of identifiers. -/
structure Workshop where
  language : Language
  supply : Supply

/-- Everything known about one source file. -/
structure FileEntry where
  path : Path
  variant : Variant
  source : String
  parsed : Module
  /-- The tree in which every element has an identifier. -/
  instrumented : Module
  arena : Arena
  /-- The text of the tree with identifiers. -/
  generated : String
  version : Nat

/-- Why nothing is known of a file. -/
inductive FileFailure where
  | unreadable (failure : ReadFailure)
  | store (failure : StoreFailure)
  deriving Repr

namespace FileFailure

def message : FileFailure → String
  | unreadable f => f.message
  | store f => f.message

def diagnostics : FileFailure → List Diagnostic
  | unreadable f => f.diagnostics
  | store _ => []

end FileFailure

/-- A failure kept for a path. -/
structure FileDiagnostic where
  path : Path
  failure : FileFailure
  deriving Repr

/-- How many files were read and how many were not. -/
structure LoadSummary where
  loaded : Nat
  failed : Nat
  deriving DecidableEq, Repr

/-- The known files of a project. -/
structure Registry where
  /-- The name of the attribute that holds identifiers. -/
  identifierName : String
  entries : OrderedMap Path FileEntry
  versions : OrderedMap Path Nat
  diagnostics : OrderedMap Path FileDiagnostic
  /-- Paths that are never read. -/
  excluded : List Path
  /-- Where the supply of identifiers goes on. -/
  next : Nat

/-- An element found by its identifier. -/
structure FoundElement where
  entry : FileEntry
  position : Nat
  node : ArenaNode

namespace Registry

/-- A registry that knows no file. -/
def new (identifierName : String) (next : Nat) : Registry :=
  ⟨identifierName, .empty, .empty, .empty, [], next⟩

def entry? (r : Registry) (path : Path) : Option FileEntry := r.entries.get? path

def version (r : Registry) (path : Path) : Nat := (r.versions.get? path).getD 0

/-- Is a path one that the registry reads? -/
def tracks (r : Registry) (path : Path) : Bool := path.isSource && !r.excluded.contains path

/-- Never read a path from now on. -/
def exclude (r : Registry) (path : Path) : Registry :=
  { r with entries := r.entries.erase path, excluded := path :: r.excluded }

/-- Forget a file, its version apart. -/
def remove (r : Registry) (path : Path) : Registry :=
  { r with entries := r.entries.erase path, diagnostics := r.diagnostics.erase path }

/-- Note that a file could not be read. -/
def fail (r : Registry) (path : Path) (failure : FileFailure) : Registry :=
  { r with
    entries := r.entries.erase path
    diagnostics := r.diagnostics.insert path ⟨path, failure⟩ }

/-- The entry of a document, of the next version of its path. -/
def makeEntry (w : Workshop) (r : Registry) (d : Document) (source : String) : FileEntry × Nat :=
  let identified := d.content.identify w.supply r.identifierName r.next
  (⟨d.path, d.variant, source, d.content, identified.content, identified.arena,
    w.language.printModule identified.content, r.version d.path + 1⟩, identified.next)

/-- Take in the entry of a file. -/
def accept (r : Registry) (path : Path) (made : FileEntry × Nat) : Registry :=
  { r with
    entries := r.entries.insert path made.1
    versions := r.versions.insert path made.1.version
    diagnostics := r.diagnostics.erase path
    next := made.2 }

/-- Take in a text as the content of a file. -/
def ingest (w : Workshop) (r : Registry) (path : Path) (text : String) :
    Logged (Except ReadFailure FileEntry × Registry) := do
  match ← Document.read w.language path text with
  | .ok d =>
      let made := makeEntry w r d text
      return (.ok made.1, r.accept path made)
  | .error (.unsupported shown) => return (.error (.unsupported shown), r)
  | .error f =>
      Logged.report [.error f.message]
      return (.error f, r.fail path (.unreadable f))

section Store

variable {σ : Type} [SourceStore σ]

/-- Read a file again; one that is not there is forgotten. -/
def refresh (w : Workshop) (r : Registry) (store : σ) (path : Path) :
    Logged (Except FileFailure Unit × Registry) := do
  if !r.tracks path || SourceStore.ignores store path then return (.ok (), r)
  match SourceStore.read store path with
  | .ok text =>
      let (result, r) ← r.ingest w path text
      return ((result.map fun _ => ()).mapError .unreadable, r)
  | .error (.notFound _) => return (.ok (), r.remove path)
  | .error f =>
      Logged.report [.error (path.text ++ ": " ++ f.message)]
      return (.error (.store f), r.fail path (.store f))

/-- Follow a change of a file. -/
def applyChange (w : Workshop) (r : Registry) (store : σ) (c : Change) :
    Logged (Except FileFailure Unit × Registry) :=
  match c.kind with
  | .created | .changed => r.refresh w store c.path
  | .deleted => pure (.ok (), r.remove c.path)

/-- Read files one after the other, counting. -/
def refreshAll (w : Workshop) (store : σ) :
    List Path → LoadSummary → Registry → Logged (LoadSummary × Registry)
  | [], s, r => pure (s, r)
  | p :: ps, s, r => do
      let (result, r) ← r.refresh w store p
      let s := match result with
        | .ok _ => { s with loaded := s.loaded + 1 }
        | .error _ => { s with failed := s.failed + 1 }
      refreshAll w store ps s r

/-- Read every file of a store; what is known of other files is forgotten. -/
def loadAll (w : Workshop) (r : Registry) (store : σ) :
    Logged (Except StoreFailure LoadSummary × Registry) :=
  match SourceStore.list store with
  | .error f => pure (.error f, r)
  | .ok all => do
      let paths := all.filter r.tracks
      let stale := r.entries.keys.filter fun p => !paths.contains p
      let (s, r) ← refreshAll w store paths ⟨0, 0⟩ (stale.foldl remove r)
      return (.ok s, r)

end Store

/-- The element with an identifier, in the first entry that has it. -/
def find? (r : Registry) (uid : String) : Option FoundElement :=
  r.entries.values.findSome? fun e => do
    let position ← e.arena.lookup? uid
    return ⟨e, position, ← e.arena.get? position⟩

/-- The components among the known files. -/
def componentMap (r : Registry) : Logged ComponentMap :=
  ComponentMap.build (r.entries.values.map fun e => (e.path, e.parsed))

end Registry

/-- The element itself, in the tree with identifiers. -/
def FoundElement.element? (f : FoundElement) (r : Registry) : Option Markup :=
  f.entry.instrumented.find? r.identifierName f.node.uid

end LiveMarkup
