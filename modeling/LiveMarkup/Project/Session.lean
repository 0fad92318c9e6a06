import LiveMarkup.Project.Config
import LiveMarkup.Project.Message
import LiveMarkup.Project.Registry
import LiveMarkup.Property.Patch
/-
# LiveMarkup.Project.Session -- a project at work

A session keeps a registry and the component map in step with a store, shows elements,
and carries out edits.  An edit changes the tree with identifiers, writes the file, as
a rule without identifiers, and takes the new text in again with them, so that elements
keep their identifiers.

The store will tell of a file that the session wrote itself.  The session remembers what
it wrote and skips one such notice for each path, provided the store still holds that
text.
-/

namespace LiveMarkup

set_option autoImplicit false

open LiveMarkup.Syntax

/-- Why an operation of a session failed. -/
inductive SessionFailure where
  | store (failure : StoreFailure)
  | unreadable (failure : ReadFailure)
  | patch (failure : Property.PatchFailure)
  | unknownIdentifier (uid : String)
  deriving Repr

namespace SessionFailure

def message : SessionFailure → String
  | store f => f.message
  | unreadable f => f.message
  | patch f => f.message
  | unknownIdentifier uid => "No element with identifier '" ++ uid ++ "'"

end SessionFailure

/-- What a round of work did. -/
structure CycleReport where
  processed : Nat
  failed : Nat
  components : Nat
  artifactWritten : Bool
  deriving DecidableEq, Repr

/-- What an edit did. -/
structure EditOutcome where
  path : Path
  version : Nat
  patch : Property.PatchOutcome
  deriving Repr

/-- A project at work over a store. -/
structure Session (σ : Type) where
  config : Config
  store : σ
  registry : Registry
  components : ComponentMap
  /-- Where the component map is written. -/
  artifactPath : Option Path
  /-- The component map as it was written last. -/
  artifact : Option String
  /-- The texts written by edits, by path. -/
  written : OrderedMap Path String
  designMode : Bool

namespace Session

variable {σ : Type} [SourceStore σ]

/-- A session that has read nothing yet; the component map is no source. -/
def new (config : Config) (store : σ) (next : Nat) : Session σ :=
  let artifactPath := config.artifactPath? (SourceStore.root store)
  let registry := Registry.new config.identifierAttribute next
  { config, store, artifactPath
    registry := match artifactPath with
      | some path => registry.exclude path
      | none => registry
    components := .empty
    artifact := none
    written := .empty
    designMode := false }

def root (s : Session σ) : Path := SourceStore.root s.store

/-- Build the component map anew, and write it when it changed. -/
def regenerate (s : Session σ) (report : CycleReport) :
    Logged (Except SessionFailure CycleReport × Session σ) := do
  let components ← s.registry.componentMap
  let s := { s with components }
  let report := { report with components := components.size }
  match s.artifactPath with
  | none => return (.ok report, s)
  | some path =>
      let text := components.render s.root s.config.importAlias
      if s.artifact = some text then return (.ok report, s)
      match SourceStore.write s.store path text with
      | (.error f, store) => return (.error (.store f), { s with store })
      | (.ok (), store) =>
          return (.ok { report with artifactWritten := true }, { s with store, artifact := some text })

/-- Read every file. -/
def load (w : Workshop) (s : Session σ) : Logged (Except SessionFailure CycleReport × Session σ) := do
  let (result, registry) ← s.registry.loadAll w s.store
  let s := { s with registry }
  match result with
  | .error f => return (.error (.store f), s)
  | .ok summary => s.regenerate ⟨summary.loaded, summary.failed, 0, false⟩

/-- Is a change the notice of an edit of this session?  The text that was remembered for
the path is forgotten. -/
def takeEcho (s : Session σ) (c : Change) : Bool × Session σ :=
  if c.kind = .changed then
    match s.written.get? c.path with
    | none => (false, s)
    | some text =>
        let same := match SourceStore.read s.store c.path with
          | .ok now => now == text
          | .error _ => false
        (same, { s with written := s.written.erase c.path })
  else (false, s)

/-- Follow changes one after the other. -/
def follow (w : Workshop) : List Change → CycleReport → Session σ → Logged (CycleReport × Session σ)
  | [], report, s => pure (report, s)
  | c :: cs, report, s => do
      let (echo, s) := s.takeEcho c
      if echo then follow w cs report s
      else
        let (result, registry) ← s.registry.applyChange w s.store c
        let s := { s with registry }
        match result with
        | .ok () => follow w cs { report with processed := report.processed + 1 } s
        | .error f =>
            Logged.report [.warning (c.path.text ++ ": " ++ f.message)]
            follow w cs { report with failed := report.failed + 1 } s

/-- Follow a set of changes. -/
def runCycle (w : Workshop) (s : Session σ) (changes : ChangeSet) :
    Logged (Except SessionFailure CycleReport × Session σ) := do
  let (report, s) ← follow w changes.changes ⟨0, 0, 0, false⟩ s
  s.regenerate report

/-- What is shown of the element with an identifier. -/
def inspect? (l : Language) (s : Session σ) (uid : String) : Option Selection := do
  let found ← s.registry.find? uid
  let element ← found.element? s.registry
  return {
    uid
    path := found.entry.path
    version := found.entry.version
    tag := found.node.tag
    isComponent := found.node.isComponent
    lines := found.node.lines
    properties := (element.properties l).filter fun p => p.name != s.registry.identifierName }

/-- Answer a message. -/
def answer (l : Language) (s : Session σ) : Message → Reply × Session σ
  | .select uid =>
      match s.inspect? l uid with
      | some selection => (.found selection, s)
      | none => (.notFound uid, s)
  | .designMode active => (.acknowledged, { s with designMode := active })

/-- The text of a file after an edit of its tree. -/
def writtenText (l : Language) (s : Session σ) (m : Module) : String :=
  if s.config.persistIdentifiers then l.printModule m
  else l.printModule (m.withoutIdentifiers s.registry.identifierName)

/-- Write an edited tree and take it in again. -/
def commit (w : Workshop) (s : Session σ) (path : Path) (m : Module) (patch : Property.PatchOutcome) :
    Logged (Except SessionFailure EditOutcome × Session σ) := do
  let text := s.writtenText w.language m
  match SourceStore.write s.store path text with
  | (.error f, store) => return (.error (.store f), { s with store })
  | (.ok (), store) =>
      let s := { s with store, written := s.written.insert path text }
      let (result, registry) ← s.registry.ingest w path (w.language.printModule m)
      let s := { s with registry }
      match result with
      | .error f => return (.error (.unreadable f), s)
      | .ok entry => return (.ok ⟨path, entry.version, patch⟩, s)

/-- Change a property of an element. -/
def edit (w : Workshop) (s : Session σ) (e : Edit) :
    Logged (Except SessionFailure EditOutcome × Session σ) := do
  if e.name = s.registry.identifierName then return (.error (.patch (.readOnly e.name)), s)
  match s.registry.find? e.uid with
  | none => return (.error (.unknownIdentifier e.uid), s)
  | some found =>
      let path := found.entry.path
      match found.entry.instrumented.update? s.registry.identifierName e.uid
          (Markup.patchStep w.language e.name e.value) with
      | none => return (.error (.unknownIdentifier e.uid), s)
      | some (.error f, _) => return (.error (.patch f), s)
      | some (.ok patch, m) =>
          Logged.report patch.notices
          Logged.report <|
            (patch.fallback.map fun bad => Notice.warning (path.text ++ ": " ++ bad.message)).toList
          if patch.action = .unchanged then
            return (.ok ⟨path, found.entry.version, patch⟩, s)
          s.commit w path m patch

end Session

end LiveMarkup
