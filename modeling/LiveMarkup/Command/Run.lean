import LiveMarkup.Command.Arguments
import LiveMarkup.Json.Writer
import LiveMarkup.Project.Session
import LiveMarkup.Store.Disk
/-
# LiveMarkup.Command.Run -- the command line at work

A run reads the project on a disk and then lists its elements, shows the properties of
one, or changes one property.  What it prints, its exit status and the disk afterwards
are its answer.  Files that cannot be read are named on the error channel first.

A failure is told with what lies behind it.
-/

namespace LiveMarkup.Command

set_option autoImplicit false

open LiveMarkup.Json (FaultKind Fault)

/-- Why a run failed, and what lies behind it, the nearest first. -/
structure Failure where
  message : String
  causes : List String
  deriving DecidableEq, Repr

namespace Failure

/-- The lines that tell of causes; several are numbered. -/
def causeLines : List String → List String
  | [] => []
  | [cause] => ["", "Caused by:", "    " ++ cause]
  | causes =>
      ["", "Caused by:"] ++ causes.mapIdx fun i cause => "    " ++ toString i ++ ": " ++ cause

/-- What is printed of a failure. -/
def text (f : Failure) : String :=
  String.join ((("Error: " ++ f.message) :: causeLines f.causes).map (· ++ "\n"))

def ofConfig (f : ConfigFailure) : Failure := ⟨f.message, [f.cause]⟩

def ofStore (f : StoreFailure) : Failure :=
  match f with
  | .notFound _ => ⟨f.message, []⟩
  | .io _ e => ⟨f.message, [e.message]⟩
  | .unlistable root e =>
      ⟨f.message, ["IO error for operation on " ++ root.text ++ ": " ++ e.message, e.message]⟩

def ofSession (f : SessionFailure) : Failure :=
  match f with
  | .store e => ofStore e
  | _ => ⟨f.message, []⟩

end Failure

/-- What a run did. -/
structure Answer where
  exit : Nat
  output : String
  errors : String
  disk : Disk
  /-- Where the supply of identifiers goes on. -/
  next : Nat

/-! ## Values -/

/-- A value as it is given on the command line: `undefined`, JSON, an object with `code`,
or else plain text. -/
def parseValue (raw : String) : Except Failure Property.Value :=
  if raw = "undefined" then .ok .undefined
  else match Json.ofText? raw with
    | .error _ => .ok (.string raw)
    | .ok v =>
        match v.settled with
        | .null => .ok .null
        | .boolean b => .ok (.boolean b)
        | .number (.whole i) => .ok (.number (.ofInt i))
        | .number (.decimal x) => .ok (.number x)
        | .string s => .ok (.string s)
        | v =>
            match v.get? "code" with
            | some (.string code) => .ok (.code code)
            | some _ => .error ⟨"\"code\" must be a string", []⟩
            | none =>
                match Property.Value.ofJson .value v with
                | .ok value => .ok value
                | .error f => .error ⟨"Unsupported value", [f.cause.message]⟩

/-! ## Output -/

def line (s : String) : String := s ++ "\n"

/-- A path from the root. -/
def relative (path root : Path) : String := (path.below root).text

/-- The line of an element, indented by how deep it stands. -/
def elementLine (a : Arena) (i : Nat) (n : ArenaNode) : String :=
  let depth := (a.ancestors i).length
  line ("  " ++ "".pushn ' ' (2 * depth) ++ "<" ++ n.tag ++ "> " ++ n.uid)

/-- The lines of a file. -/
def fileLines (root : Path) (print : Bool) (e : FileEntry) : String :=
  line (relative e.path root ++ " (v" ++ toString e.version ++ ", " ++ toString e.arena.size
      ++ " elements)") ++
    String.join (e.arena.nodes.mapIdx (elementLine e.arena)) ++
    (if print then line e.generated else "")

def summaryLine (r : CycleReport) : String :=
  line (toString r.processed ++ " files, " ++ toString r.failed ++ " failed, "
    ++ toString r.components ++ " components")

def diagnosticLines (r : Registry) : String :=
  String.join (r.diagnostics.values.map fun d => line (d.path.text ++ ": " ++ d.failure.message))

/-- What a request prints. -/
structure Printed where
  output : String
  errors : String

/-- A project that was read, and what reading it did. -/
structure Loaded where
  root : Path
  session : Session DiskStore
  report : CycleReport

/-- Show the properties of an element. -/
def showProperties (l : Language) (s : Session DiskStore) (uid : String) : Except Failure Printed :=
  match s.inspect? l uid with
  | some selection => .ok ⟨line selection.toJson.pretty, ""⟩
  | none => .error (.ofSession (.unknownIdentifier uid))

/-- What is printed of an edit. -/
def editPrinted (root : Path) (outcome : EditOutcome) : Printed where
  output := line (relative outcome.path root ++ ": " ++ outcome.patch.action.title
    ++ " (version " ++ toString outcome.version ++ ")")
  errors := match outcome.patch.fallback with
    | some bad => line ("warning: " ++ bad.message)
    | none => ""

/-- Carry out a request on a project that was read. -/
def perform (w : Workshop) (p : Loaded) : Request → Except Failure Printed × Session DiskStore
  | .scan print =>
      let files := p.session.registry.entries.values.map (fileLines p.root print)
      (.ok ⟨String.join files ++ summaryLine p.report, ""⟩, p.session)
  | .properties uid => (showProperties w.language p.session uid, p.session)
  | .set uid name raw =>
      match parseValue raw with
      | .error f => (.error f, p.session)
      | .ok value =>
          let (result, s) := (p.session.edit w ⟨uid, name, value⟩).value
          ((result.mapError .ofSession).map (editPrinted p.root), s)
  | .watch => (.ok ⟨"", ""⟩, p.session)

/-- The settings a run works with. -/
def settings (d : Disk) (root : Path) : Option Path → Except ConfigFailure Config
  | some path => Config.load d path
  | none => Config.discover d root

/-- The root and the settings of a run. -/
def prepare (d : Disk) (i : Invocation) : Except Failure (Path × Config) := do
  let root ← (d.canonical i.root).mapError fun f =>
    ⟨"Project root not found: " ++ i.root.text, [f.message]⟩
  let config ← (settings d root i.config).mapError .ofConfig
  return (root, config)

/-- The answer of a run that ends with a session. -/
def Answer.ofSession (exit : Nat) (output errors : String) (s : Session DiskStore) : Answer :=
  ⟨exit, output, errors, s.store.disk, s.registry.next⟩

/-- Read the project of an invocation; without one the run is at its end. -/
def loadProject (w : Workshop) (d : Disk) (next : Nat) (i : Invocation) : Except Answer Loaded :=
  match prepare d i with
  | .error f => .error ⟨1, "", f.text, d, next⟩
  | .ok (root, config) =>
      let store : DiskStore := ⟨d, root, config.ignoredDirs⟩
      let (result, s) := ((Session.new config store next).load w).value
      match result with
      | .error f => .error (.ofSession 1 "" (Failure.ofSession f).text s)
      | .ok report => .ok ⟨root, s, report⟩

/-- Carry out an invocation. -/
def invoke (w : Workshop) (d : Disk) (next : Nat) (i : Invocation) : Answer :=
  match loadProject w d next i with
  | .error answer => answer
  | .ok p =>
      let diagnostics := diagnosticLines p.session.registry
      match perform w p i.request with
      | (.error f, s) => .ofSession 1 "" (diagnostics ++ f.text) s
      | (.ok printed, s) => .ofSession 0 printed.output (diagnostics ++ printed.errors) s

def usage : String :=
  "usage: live-markup [--root DIR] [--config FILE] scan [--print] | props UID | set UID NAME VALUE | watch\n"

/-- Carry out a command line. -/
def run (w : Workshop) (d : Disk) (next : Nat) (arguments : List String) : Answer :=
  match parse arguments with
  | .usageError => ⟨2, "", usage, d, next⟩
  | .help => ⟨0, usage, "", d, next⟩
  | .run i => invoke w d next i

end LiveMarkup.Command
