import LiveMarkup.Path.Normal
import LiveMarkup.Source.Notice
import LiveMarkup.Source.Variant
import LiveMarkup.Syntax.Printer
import LiveMarkup.Text.Quoted
/-
# LiveMarkup.Source.Document -- source files as trees

A `Document` is a source file that was read: its path, its variant and its module.
`Language` is what turns text into trees and trees into text; `Language.standard` is
the reader and printer of this library.  Everything that reads or writes source takes
the language as an argument, so laws about it name exactly what they need of it.

`Document.read` gives complaints that did not stop the reader to the log.  A fragment
is an expression of its own, read in the richest dialect; there every complaint counts.
-/

namespace LiveMarkup

set_option autoImplicit false

open LiveMarkup.Syntax

/-- How text becomes trees and trees become text. -/
structure Language where
  readModule : Dialect → String → Reading Module
  readExpression : Dialect → String → Reading (Tree × Nat)
  printModule : Module → String
  printTree : Tree → String

/-- The reader and the printer of this library. -/
def Language.standard : Language where
  readModule := Syntax.readModule
  readExpression := Syntax.readExpression
  printModule := Module.print
  printTree := Tree.print

/-- A complaint at a line, counted from one, and a column, counted from zero. -/
structure Diagnostic where
  line : Nat
  column : Nat
  complaint : Complaint
  deriving DecidableEq, Repr

namespace Diagnostic

def message (d : Diagnostic) : String := d.complaint.message

/-- Place and wording. -/
def text (d : Diagnostic) : String :=
  toString d.line ++ ":" ++ toString d.column ++ ": " ++ d.message

def ofTrouble (source : String) (t : Trouble) : Diagnostic :=
  let place := placeOf source t.offset
  ⟨place.1, place.2, t.complaint⟩

end Diagnostic

/-- Why a file could not be read as a document. -/
inductive ReadFailure where
  /-- What was wrong, the last of it being what stopped the reader. -/
  | malformed (path : String) (diagnostics : List Diagnostic)
  | unsupported (path : String)
  deriving DecidableEq, Repr

namespace ReadFailure

def message : ReadFailure → String
  | malformed path diagnostics =>
      let first := match diagnostics with
        | d :: _ => ", first at " ++ d.text
        | [] => ""
      path ++ ": unrecoverable syntax error (" ++ toString diagnostics.length ++ " diagnostics)" ++ first
  | unsupported path => path ++ ": unsupported file extension"

def diagnostics : ReadFailure → List Diagnostic
  | malformed _ ds => ds
  | unsupported _ => []

end ReadFailure

/-- A source file that was read. -/
structure Document where
  path : Path
  variant : Variant
  content : Module
  deriving Repr

namespace Document

/-- The notice of a complaint that did not stop the reader. -/
def recovered (path : String) (d : Diagnostic) : Notice :=
  .warning (path ++ ": recovered from syntax error at " ++ d.text)

/-- Read a source file. -/
def read (l : Language) (path : Path) (text : String) : Logged (Except ReadFailure Document) :=
  let shown := Path.normalized path.text
  match Variant.ofPath? path with
  | none => pure (.error (.unsupported shown))
  | some v =>
      let reading := l.readModule v.dialect text
      let diagnostics := reading.complaints.map (Diagnostic.ofTrouble text)
      match reading.outcome with
      | .ok m => ⟨.ok ⟨path, v, m⟩, diagnostics.map (recovered shown)⟩
      | .error t => pure (.error (.malformed shown (diagnostics ++ [Diagnostic.ofTrouble text t])))

/-- The source text of a document. -/
def print (l : Language) (d : Document) : String := l.printModule d.content

end Document

/-- Why a text is no fragment. -/
inductive FragmentFailure where
  | empty
  | complaint (c : Complaint)
  | trailing (rest : String)
  deriving DecidableEq, Repr

namespace FragmentFailure

def reason : FragmentFailure → String
  | empty => "empty expression"
  | complaint c => c.message
  | trailing rest => "unexpected trailing input " ++ Text.quoted rest

def message (f : FragmentFailure) : String :=
  "expression fragment is not a single expression: " ++ f.reason

end FragmentFailure

/-- Read one expression that is the whole text, white space around it apart. -/
def readFragment (l : Language) (code : String) : Except FragmentFailure Tree :=
  let fragment := Text.trimWhite code
  if fragment.isEmpty then .error .empty
  else
    let reading := l.readExpression Variant.tsx.dialect fragment
    match reading.outcome with
    | .error t => .error (.complaint t.complaint)
    | .ok (tree, stop) =>
        match reading.complaints with
        | t :: _ => .error (.complaint t.complaint)
        | [] =>
            let rest := (sourceChars fragment).drop stop
            if rest.isEmpty then .ok tree else .error (.trailing (String.ofList rest))

end LiveMarkup
