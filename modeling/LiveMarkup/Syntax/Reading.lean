import LiveMarkup.Syntax.Grammar.Item
/-
# LiveMarkup.Syntax.Reading -- texts into trees

`grammar` ties the productions together: a grammar of depth `n + 1` reads each goal by
its production over the grammar of depth `n`.  Every nested goal is entered behind at
least one character more than the goal around it, up to a bounded number of goals at
one place, so a depth proportional to the length of the text is never used up.

`readModule` reads a whole text in module goal, `readExpression` the expression at its
start.  Both give the complaints that did not stop the reader, in the order in which
they arose, with the answer or with the trouble that did stop it.
-/

namespace LiveMarkup.Syntax

set_option autoImplicit false

open Grammar LiveMarkup.Syntax.Parser

/-- The production of each goal. -/
def produce (r : Rules) : Goal → Parser Tree
  | .expression => expression r
  | .assignment => assignment r
  | .unary => unary r
  | .statement => statement r
  | .item => item r
  | .block => block r
  | .pattern => pattern r
  | .type => type r
  | .operandType => operandType r
  | .classExpression => classExpression r
  | .element after => element r after

/-- The grammar that may nest so many goals. -/
def grammar : Nat → Goal → Parser Tree
  | 0, _ => failHere .tooDeep
  | n + 1, goal => produce ⟨grammar n, n⟩ goal

/-- The dialect of a text: with types, and with markup. -/
structure Dialect where
  typed : Bool
  markup : Bool
  deriving DecidableEq, Repr

/-- An answer with the complaints collected on the way. -/
structure Reading (α : Type) where
  outcome : Except Trouble α
  complaints : List Trouble

/-- How deep goals may nest in a text. -/
def depthFor (text : List Char) : Nat := 16 * text.length + 64

def startContext (d : Dialect) (isModule : Bool) (text : List Char) : Context :=
  { lines := lineStarts 0 text, typed := d.typed, markup := d.markup, strict := isModule
    isModule := isModule, inOperator := isModule }

def startState (c : Context) (cursor : Cursor) : State :=
  { current := .eof, start := cursor, afterNewline := false, cursor := cursor
    lastStart := cursor.offset, lastEnd := cursor.offset, mode := .code, troubles := [], context := c }

/-- Run a reader from the start of a text. -/
def run {α : Type} (c : Context) (cursor : Cursor) (p : Parser α) : Reading α :=
  match (do load cursor; p).run (startState c cursor) with
  | .ok a s => ⟨.ok a, s.troubles.reverse⟩
  | .error t s => ⟨.error t, s.troubles.reverse⟩

/-- A byte order mark is no part of the text. -/
def withoutMark : List Char → List Char
  | c :: rest => if c.toNat == 0xfeff then rest else c :: rest
  | [] => []

/-- The interpreter named on the first line, and the cursor behind it. -/
def interpreterLine (text : List Char) : Option String × Cursor :=
  match text with
  | '#' :: '!' :: rest =>
      let line := rest.takeWhile fun c => !isLineEnd c
      (some (String.ofList line), ⟨rest.drop line.length, line.length + 2⟩)
  | _ => (none, ⟨text, 0⟩)

/-- The characters of a source text as the reader counts them. -/
def sourceChars (source : String) : List Char := withoutMark source.toList

/-- Read a module. -/
def readModule (d : Dialect) (source : String) : Reading Module :=
  let text := sourceChars source
  let (interpreter, cursor) := interpreterLine text
  let c := startContext d true text
  let n := depthFor text
  run c cursor do
    let s ← get
    let first := if interpreter.isSome then 0 else s.start.offset
    let all ← items ⟨grammar n, n⟩
    let last ← lastEnd
    let lines : Option LineRange := if all.isEmpty then none else some ⟨c.lineOf first, c.lineOf last⟩
    return ⟨interpreter, all, lines⟩

/-- Read the expression at the start of a text; the offset behind it comes along. -/
def readExpression (d : Dialect) (source : String) : Reading (Tree × Nat) :=
  let text := sourceChars source
  let c := startContext d false text
  let n := depthFor text
  run c ⟨text, 0⟩ do
    let e ← grammar n .expression
    return (e, ← lastEnd)

/-- The line of a place in a source text, from one, and its column, from zero. -/
def placeOf (source : String) (offset : Nat) : Nat × Nat :=
  let c := startContext ⟨false, false⟩ true (sourceChars source)
  (c.lineOf offset, c.columnOf offset)

end LiveMarkup.Syntax
