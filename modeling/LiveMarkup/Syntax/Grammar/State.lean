import LiveMarkup.Syntax.Scanner
import LiveMarkup.Syntax.Tree
/-
# LiveMarkup.Syntax.Grammar.State -- the reader of a token stream

The reader stands at one token (`State.current`) and has the text behind it.  `advance`
moves to the next token; its mode says what a character may start there.  Complaints
that do not stop the reader are collected in `troubles`, newest first; `attempt` runs a
reader silently and takes everything back when it fails.

At the end of the text a complaint is placed at the last token, and a token that was
required but is missing is complained about at the end of the last token.

A grammar is a family of readers, one for each `Goal`; the productions are written over
a grammar for their parts (`Rules`), which is how they stay free of recursion.
-/

namespace LiveMarkup.Syntax

set_option autoImplicit false

/-- Which tokens there are at a place. -/
inductive Mode where
  | code | tag | child
  deriving DecidableEq, Repr

/-- The offsets at which the lines of a text start, after the first.  A line feed, a carriage
return, or both together end a line. -/
def lineStarts : Nat → List Char → List Nat
  | _, [] => []
  | n, '\r' :: '\n' :: rest => (n + 2) :: lineStarts (n + 2) rest
  | n, c :: rest =>
      if c == '\n' || c == '\r' then (n + 1) :: lineStarts (n + 1) rest else lineStarts (n + 1) rest

/-- What holds around the place that is read. -/
structure Context where
  /-- Where the lines of the text start. -/
  lines : List Nat
  typed : Bool
  markup : Bool
  strict : Bool
  isModule : Bool
  /-- Complaints are dropped. -/
  silent : Bool := false
  inOperator : Bool := true
  inFunction : Bool := false
  inAsync : Bool := false
  inGenerator : Bool := false
  newTargetAllowed : Bool := false
  /-- The class around has a superclass. -/
  hasSuperclass : Bool := false
  inDeclare : Bool := false
  /-- A colon ends the branch of a conditional, so it starts no return type. -/
  colonEnds : Bool := false
  /-- Conditional types are not read. -/
  noConditionalType : Bool := false
  breakAllowed : Bool := false
  continueAllowed : Bool := false
  labels : List String := []
  /-- An angle bracket at hand starts no element. -/
  plainAngle : Bool := false

/-- The line of an offset, counted from one. -/
def Context.lineOf (c : Context) (offset : Nat) : Nat :=
  1 + (c.lines.takeWhile fun start => decide (start ≤ offset)).length

/-- The column of an offset, counted from zero. -/
def Context.columnOf (c : Context) (offset : Nat) : Nat :=
  offset - ((c.lines.takeWhile fun start => decide (start ≤ offset)).getLastD 0)

structure State where
  current : Token
  start : Cursor
  afterNewline : Bool
  /-- Behind the current token. -/
  cursor : Cursor
  lastStart : Nat
  lastEnd : Nat
  mode : Mode
  troubles : List Trouble
  context : Context

abbrev Parser := EStateM Trouble State

namespace Parser

def context : Parser Context := do return (← get).context

def withContext {α : Type} (change : Context → Context) (p : Parser α) : Parser α := do
  let saved ← context
  modify fun s => { s with context := change s.context }
  let a ← p
  modify fun s => { s with context := { saved with silent := s.context.silent } }
  return a

/-- Collect a complaint and go on. -/
def complainAt (offset : Nat) (c : Complaint) : Parser Unit :=
  modify fun s =>
    if s.context.silent then s else { s with troubles := ⟨offset, c⟩ :: s.troubles }

/-- The token at a cursor. -/
def scanToken (mode : Mode) (from_ : Cursor) : Scanned × Blanks × List Trouble :=
  match mode with
  | .child =>
      let blanks : Blanks := ⟨from_, false, true⟩
      match from_.rest with
      | [] => (⟨.eof, from_, none⟩, blanks, [])
      | '<' :: _ => (⟨.markupStart, from_.drop 1, none⟩, blanks, [])
      | '{' :: _ => (⟨.punctuator "\x7b", from_.drop 1, none⟩, blanks, [])
      | rest =>
          let (value, n, followed, troubles) := scanMarkupText (rest.length + 1) from_.offset rest
          let finish := from_.drop n
          if followed then
            (⟨.markupText (String.ofList value) (from_.textTo finish), finish, none⟩, blanks, troubles)
          else (⟨.broken .unterminatedMarkup, finish, none⟩, blanks, troubles)
  | .tag =>
      let blanks := skipBlanks .between false from_.offset from_.rest
      (scanTag blanks.cursor, blanks, [])
  | .code =>
      let blanks := skipBlanks .between false from_.offset from_.rest
      (scanCode blanks.cursor, blanks, [])

/-- Make the token at a cursor the current one. -/
def load (from_ : Cursor) : Parser Unit := do
  let s ← get
  let (scanned, blanks, troubles) := scanToken s.mode from_
  modify fun s => { s with
    current := scanned.token
    start := blanks.cursor
    afterNewline := blanks.newline
    cursor := scanned.cursor }
  unless blanks.closed do complainAt blanks.cursor.offset .unterminatedComment
  if let some c := scanned.complaint then complainAt blanks.cursor.offset c
  for t in troubles do complainAt t.offset t.complaint

/-- Go on to the next token. -/
def advance : Parser Unit := do
  modify fun s => { s with lastStart := s.start.offset, lastEnd := s.cursor.offset }
  load (← get).cursor

def advanceIn (mode : Mode) : Parser Unit := do
  modify fun s => { s with mode := mode }
  advance

def current : Parser Token := do return (← get).current

def afterNewline : Parser Bool := do return (← get).afterNewline

/-- Where the current token starts; at the end of the text, where the last one does. -/
def position : Parser Nat := do
  let s ← get
  return if s.current == .eof then s.lastStart else s.start.offset

def lastEnd : Parser Nat := do return (← get).lastEnd

/-- Where the current token starts; at the end of the text, where the last one ends. -/
def nextStart : Parser Nat := do
  let s ← get
  return if s.current == .eof then s.lastEnd else s.start.offset

/-- Stop with a complaint.  A broken token at hand is complained about first. -/
def failAt {α : Type} (offset : Nat) (c : Complaint) : Parser α := do
  if let .broken broken := ← current then
    complainAt (← get).start.offset broken
    advance
  throw ⟨offset, c⟩

def failHere {α : Type} (c : Complaint) : Parser α := do failAt (← position) c

/-- The current token, which has to be there and sound. -/
def require : Parser Token := do
  match ← current with
  | .broken broken =>
      let offset := (← get).start.offset
      advance
      throw ⟨offset, broken⟩
  | .eof => throw ⟨(← get).lastEnd, .unexpectedEnd⟩
  | token => return token

/-- A broken token stops the reader; the end of the text does not. -/
def requireSound : Parser Token := do
  match ← current with
  | .eof => return .eof
  | _ => require

def unexpected {α : Type} (wanted : String) : Parser α := do
  let token ← requireSound
  failHere (.unexpectedToken token.shown wanted)

def isPunctuator (p : String) : Parser Bool := do return (← current) == .punctuator p

def isWord (w : String) : Parser Bool := do return (← current) == .word w

def isOneOf (ps : List String) : Parser Bool := do
  match ← current with
  | .punctuator p => return ps.contains p
  | _ => return false

def isWordOf (ws : List String) : Parser Bool := do
  match ← current with
  | .word w => return ws.contains w
  | _ => return false

/-- Pass a punctuator if it is the current token. -/
def eat (p : String) : Parser Bool := do
  if ← isPunctuator p then
    advance
    return true
  else return false

def eatWord (w : String) : Parser Bool := do
  if ← isWord w then
    advance
    return true
  else return false

def expect (p : String) : Parser Unit := do
  unless ← eat p do failHere (.expected p (← current).shown)

def expectWord (w : String) : Parser Unit := do
  unless ← eatWord w do failHere (.expected w (← current).shown)

/-- May a statement end here?  At a semicolon, a closing brace, the end, or a new line. -/
def atStatementEnd : Parser Bool := do
  match ← current with
  | .eof => return true
  | .punctuator p => return p == ";" || p == "\x7d" || (← afterNewline)
  | _ => afterNewline

/-- Pass the end of a statement. -/
def eatStatementEnd : Parser Bool := do
  if ← eat ";" then return true
  else atStatementEnd

def expectStatementEnd : Parser Unit := do
  unless ← eatStatementEnd do failHere (.expected ";" (← current).shown)

/-- Run silently; on failure everything is as before. -/
def attempt {α : Type} (p : Parser α) : Parser (Option α) := do
  let saved ← get
  modify fun s => { s with context := { s.context with silent := true } }
  let result ← (some <$> p) <|> pure none
  match result with
  | some a =>
      modify fun s => { s with context := { s.context with silent := saved.context.silent } }
      return some a
  | none =>
      set saved
      return none

/-- Run, and put everything back as it was. -/
def peek {α : Type} (p : Parser α) : Parser (Option α) := do
  let saved ← get
  let result ← attempt p
  set saved
  return result

/-- Does the token behind the current one satisfy a test? -/
def nextIs (test : Token → Bool → Bool) : Parser Bool := do
  let saved ← get
  modify fun s => { s with context := { s.context with silent := true } }
  advance
  let s ← get
  set saved
  return test s.current s.afterNewline

def nextIsPunctuator (p : String) : Parser Bool := nextIs fun t _ => t == .punctuator p

/-- Take the first character of a longer punctuator as a token of its own. -/
def splitFirst (p : String) : Parser Unit :=
  modify fun s =>
    match s.current with
    | .punctuator q =>
        if p != q && startsWith p.toList q.toList then
          { s with current := .punctuator p, cursor := s.start.drop p.length }
        else s
    | _ => s

/-- Repeat until the end is reached; the budget bounds the number of items. -/
def untilEnd {α : Type} (budget : Nat) (atEnd : Parser Bool) (item : Parser α) : Parser (List α) := do
  match budget with
  | 0 => failHere .tooDeep
  | n + 1 =>
      if ← atEnd then return []
      else
        let a ← item
        let as ← untilEnd n atEnd item
        return a :: as

/-- Repeat a step on a value until it gives nothing. -/
def whileSome {α : Type} (budget : Nat) (step : α → Parser (Option α)) (a : α) : Parser α := do
  match budget with
  | 0 => failHere .tooDeep
  | n + 1 =>
      match ← step a with
      | some b => whileSome n step b
      | none => return a

end Parser

/-- What can be asked of a grammar. -/
inductive Goal where
  | expression
  | assignment
  | unary
  | statement
  /-- A statement or a module item. -/
  | item
  | block
  /-- A block that is the body of a function. -/
  | pattern
  | type
  /-- A type that is no conditional, union or function type. -/
  | operandType
  | classExpression
  /-- An element; the mode of what follows it. -/
  | element (after : Mode)
  deriving DecidableEq, Repr

/-- The readers of the parts of a production, and how many items a list may have. -/
structure Rules where
  read : Goal → Parser Tree
  budget : Nat

namespace Rules

def expression (r : Rules) : Parser Tree := r.read .expression
def assignment (r : Rules) : Parser Tree := r.read .assignment
def unary (r : Rules) : Parser Tree := r.read .unary
def statement (r : Rules) : Parser Tree := r.read .statement
def block (r : Rules) : Parser Tree := r.read .block
def pattern (r : Rules) : Parser Tree := r.read .pattern
def type (r : Rules) : Parser Tree := r.read .type

end Rules

end LiveMarkup.Syntax
