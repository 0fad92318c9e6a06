/-
# LiveMarkup.Syntax.Layout -- text with line breaks and indentation

A layout is built from texts, line breaks and nested layouts.  A line break ends the
current line, so two breaks in a row are one.  Each line starts with four spaces per
level of nesting, written when its first text is; a text may itself hold line breaks,
which are copied and not indented.
-/

namespace LiveMarkup.Syntax

set_option autoImplicit false

inductive Layout where
  | empty
  | text (s : String)
  | newline
  | nest (inner : Layout)
  | append (first second : Layout)

namespace Layout

instance : Append Layout := ⟨.append⟩
instance : Inhabited Layout := ⟨.empty⟩
instance : Coe String Layout := ⟨.text⟩

/-- What has been written, and whether the next text starts a line. -/
structure Canvas where
  lineStart : Bool
  written : String

def Canvas.write (level : Nat) (s : String) (c : Canvas) : Canvas :=
  if s.isEmpty then c
  else if c.lineStart then ⟨false, c.written ++ String.ofList (List.replicate (4 * level) ' ') ++ s⟩
  else ⟨false, c.written ++ s⟩

def Canvas.breakLine (c : Canvas) : Canvas :=
  if c.lineStart then c else ⟨true, c.written.push '\n'⟩

/-- Write a layout at a level of nesting. -/
def draw : Layout → Nat → Canvas → Canvas
  | empty, _, c => c
  | text s, level, c => c.write level s
  | newline, _, c => c.breakLine
  | nest inner, level, c => inner.draw (level + 1) c
  | append first second, level, c => second.draw level (first.draw level c)

def render (l : Layout) : String := (l.draw 0 ⟨true, ""⟩).written

/-- The layouts one after another, with `between` between them. -/
def join (between : Layout) : List Layout → Layout
  | [] => empty
  | [l] => l
  | l :: ls => l ++ between ++ join between ls

def concat (ls : List Layout) : Layout := join empty ls

/-- Each layout on lines of its own. -/
def lines : List Layout → Layout
  | [] => empty
  | l :: ls => l ++ newline ++ lines ls

def commaList (ls : List Layout) : Layout := join ", " ls

/-- Lines one level deeper, between braces. -/
def bracedLines (ls : List Layout) : Layout :=
  "\x7b" ++ newline ++ nest (lines ls) ++ newline ++ "\x7d"

/-- As `bracedLines`, but nothing between the braces when there are no lines. -/
def block (ls : List Layout) : Layout :=
  if ls.isEmpty then "\x7b\x7d" else bracedLines ls

/-- Items one level deeper on lines of their own, separated by commas. -/
def listed (opening closing : String) (ls : List Layout) : Layout :=
  if ls.isEmpty then opening ++ closing
  else opening ++ newline ++ nest (join ("," ++ newline) ls) ++ newline ++ closing

/-- A layout before some other, when there is one. -/
def optional (before : Layout) : Option Layout → Layout
  | some l => before ++ l
  | none => empty

def when (condition : Bool) (l : Layout) : Layout := if condition then l else empty

end Layout

end LiveMarkup.Syntax
