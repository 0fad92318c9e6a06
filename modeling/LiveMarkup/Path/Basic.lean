import LiveMarkup.Text.Split
/-
# LiveMarkup.Path.Basic -- paths of files

A path is the text it was given as, read as a list of components: the root, a leading
`.`, the parent `..`, and names.  Slashes that repeat or end the text, and every `.`
but a leading one, are no components.  Paths are compared and ordered by their
components; the text is only shown.

`parent` and `relativeTo` cut the text and keep what is between the remaining
components as it is.
-/

namespace LiveMarkup

set_option autoImplicit false

open LiveMarkup.Text (split join)

/-- A component of a path. -/
inductive PathStep where
  | root
  | current
  | parent
  | name (text : String)
  deriving DecidableEq, Repr

namespace PathStep

/-- The text of a component. -/
def text : PathStep → String
  | root => "/"
  | current => "."
  | parent => ".."
  | name s => s

/-- The root comes first, then `.`, then `..`, then names. -/
def rank : PathStep → Nat
  | root => 0
  | current => 1
  | parent => 2
  | name _ => 3

instance : Ord PathStep := ⟨compareLex (compareOn rank) (compareOn text)⟩

instance : Std.TransOrd PathStep :=
  inferInstanceAs (Std.TransCmp (compareLex (compareOn rank) (compareOn text)))

/-- The component of a piece between slashes, away from the start. -/
def ofPiece? (piece : List Char) : Option PathStep :=
  if piece = [] then none
  else if piece = ['.'] then none
  else if piece = ['.', '.'] then some parent
  else some (name (String.ofList piece))

/-- The component of the first piece of a relative path. -/
def ofFirst? (piece : List Char) : Option PathStep :=
  if piece = ['.'] then some current else ofPiece? piece

end PathStep

/-- A path as it was given. -/
structure Path where
  text : String
  deriving Repr

namespace Path

instance : Inhabited Path := ⟨⟨""⟩⟩

instance : ToString Path := ⟨Path.text⟩

/-- Does the path start at the root? -/
def isAbsolute (p : Path) : Bool := p.text.toList.head? == some '/'

/-- The pieces between slashes, each with its component when it is one. -/
def pieces (p : Path) : List (List Char × Option PathStep) :=
  match split '/' p.text.toList with
  | [] => []
  | first :: rest =>
      let others := rest.map fun piece => (piece, PathStep.ofPiece? piece)
      if p.isAbsolute then ([], some .root) :: others
      else (first, PathStep.ofFirst? first) :: others

/-- The components of a path. -/
def components (p : Path) : List PathStep := p.pieces.filterMap (·.2)

instance : Ord Path := ⟨compareOn components⟩

instance : Std.TransOrd Path := inferInstanceAs (Std.TransCmp (compareOn components))

/-- Paths are equal when their components are. -/
def same (p q : Path) : Bool := p.components == q.components

instance : BEq Path := ⟨same⟩

/-- The text of pieces, without those at the end that are no component.  A root that
stands alone is written as its slash. -/
def ofPieces (pieces : List (List Char × Option PathStep)) : Path :=
  let kept := (pieces.reverse.dropWhile (·.2.isNone)).reverse
  match kept with
  | [(_, some .root)] => ⟨"/"⟩
  | _ => ⟨String.ofList (join '/' (kept.map (·.1)))⟩

/-- The path without its last component; the root and the empty path have no parent. -/
def parent? (p : Path) : Option Path :=
  match p.pieces.reverse.dropWhile (·.2.isNone) with
  | [] => none
  | (_, some .root) :: _ => none
  | _ :: before => some (ofPieces before.reverse)

/-- The last component when it is a name. -/
def fileName? (p : Path) : Option String :=
  match p.components.getLast? with
  | some (.name s) => some s
  | _ => none

/-- A file name cut at its last point; a name that starts with its only point is whole. -/
def splitName (name : String) : String × Option String :=
  let back := name.toList.reverse
  let ext := back.takeWhile (· != '.')
  match back.drop ext.length with
  | [] => (name, none)
  | _ :: stem =>
      if stem.isEmpty then (name, none)
      else (String.ofList stem.reverse, some (String.ofList ext.reverse))

def fileStem? (p : Path) : Option String := p.fileName?.map fun n => (splitName n).1

def extension? (p : Path) : Option String := p.fileName?.bind fun n => (splitName n).2

/-- The pieces behind the first `n` components. -/
def dropComponents : Nat → List (List Char × Option PathStep) → List (List Char × Option PathStep)
  | 0, ps => ps.dropWhile (·.2.isNone)
  | _ + 1, [] => []
  | n + 1, (_, some _) :: ps => dropComponents n ps
  | n + 1, (_, none) :: ps => dropComponents (n + 1) ps

/-- Is the first path above the second or equal to it? -/
def isAbove (base p : Path) : Bool := base.components.isPrefixOf p.components

/-- What remains of a path below a base. -/
def relativeTo? (p base : Path) : Option Path :=
  if base.isAbove p then
    match base.components.length with
    | 0 => some (ofPieces p.pieces)
    | n => some (ofPieces (dropComponents n p.pieces))
  else none

/-- The path below a base, or the whole path when it is elsewhere. -/
def below (p base : Path) : Path := (p.relativeTo? base).getD p

/-- A path continued by another one; an absolute one starts anew. -/
def append (p q : Path) : Path :=
  if q.isAbsolute then q
  else if p.text.isEmpty || p.text.toList.getLast? == some '/' then ⟨p.text ++ q.text⟩
  else ⟨p.text ++ "/" ++ q.text⟩

instance : Append Path := ⟨append⟩

/-- A file directly in a directory. -/
def child (p : Path) (name : String) : Path := p ++ (⟨name⟩ : Path)

end Path

end LiveMarkup
