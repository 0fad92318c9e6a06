/-
# LiveMarkup.Path.Normal -- one spelling for a path

`normalized` spells a path with single forward slashes and without the scheme of a file
address.  Backslashes become slashes and one leading `file://` goes; then, as long as slashes
meet anywhere, every two that meet become one.  Such a round halves a run of slashes, so a
long run takes several.
-/

namespace LiveMarkup.Path

set_option autoImplicit false

def forwardSlashes (cs : List Char) : List Char := cs.map fun c => if c = '\\' then '/' else c

/-- Drop one leading `file://`.  A slash behind it is the root and stays. -/
def withoutScheme (cs : List Char) : List Char :=
  match "file:///".toList.isPrefixOf? cs with
  | some rest => '/' :: rest
  | none => ("file://".toList.isPrefixOf? cs).getD cs

/-- Do two slashes meet? -/
def slashesMeet : List Char → Bool
  | '/' :: '/' :: _ => true
  | _ :: rest => slashesMeet rest
  | [] => false

/-- One round: from left to right, two slashes that meet become one. -/
def halveSlashes : List Char → List Char
  | '/' :: '/' :: rest => '/' :: halveSlashes rest
  | c :: rest => c :: halveSlashes rest
  | [] => []

/-- Rounds as long as slashes meet, and at most so many. -/
def halveWhile : Nat → List Char → List Char
  | 0, cs => cs
  | n + 1, cs => if slashesMeet cs then halveWhile n (halveSlashes cs) else cs

/-- Rounds until no slashes meet.  There are no more of them than characters, so the bound is
never what ends them; it keeps the recursion structural. -/
def singleSlashes (cs : List Char) : List Char := halveWhile cs.length cs

def normalizedChars (cs : List Char) : List Char :=
  singleSlashes (withoutScheme (forwardSlashes cs))

def normalized (s : String) : String := String.ofList (normalizedChars s.toList)

end LiveMarkup.Path
