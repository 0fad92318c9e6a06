import LiveMarkup.Proofs.Markup.Equality
import LiveMarkup.Proofs.Markup.Shape
import LiveMarkup.Proofs.Syntax.StringLiteral
import LiveMarkup.Proofs.Text.Ascii
import Mathlib.Data.List.Forall2
/-
# LiveMarkup.Proofs.Syntax.ObjectLiteral -- the grammar of object literals

An object literal is put together from texts.  Its members stand between braces, with commas
between them (`braced`).  A member is a key, a colon and the text of an expression, or three
points and the text of one (`Language.Spells`), and a key is a name or the literal of a string
(`SpellsKey`).  An expression may not be a sequence, because a comma in it would end the member,
and there may only be white space around it that a script knows.

A language goes by this grammar when it reads every such text as what it spells
(`Language.ReadsObjects`).  What is asked of the texts of expressions beyond that is left open
(`fits`), because no reader that looks ahead goes by it for all of them: where it takes an angle
bracket for the start of an element first, the text of a generic arrow, `<T extends U>(x) => x`, may
be read on to a closing tag in a later member.
-/

namespace LiveMarkup

set_option autoImplicit false

open LiveMarkup.Syntax

namespace Property

def isSequence : Tree → Bool
  | .node .sequence _ => true
  | _ => false

/-- Is the white space around a text white space of scripts? -/
def isFenced (text : String) : Bool :=
  (text.toList.takeWhile Text.isWhite ++ text.toList.reverse.takeWhile Text.isWhite).all fun c =>
    isBlank c || isLineEnd c

/-- A text is a name of plain letters and digits. -/
def IsIdentifier (text : String) : Prop :=
  ∃ c rest, text.toList = c :: rest ∧ Text.isNameLetter c = true ∧
    ∀ d ∈ rest, Text.isNameLetter d = true ∨ Text.isAsciiDigit d = true

/-- A text in front of a colon spells a key. -/
inductive SpellsKey : String → Tree → Prop
  | name {text : String} (isName : IsIdentifier text) : SpellsKey text (.leaf (.identifier text))
  | literal (text : String) : SpellsKey (Json.quoted text) (stringTree (scriptString (Json.quoted text)))

/-- Members between braces. -/
def braced : List String → String
  | [] => "\x7b\x7d"
  | members => "\x7b " ++ ", ".intercalate members ++ " \x7d"

end Property

open Property

namespace Language

variable (l : Language)

/-- The expression that a text is. -/
def expression? (text : String) : Option Tree := (readFragment l text).toOption

/-- The parts of the object literal that a text is. -/
def objectParts? (text : String) : Option (List Tree) :=
  match l.expression? text with
  | some (.node .object parts) => some parts
  | _ => none

/-- The same expression, perhaps in another place. -/
def Alike (t u : Tree) : Prop := t.bare = u.bare ∧ l.printTree t = l.printTree u

/-- The same part of an object literal, perhaps in another place, whatever its key is spelled like. -/
def AlikePart : Tree → Tree → Prop
  | .node .keyValue [k, v], .node .keyValue [k', v'] => k.bare = k'.bare ∧ l.Alike v v'
  | .node .spread [v], .node .spread [v'] => l.Alike v v'
  | _, _ => False

variable (fits : String → Prop)

/-- A text spells an expression that may stand in a member. -/
structure SpellsValue (text : String) (u : Tree) : Prop where
  read : u ∈ l.expression? text
  single : isSequence u = false
  fenced : isFenced text = true
  fit : fits text

/-- A text spells a member of an object literal. -/
inductive Spells : String → Tree → Prop
  | pair {key value : String} {k u : Tree} (named : SpellsKey key k) (holds : l.SpellsValue fits value u) :
      Spells (key ++ ": " ++ value) (.node .keyValue [k, u])
  | spread {value : String} {u : Tree} (holds : l.SpellsValue fits value u) :
      Spells ("..." ++ value) (.node .spread [u])

/-- Members between braces are read as what they spell. -/
def ReadsObjects : Prop :=
  ∀ (members : List String) (parts : List Tree), List.Forall₂ (l.Spells fits) members parts →
    ∃ parts' ∈ l.objectParts? (braced members), List.Forall₂ l.AlikePart parts' parts

variable {l} {fits} {fits' : String → Prop} {t u : Tree}

theorem mem_expression? {text : String} {u : Tree} :
    u ∈ l.expression? text ↔ readFragment l text = .ok u := by
  unfold expression?
  cases readFragment l text <;> simp [Except.toOption]

theorem objectParts?_eq_some {text : String} {parts : List Tree} :
    l.objectParts? text = some parts ↔ readFragment l text = .ok (.node .object parts) := by
  rw [← mem_expression?]
  unfold objectParts?
  constructor
  · intro found
    split at found
    · rename_i read
      cases found
      exact read
    · cases found
  · intro read
    rw [Option.mem_def.mp read]

theorem AlikePart.keyValue {k : Tree} (alike : l.AlikePart t (.node .keyValue [k, u])) :
    ∃ k' v, t = .node .keyValue [k', v] ∧ k'.bare = k.bare ∧ l.Alike v u := by
  unfold AlikePart at alike
  split at alike
  · rename_i same
    cases same
    exact ⟨_, _, rfl, alike⟩
  · rename_i same
    cases same
  · cases alike

theorem AlikePart.spread (alike : l.AlikePart t (.node .spread [u])) : ∃ v, t = .node .spread [v] ∧ l.Alike v u := by
  unfold AlikePart at alike
  split at alike
  · rename_i same
    cases same
  · rename_i same
    cases same
    exact ⟨_, rfl, alike⟩
  · cases alike

theorem Spells.mono (fewer : ∀ text, fits' text → fits text) {text : String} (spells : l.Spells fits' text t) :
    l.Spells fits text t := by
  cases spells with
  | pair named holds => exact .pair named ⟨holds.read, holds.single, holds.fenced, fewer _ holds.fit⟩
  | spread holds => exact .spread ⟨holds.read, holds.single, holds.fenced, fewer _ holds.fit⟩

theorem ReadsObjects.mono (objects : l.ReadsObjects fits) (fewer : ∀ text, fits' text → fits text) :
    l.ReadsObjects fits' :=
  fun members parts spells => objects members parts (spells.imp fun _ _ => Spells.mono fewer)

theorem Alike.refl (t : Tree) : l.Alike t t := ⟨rfl, rfl⟩

end Language

end LiveMarkup
