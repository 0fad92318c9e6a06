import LiveMarkup.Markup.Arena
import LiveMarkup.Markup.Supply
import LiveMarkup.Markup.Traversal
/-
# LiveMarkup.Markup.Identify -- giving every element an identifier

`Module.identify` walks the elements of a module in the order in which their tags open.
An element keeps the string under its first attribute of the name, unless there is none,
it is empty, or an element before has it; then it is given a text from the supply, in
place of that attribute's value or in a new attribute at the end.  What the old value
held is gone, elements included.

`Module.withoutIdentifiers` removes the attributes of that name everywhere.
-/

namespace LiveMarkup.Syntax

set_option autoImplicit false

/-- Where a walk over elements stands: the elements so far, the identifiers made so far,
and where the supply goes on. -/
structure Walk where
  arena : Arena
  assigned : List String
  next : Nat

/-- The identifier an element may keep: the string of its first attribute of the name,
when it is not empty and not taken. -/
def keptIdentifier? (name : String) (taken : List String) (attributes : List (Attribute Tree)) :
    Option String :=
  match attributes.find? (Markup.isNamed name) with
  | some (.named _ value) =>
      match Markup.stringValue? value with
      | some uid => if uid = "" ∨ uid ∈ taken then none else some uid
      | none => none
  | _ => none

section Identify

variable (supply : Supply) (name : String)

/-- The identifier of an element, and the one to write into its attributes when it is new. -/
def chooseIdentifier (attributes : List (Attribute Tree)) (w : Walk) : String × Option String × Walk :=
  match keptIdentifier? name w.arena.uids attributes with
  | some uid => (uid, none, w)
  | none =>
      let drawn := supply.fresh w.arena.uids w.next
      (drawn.1, some drawn.1, { w with assigned := w.assigned ++ [drawn.1], next := drawn.2 })

mutual

/-- Identify the elements of a tree; `around` is the position of the element around it. -/
def Tree.identify (around : Option Nat) : Tree → Walk → Tree × Walk
  | .node kind parts, w =>
      let r := identifyOf around parts w
      (.node kind r.1, r.2)
  | .element ⟨tagName, attributes, typeArguments, selfClosing, children, closing, lines⟩, w =>
      let chosen := chooseIdentifier supply name attributes w
      let e : Markup := ⟨tagName, attributes, typeArguments, selfClosing, children, closing, lines⟩
      let w := chosen.2.2
      let here := w.arena.size
      let w := { w with arena := w.arena.push ⟨chosen.1, e.tag, e.isComponent, around, [], lines⟩ }
      let as := identifyAttributes (some here) chosen.2.1 attributes w
      let ts := identifyOption (some here) typeArguments as.2
      let cs := identifyOf (some here) children ts.2
      (.element ⟨tagName, as.1, ts.1, selfClosing, cs.1, closing, lines⟩, cs.2)
  termination_by structural t => t

def identifyOf (around : Option Nat) : List Tree → Walk → List Tree × Walk
  | [], w => ([], w)
  | t :: ts, w =>
      let r := t.identify around w
      let rs := identifyOf around ts r.2
      (r.1 :: rs.1, rs.2)
  termination_by structural ts => ts

/-- Identify inside attributes; a new identifier goes into the first attribute of the
name, or behind all attributes. -/
def identifyAttributes (around : Option Nat) (new : Option String) :
    List (Attribute Tree) → Walk → List (Attribute Tree) × Walk
  | [], w => ((new.map (Markup.identifierAttribute name)).toList, w)
  | a :: as, w =>
      match new with
      | some uid =>
          if Markup.isNamed name a then
            let rs := identifyAttributes around none as w
            (Markup.identifierAttribute name uid :: rs.1, rs.2)
          else
            let r := identifyIn around a w
            let rs := identifyAttributes around (some uid) as r.2
            (r.1 :: rs.1, rs.2)
      | none =>
          let r := identifyIn around a w
          let rs := identifyAttributes around none as r.2
          (r.1 :: rs.1, rs.2)
  termination_by structural as => as

def identifyIn (around : Option Nat) : Attribute Tree → Walk → Attribute Tree × Walk
  | .named n value, w =>
      let r := identifyOption around value w
      (.named n r.1, r.2)
  | .spread value, w =>
      let r := value.identify around w
      (.spread r.1, r.2)
  termination_by structural a => a

def identifyOption (around : Option Nat) : Option Tree → Walk → Option Tree × Walk
  | none, w => (none, w)
  | some t, w =>
      let r := t.identify around w
      (some r.1, r.2)
  termination_by structural t => t

end

end Identify

section Strip

variable (name : String)

mutual

/-- A tree without the attributes of a name. -/
def Tree.withoutIdentifiers : Tree → Tree
  | .node kind parts => .node kind (withoutIdentifiersOf parts)
  | .element ⟨tagName, attributes, typeArguments, selfClosing, children, closing, lines⟩ =>
      .element ⟨tagName, otherAttributes attributes, withoutIdentifiersOption typeArguments,
        selfClosing, withoutIdentifiersOf children, closing, lines⟩
  termination_by structural t => t

def withoutIdentifiersOf : List Tree → List Tree
  | [] => []
  | t :: ts => t.withoutIdentifiers :: withoutIdentifiersOf ts
  termination_by structural ts => ts

def otherAttributes : List (Attribute Tree) → List (Attribute Tree)
  | [] => []
  | a :: as =>
      if Markup.isNamed name a then otherAttributes as
      else withoutIdentifiersIn a :: otherAttributes as
  termination_by structural as => as

def withoutIdentifiersIn : Attribute Tree → Attribute Tree
  | .named n value => .named n (withoutIdentifiersOption value)
  | .spread value => .spread value.withoutIdentifiers
  termination_by structural a => a

def withoutIdentifiersOption : Option Tree → Option Tree
  | none => none
  | some t => some t.withoutIdentifiers
  termination_by structural t => t

end

end Strip

/-- A module whose elements all have identifiers. -/
structure Identified where
  content : Module
  arena : Arena
  /-- The identifiers that were made, in order. -/
  assigned : List String
  /-- Where the supply goes on. -/
  next : Nat

namespace Module

/-- Give every element an identifier, from the supply where it has none of its own. -/
def identify (supply : Supply) (name : String) (next : Nat) (m : Module) : Identified :=
  let r := identifyOf supply name none m.items ⟨.empty, [], next⟩
  ⟨{ m with items := r.1 }, r.2.arena, r.2.assigned, r.2.next⟩

/-- The module without the attributes of a name. -/
def withoutIdentifiers (name : String) (m : Module) : Module :=
  { m with items := withoutIdentifiersOf name m.items }

end Module

end LiveMarkup.Syntax
