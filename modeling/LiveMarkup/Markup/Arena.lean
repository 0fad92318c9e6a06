import LiveMarkup.Markup.Element
import LiveMarkup.OrderedMap
/-
# LiveMarkup.Markup.Arena -- the elements of a file, by identifier

An arena lists the elements of a file in the order in which their tags open, and keeps
the position of each identifier beside the list.  A node knows the position of the element
around it, which comes earlier, and the positions of the elements directly inside it, so
the nodes form a forest; `ancestors` are the elements around a node from the nearest to the
outermost.  All links are made by `push`, when a node comes in.
-/

namespace LiveMarkup

set_option autoImplicit false

open LiveMarkup.Syntax (LineRange)

/-- An element of a file. -/
structure ArenaNode where
  uid : String
  tag : String
  isComponent : Bool
  /-- The position of the element around. -/
  parent : Option Nat
  /-- The positions of the elements directly inside. -/
  children : List Nat
  lines : Option LineRange
  deriving DecidableEq, Repr

/-- The elements of a file in the order in which their tags open. -/
structure Arena where
  nodes : List ArenaNode
  /-- Where the element with an identifier is. -/
  positions : OrderedMap String Nat
  deriving Repr

namespace Arena

def empty : Arena := ⟨[], .empty⟩

instance : Inhabited Arena := ⟨empty⟩

def size (a : Arena) : Nat := a.nodes.length

def isEmpty (a : Arena) : Bool := a.nodes.isEmpty

/-- Tell the node around, if there is one, that a node is inside it. -/
def link (nodes : List ArenaNode) (parent : Option Nat) (child : Nat) : List ArenaNode :=
  match parent with
  | some p => nodes.modify p fun n => { n with children := n.children ++ [child] }
  | none => nodes

/-- Put a node behind the others. -/
def push (a : Arena) (n : ArenaNode) : Arena :=
  ⟨link a.nodes n.parent a.size ++ [n], a.positions.insert n.uid a.size⟩

def get? (a : Arena) (i : Nat) : Option ArenaNode := a.nodes[i]?

/-- The identifiers in order. -/
def uids (a : Arena) : List String := a.nodes.map (·.uid)

def contains (a : Arena) (uid : String) : Bool := a.positions.contains uid

/-- The position of the element with an identifier. -/
def lookup? (a : Arena) (uid : String) : Option Nat := a.positions.get? uid

/-- The positions of the nodes that name `parent` as the element around. -/
def withParent (a : Arena) (parent : Option Nat) : List Nat :=
  (List.range a.size).filter fun i => (a.get? i).map (·.parent) == some parent

/-- The elements directly inside a node. -/
def children (a : Arena) (i : Nat) : List Nat := ((a.get? i).map (·.children)).getD []

/-- The elements with none around them. -/
def roots (a : Arena) : List Nat := a.withParent none

/-- The elements around a node, nearest first; every step goes to an earlier node. -/
def ancestors (a : Arena) (i : Nat) : List Nat :=
  match (a.get? i).bind (·.parent) with
  | none => []
  | some p => if _h : p < i then p :: ancestors a p else []
  termination_by i

/-! ## What a new node leaves as it is -/

theorem map_link {α : Type} (f : ArenaNode → α)
    (same : ∀ (n : ArenaNode) (children : List Nat), f { n with children } = f n)
    (nodes : List ArenaNode) (parent : Option Nat) (child : Nat) :
    (link nodes parent child).map f = nodes.map f := by
  cases parent with
  | none => rfl
  | some p =>
      refine List.ext_getElem? fun i => ?_
      simp only [link, List.getElem?_map, List.getElem?_modify]
      cases nodes[i]? with
      | none => rfl
      | some n =>
          simp only [Option.map_eq_map, Option.map_some]
          split
          · rw [same]
          · rfl

@[simp] theorem length_link (nodes : List ArenaNode) (parent : Option Nat) (child : Nat) :
    (link nodes parent child).length = nodes.length := by
  cases parent <;> simp [link]

@[simp] theorem size_push (a : Arena) (n : ArenaNode) : (a.push n).size = a.size + 1 := by
  simp [size, push]

@[simp] theorem uids_push (a : Arena) (n : ArenaNode) : (a.push n).uids = a.uids ++ [n.uid] := by
  simp only [uids, push, List.map_append, List.map_cons, List.map_nil,
    map_link (·.uid) (fun _ _ => rfl)]

theorem length_uids (a : Arena) : a.uids.length = a.size := by simp only [uids, size, List.length_map]

end Arena

end LiveMarkup
