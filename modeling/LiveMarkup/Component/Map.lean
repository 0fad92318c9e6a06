import LiveMarkup.Component.Name
import LiveMarkup.OrderedMap
import LiveMarkup.Path.Normal
import LiveMarkup.Property.Style
import LiveMarkup.Syntax.Tree
/-
# LiveMarkup.Component.Map -- the components of a project

A file with a default export is a component.  The component map leads from names to
paths and back; of two files with one name the later one has it, and the collision is
kept.  `ComponentMap.render` writes the map as a module that exports it, with paths
relative to the project behind an alias.
-/

namespace LiveMarkup

set_option autoImplicit false

open LiveMarkup.Syntax

namespace Component

/-- Does an export specifier give the name `default`? -/
def namesDefault : Tree → Bool
  | .node (.exportSpecifier _) [_, .node (.identifier name) _] => name == "default"
  | _ => false

/-- Is an item of a module its default export? -/
def isDefaultExport : Tree → Bool
  | .node .exportDefaultDeclaration _ => true
  | .node .exportDefaultExpression _ => true
  | .node (.exportNamed _ _) (.node .group specifiers :: _) => specifiers.any namesDefault
  | _ => false

def hasDefaultExport (m : Module) : Bool := m.items.any isDefaultExport

/-- Two files with one component name; the later one has it. -/
structure Collision where
  name : String
  dropped : Path
  kept : Path
  deriving Repr

end Component

open Component (Collision)

/-- The components of a project by name and by path. -/
structure ComponentMap where
  byName : OrderedMap String Path
  byPath : OrderedMap Path String
  collisions : List Collision
  deriving Repr

namespace ComponentMap

def empty : ComponentMap := ⟨.empty, .empty, []⟩

instance : Inhabited ComponentMap := ⟨empty⟩

def size (m : ComponentMap) : Nat := m.byName.size

def isEmpty (m : ComponentMap) : Bool := m.byName.isEmpty

def path? (m : ComponentMap) (name : String) : Option Path := m.byName.get? name

def name? (m : ComponentMap) (path : Path) : Option String := m.byPath.get? path

def duplicate (name : String) (previous path : Path) : Notice :=
  .warning ("Duplicate component name \"" ++ name ++ "\". Overwriting mapping from " ++ previous.text
    ++ " to " ++ path.text)

def skipped (path : Path) (u : Component.Unnamed) : Notice :=
  .warning ("Skipping " ++ path.text ++ " for component map: " ++ u.message)

/-- Enter a path under a name. -/
def enter (m : ComponentMap) (name : String) (path : Path) : Logged ComponentMap :=
  let byName := m.byName.insert name path
  match m.byName.get? name with
  | none => pure ⟨byName, m.byPath.insert path name, m.collisions⟩
  | some previous =>
      ⟨⟨byName, (m.byPath.erase previous).insert path name,
        m.collisions ++ [⟨name, previous, path⟩]⟩, [duplicate name previous path]⟩

/-- Enter a file when it is a component. -/
def addFile (m : ComponentMap) (path : Path) (content : Module) : Logged ComponentMap :=
  if Component.hasDefaultExport content then do
    match ← Component.name path with
    | .ok name => m.enter (Component.pascalCase name) path
    | .error u =>
        Logged.report [skipped path u]
        return m
  else pure m

/-- The map of files entered one after the other. -/
def build (files : List (Path × Module)) : Logged ComponentMap :=
  files.foldlM (fun m f => m.addFile f.1 f.2) empty

/-! ## The rendered map -/

/-- The alias without slashes at its end. -/
def trimmedAlias (importAlias : String) : String :=
  String.ofList (Text.dropEndWhile (· == '/') importAlias.toList)

/-- Where a component is imported from. -/
def importPath (root : Path) (importAlias : String) (path : Path) : String :=
  let relative := (Path.normalized (path.below root).text).toList.dropWhile (· == '/')
  trimmedAlias importAlias ++ "/" ++ String.ofList relative

def renderEntry (root : Path) (importAlias : String) (e : String × Path) : String :=
  "  " ++ keyText e.1 ++ ": " ++ Json.quoted (importPath root importAlias e.2)

/-- The module that exports the map. -/
def render (m : ComponentMap) (root : Path) (importAlias : String) : String :=
  match m.byName.entries with
  | [] => "export const componentMap = \x7b\x7d;\n"
  | entries =>
      "export const componentMap = \x7b\n" ++ ",\n".intercalate (entries.map (renderEntry root importAlias))
        ++ "\n\x7d;\n"

end ComponentMap

end LiveMarkup
