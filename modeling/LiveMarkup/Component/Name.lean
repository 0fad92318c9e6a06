import LiveMarkup.Path.Basic
import LiveMarkup.Source.Notice
import LiveMarkup.Text.Uppercase
/-
# LiveMarkup.Component.Name -- the names of components

A component goes by the name of its file without the extension, or, for an index file,
by the name of the directory, unless that says nothing either.  `pascalCase` makes the
name that the component has in code.
-/

namespace LiveMarkup.Component

set_option autoImplicit false

/-- Each `-` or `_` goes and the character behind it becomes upper case, whatever it is;
a last one stays. -/
def joinWords : List Char → List Char
  | [] => []
  | c :: rest =>
      if c = '-' ∨ c = '_' then
        match rest with
        | [] => [c]
        | next :: rest => Text.uppercase next ++ joinWords rest
      else c :: joinWords rest

/-- A name in words, as a name that starts with a capital letter. -/
def pascalCase (name : String) : String :=
  match joinWords name.toList with
  | [] => ""
  | first :: rest => String.ofList (Text.uppercase first ++ rest)

/-- Directories that say nothing about what is in them. -/
def plainDirectories : List String := ["src", "lib", "components", "pages", "utils"]

/-- The path has no file name to derive a name from. -/
structure Unnamed where
  path : Path
  deriving Repr

def Unnamed.message (u : Unnamed) : String :=
  u.path.text ++ ": cannot derive a component name from the file name"

/-- The notice that an index file keeps its own name. -/
def plainName (stem directory : String) (path : Path) : Notice :=
  .warning ("Using generic name '" ++ stem ++ "' for index file in '" ++ directory ++ "': " ++ path.text)

/-- The name of a file's component. -/
def name (path : Path) : Logged (Except Unnamed String) :=
  match path.fileStem? with
  | none => pure (.error ⟨path⟩)
  | some stem =>
      if stem.isEmpty then pure (.error ⟨path⟩)
      else if !Text.sameIgnoringCase stem "index" then pure (.ok stem)
      else
        let directory := (path.parent?.bind Path.fileName?).getD ""
        if directory.isEmpty || plainDirectories.any (Text.sameIgnoringCase directory) then
          ⟨.ok stem, [plainName stem directory path]⟩
        else pure (.ok directory)

end LiveMarkup.Component
