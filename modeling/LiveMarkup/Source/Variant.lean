import LiveMarkup.Path.Basic
import LiveMarkup.Syntax.Reading
/-
# LiveMarkup.Source.Variant -- the dialects of source files

The extension of a file alone decides its variant.  Markup is read everywhere but in
plain typed files, where an angle bracket starts a type assertion.
-/

namespace LiveMarkup

set_option autoImplicit false

open LiveMarkup.Syntax (Dialect)

/-- The dialect of a source file. -/
inductive Variant where
  | script
  | jsx
  | typeScript
  | tsx
  deriving DecidableEq, Repr

namespace Variant

/-- The name of a variant in answers. -/
def name : Variant → String
  | script => "script"
  | jsx => "jsx"
  | typeScript => "type-script"
  | tsx => "tsx"

/-- The variant of an extension, which may be given with leading points. -/
def ofExtension? (ext : String) : Option Variant :=
  match String.ofList (ext.toList.dropWhile (· == '.')) with
  | "js" | "mjs" | "cjs" => some script
  | "jsx" => some jsx
  | "ts" | "mts" | "cts" => some typeScript
  | "tsx" => some tsx
  | _ => none

def ofPath? (p : Path) : Option Variant := p.extension?.bind ofExtension?

def isTyped : Variant → Bool
  | typeScript | tsx => true
  | script | jsx => false

def allowsMarkup (v : Variant) : Bool := v != typeScript

def dialect (v : Variant) : Dialect := ⟨v.isTyped, v.allowsMarkup⟩

end Variant

/-- Is the file one of the sources? -/
def Path.isSource (p : Path) : Bool := (Variant.ofPath? p).isSome

end LiveMarkup
