import LiveMarkup.Property.Style
import LiveMarkup.Text.Digit
import LiveMarkup.Text.Entity
/-
# LiveMarkup.Property.Value -- the values of properties and their kinds

A value is what an editor shows and sends back: a literal, a style, or code for
everything else.  The kind of a value is a hint for the editor.  A string is a color
when it looks like one of the usual spellings, and a unit when a number followed by a
unit of length, time or share ends it; a class name is always plain text.
-/

namespace LiveMarkup

set_option autoImplicit false

namespace Property

/-- The value of a property. -/
inductive Value where
  | undefined
  | null
  | boolean (value : Bool)
  | number (value : Double)
  | string (value : String)
  | code (code : String)
  | style (style : Style)
  deriving DecidableEq, Repr

namespace Value

instance : Inhabited Value := ⟨undefined⟩

def asStyle? : Value → Option Style
  | style s => some s
  | _ => none

end Value

/-- The name of the text of an element among its properties. -/
def textName : String := "textContent"

/-- The name of the property that holds inline styles. -/
def styleName : String := "style"

/-- The name of the property that holds class names. -/
def classesName : String := "className"

/-- What an editor offers for a value. -/
inductive Kind where
  | string
  | number
  | boolean
  | color
  | unit
  | code
  | null
  | undefined
  | inlineStyle
  deriving DecidableEq, Repr

namespace Kind

def name : Kind → String
  | string => "string"
  | number => "number"
  | boolean => "boolean"
  | color => "color"
  | unit => "unit"
  | code => "code"
  | null => "null"
  | undefined => "undefined"
  | inlineStyle => "inlineStyleObject"

/-- The functions that make colors, up to their parenthesis. -/
def colorFunctions : List String := ["rgb(", "rgba(", "hsl(", "hsla("]

/-- Three or six hexadecimal digits behind a number sign, or a call that makes a color. -/
def isColor (s : String) : Bool :=
  let cs := s.toList
  let hex := match cs with
    | '#' :: digits => (digits.length == 3 || digits.length == 6) && digits.all Text.isHexDigit
    | _ => false
  hex || colorFunctions.any fun f => f.toList.isPrefixOf cs

def units : List String := ["px", "rem", "em", "%", "vh", "vw", "s", "ms"]

/-- A digit followed by a unit ends the text. -/
def isUnit (s : String) : Bool :=
  let back := s.toList.reverse
  units.any fun u =>
    let unit := u.toList.reverse
    unit.isPrefixOf back && ((back.drop unit.length).head?.map Text.isDecimalDigit).getD false

/-- The kind of the value of a property. -/
def infer (name : String) : Value → Kind
  | .style _ => if name = styleName then inlineStyle else code
  | .undefined => undefined
  | .null => null
  | .boolean _ => boolean
  | .number _ => number
  | .code _ => code
  | .string s =>
      if name = classesName then string
      else if isColor s then color
      else if isUnit s then unit
      else string

end Kind

end Property

end LiveMarkup
