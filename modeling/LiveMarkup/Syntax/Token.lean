import LiveMarkup.Number.Text
import LiveMarkup.Syntax.Complaint
/-
# LiveMarkup.Syntax.Token -- the words of a script

Tokens are names and reserved words (not told apart here), punctuators, literals, and
the pieces of markup.  A piece of text that is no token at all is a `broken` token that
carries the complaint about it.
-/

namespace LiveMarkup.Syntax

set_option autoImplicit false

inductive Token where
  | eof
  | word (name : String)
  | punctuator (text : String)
  | string (value raw : String)
  | number (value : Double) (raw : String)
  | bigint (raw : String)
  | regex (pattern flags : String)
  /-- A name inside a tag, which may hold hyphens. -/
  | markupName (name : String)
  | markupText (value raw : String)
  /-- The bracket that opens a tag inside markup text. -/
  | markupStart
  /-- The bracket that closes a tag. -/
  | markupEnd
  | broken (complaint : Complaint)
  deriving DecidableEq, Repr

namespace Token

/-- How a message shows a token. -/
def shown : Token → String
  | eof => "<eof>"
  | word name => name
  | punctuator text => text
  | string value raw => "string literal (" ++ value ++ ", " ++ raw ++ ")"
  | number value raw => "numeric literal (" ++ value.plainText ++ ", " ++ raw ++ ")"
  | bigint raw => "bigint literal (" ++ String.ofList (raw.toList.dropLast) ++ ", " ++ raw ++ ")"
  | regex pattern flags => "regexp literal (" ++ pattern ++ ", " ++ flags ++ ")"
  | markupName name => "jsx name (" ++ name ++ ")"
  | markupText _ raw => "jsx text (" ++ raw ++ ")"
  | markupStart => "< (jsx tag start)"
  | markupEnd => "> (jsx tag end)"
  | broken complaint => complaint.message

/-- Operators between two operands, apart from those written as words. -/
def binaryOperators : List String :=
  ["==", "!=", "===", "!==", "<", "<=", ">", ">=", "<<", ">>", ">>>", "+", "-", "*", "/", "%",
   "|", "^", "&", "**", "||", "&&", "??"]

def assignmentOperators : List String :=
  ["=", "+=", "-=", "*=", "/=", "%=", "<<=", ">>=", ">>>=", "|=", "^=", "&=", "**=", "&&=", "||=",
   "??="]

/-- Words that are never names. -/
def reservedWords : List String :=
  ["null", "true", "false", "break", "case", "catch", "continue", "debugger", "default", "do",
   "export", "else", "finally", "for", "function", "if", "return", "switch", "throw", "try", "var",
   "const", "while", "with", "new", "this", "super", "class", "extends", "import", "in",
   "instanceof", "typeof", "void", "delete", "enum"]

/-- Words that are no names in strict code. -/
def strictReservedWords : List String :=
  ["implements", "package", "protected", "interface", "private", "public", "yield", "let"]

end Token

end LiveMarkup.Syntax
