/-
# LiveMarkup.Syntax.Complaint -- what can be wrong with a text

A complaint is a cause; `Complaint.message` is its wording.  A `Trouble` is a complaint
at a place, counted in characters from the start of the text.
-/

namespace LiveMarkup.Syntax

set_option autoImplicit false

inductive Complaint where
  | expressionExpected
  | unexpectedEnd
  /-- One token was required and another stands there. -/
  | expected (token got : String)
  /-- The token starts nothing that may stand here. -/
  | unexpectedToken (got wanted : String)
  | unexpectedCharacter (c : Char)
  | identifierExpected
  | statementEndExpected
  | semicolonExpected
  | unterminatedString
  | unterminatedComment
  | unterminatedRegex
  | unterminatedTemplate
  | unterminatedMarkup
  /-- A brace or bracket in markup text, which is written as an entity or in a container. -/
  | bareMarkupCharacter (c : Char)
  | closingTagExpected (tag : String)
  | markupValueExpected
  | emptyMarkupValue
  | initializerExpected
  | patternInitializerExpected
  | loopInitializer
  | returnOutsideFunction
  | breakOutsideLoop
  | breakToUnknownLabel
  | continueOutsideLoop
  | jumpAcrossFunction
  | withInStrictMode
  | newTargetOutsideFunction
  | duplicateConstructor
  | overrideWithoutSuperclass
  | awaitOutsideAsync
  | deleteOfName
  | notAssignable
  | notPattern
  | emptyParentheses
  | restNotLast
  | newlineAfterThrow
  | importNotAtTopLevel
  | reservedWord (word : String)
  | superCallOutside
  | octalLiteral
  | badEscape
  | numberEnd
  | mixedNullish
  | unaryBeforePower
  | trailingComma
  /-- The reader gave up; its budget covers every text, so this is not reached. -/
  | tooDeep
  deriving DecidableEq, Repr

namespace Complaint

def message : Complaint → String
  | expressionExpected => "Expression expected"
  | unexpectedEnd => "Unexpected eof"
  | expected token got => "Expected '" ++ token ++ "', got '" ++ got ++ "'"
  | unexpectedToken got wanted => "Unexpected token `" ++ got ++ "`. Expected " ++ wanted
  | unexpectedCharacter c => "Unexpected character '" ++ String.singleton c ++ "'"
  | identifierExpected => "Expected ident"
  | statementEndExpected => "Expected ';', '\x7d' or <eof>"
  | semicolonExpected => "Expected a semicolon"
  | unterminatedString => "Unterminated string constant"
  | unterminatedComment => "Unterminated block comment"
  | unterminatedRegex => "Unterminated regexp literal"
  | unterminatedTemplate => "Unterminated template"
  | unterminatedMarkup => "Unterminated JSX contents"
  | bareMarkupCharacter c =>
      let shown := String.singleton c
      let entity := if c == '>' then "&gt;" else "&rbrace;"
      "Unexpected token. Did you mean `\x7b'" ++ shown ++ "'\x7d` or `" ++ entity ++ "`?"
  | closingTagExpected tag => "Expected corresponding JSX closing tag for <" ++ tag ++ ">"
  | markupValueExpected => "JSX value should be either an expression or a quoted JSX text"
  | emptyMarkupValue => "JSX attributes must only be assigned a non-empty expression"
  | initializerExpected => "'const' declarations must be initialized"
  | patternInitializerExpected => "Destructuring bindings require initializers"
  | loopInitializer => "Unexpected initializer in for in/of loop"
  | returnOutsideFunction => "Return statement is not allowed here"
  | breakOutsideLoop =>
      "A 'break' statement can only be used within an enclosing iteration or switch statement"
  | breakToUnknownLabel =>
      "A 'break' statement can only jump to a label of an enclosing statement"
  | continueOutsideLoop =>
      "A 'continue' statement can only jump to a label of an enclosing iteration statement"
  | jumpAcrossFunction => "Jump target cannot cross function boundary"
  | withInStrictMode => "With statement are not allowed in strict mode"
  | newTargetOutsideFunction =>
      "'new.target' is only allowed in the body of a function declaration, function expression, or class."
  | duplicateConstructor => "A class may only have one constructor"
  | overrideWithoutSuperclass =>
      "This member cannot have an 'override' modifier because its containing class does not extend another class."
  | awaitOutsideAsync => "await isn't allowed in non-async function"
  | deleteOfName => "`delete` cannot be called on an identifier in strict mode"
  | notAssignable => "Cannot assign to this"
  | notPattern => "Not a pattern"
  | emptyParentheses => "Parenthesized expression cannot be empty"
  | restNotLast => "A rest parameter must be last in a parameter list"
  | newlineAfterThrow => "LineBreak cannot follow 'throw'"
  | importNotAtTopLevel => "'import', and 'export' cannot be used outside of module code"
  | reservedWord word => "'" ++ word ++ "' cannot be used as an identifier in strict mode"
  | superCallOutside => "Invalid access to super"
  | octalLiteral => "Legacy octal literals are not available when targeting ECMAScript 5 and higher"
  | badEscape => "Invalid unicode escape"
  | numberEnd => "An identifier or keyword cannot immediately follow a numeric literal"
  | mixedNullish =>
      "Nullish coalescing operator(??) requires parens when mixing with logical operators"
  | unaryBeforePower => "** operator cannot be applied to unary expression"
  | trailingComma => "Trailing comma is not allowed"
  | tooDeep => "Nesting is too deep"

end Complaint

/-- A complaint and where it arose. -/
structure Trouble where
  offset : Nat
  complaint : Complaint
  deriving DecidableEq, Repr

end LiveMarkup.Syntax
