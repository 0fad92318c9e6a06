import LiveMarkup.Syntax.Tree
import LiveMarkup.Syntax.Layout
import LiveMarkup.Syntax.Literal
/-
# LiveMarkup.Syntax.Printer -- the text of a tree

`Tree.layout` lays out a tree from the layouts of its parts: a node's kind says how its
parts are arranged (`arrange`), and an element is written as its tags around its
children.  The text depends on the tree alone.

Statements end their line, except a block, which ends at its brace; so what follows a
block at the top level stands on the same line.  Objects, arrays, classes and type
literals put each member on a line of its own; everything else stays on one line.
Literals read from text are copied, and markup text is copied as it was written.
-/

namespace LiveMarkup.Syntax

set_option autoImplicit false

/-- A laid-out part: its tree, its layout, and its own parts when it is a group. -/
inductive Piece where
  | mk (tree : Tree) (layout : Layout) (members : List Piece)

namespace Piece

instance : Inhabited Piece := ⟨.mk Tree.absent .empty []⟩

def tree : Piece → Tree
  | .mk t _ _ => t

def layout : Piece → Layout
  | .mk _ l _ => l

def members : Piece → List Piece
  | .mk _ _ ms => ms

/-- The layouts of the members of a group. -/
def layouts (p : Piece) : List Layout := p.members.map layout

def isPresent (p : Piece) : Bool := !p.tree.isAbsent

/-- The layout, when the part is there. -/
def layout? (p : Piece) : Option Layout := if p.isPresent then some p.layout else none

end Piece

namespace Layout

/-- A part in front of which something is written, when it is there. -/
def preceded (before : Layout) (p : Piece) : Layout := optional before p.layout?

def annotated (p : Piece) : Layout := preceded ": " p

def parenList (p : Piece) : Layout := "(" ++ commaList p.layouts ++ ")"

def word (condition : Bool) (w : String) : Layout := when condition (.text (w ++ " "))

end Layout

open Layout

/-- The words of a member's modifiers, in the order in which they are written. -/
def Modifiers.layout (m : Modifiers) : Layout :=
  word m.declared "declare" ++
  Layout.optional Layout.empty (m.accessibility.map fun a => .text (a ++ " ")) ++
  word m.isStatic "static" ++
  word m.isAbstract "abstract" ++
  word m.overriding "override" ++
  word m.isReadonly "readonly"

/-- The mark after a member's name. -/
def Modifiers.mark (m : Modifiers) : Layout :=
  when m.optional "?" ++ when m.definite "!"

def MethodKind.word : MethodKind → String
  | .method => ""
  | .getter => "get "
  | .setter => "set "

/-- The words before a function's key. -/
def functionWords : Tree → Layout
  | .node (.function async generator) _ => Layout.word async "async" ++ when generator "*"
  | _ => empty

/-- Parameters, result and body of a function node. -/
def signature (fn : Piece) (beforeParameters : Layout) (beforeBody : Layout) (noBody : Layout) :
    Layout :=
  let part (i : Nat) : Piece := fn.members.getD i default
  (part 3).layout ++ beforeParameters ++ parenList (part 0) ++ annotated (part 4) ++
    (match (part 2).layout? with
      | some body => beforeBody ++ body
      | none => noBody)

/-- `function`, with its words and name. -/
def functionHead (tree : Tree) (name : Option String) : Layout :=
  match tree with
  | .node (.function async generator) _ =>
      Layout.word async "async" ++ "function" ++ when generator "*" ++
        optional " " (name.map .text)
  | _ => empty

/-- The decorators of a class, each on a line. -/
def classDecorators (cls : Piece) : Layout :=
  concat ((cls.members.getD 0 default).layouts.map (· ++ newline))

/-- A class from its first word behind the decorators on. -/
def classRest (cls : Piece) (name : Option String) : Layout :=
  let part (i : Nat) : Piece := cls.members.getD i default
  let isAbstract := match cls.tree with
    | .node (.classBody a) _ => a
    | _ => false
  Layout.word isAbstract "abstract" ++ "class" ++ optional " " (name.map .text) ++
    (part 3).layout ++ preceded " extends " (part 2) ++ (part 4).layout ++
    when (!(part 5).members.isEmpty) (" implements " ++ commaList (part 5).layouts) ++
    " " ++ bracedLines (part 1).layouts

/-- A class expression. -/
def classLayout (cls : Piece) (name : Option String) : Layout :=
  classDecorators cls ++ classRest cls name

/-- A class declaration; the words before it stand behind its decorators. -/
def classDeclarationLayout (before : Layout) (cls : Piece) (name : String) (declared : Bool) : Layout :=
  classDecorators cls ++ before ++ Layout.word declared "declare" ++ classRest cls (some name)

/-- A whole number that is the object of a member access needs a second point. -/
def needsSecondPoint : Tree → Bool
  | .node (.number _ (some raw)) _ => raw.toList.all fun c => c.isDigit || c == '_'
  | .node (.number x none) _ => (numberLiteral x).toList.all Char.isDigit
  | _ => false

def memberPoint (object : Piece) (optional : Bool) : Layout :=
  if optional then "?." else if needsSecondPoint object.tree then ".." else "."

/-- An operator written as a word, or followed by an operand that starts with the same sign,
is separated from its operand. -/
def unarySpace (operator : String) (operand : Tree) : Bool :=
  if operator.toList.all Char.isAlpha then true
  else match operand with
    | .node (.unary op) _ => op == operator && (op == "+" || op == "-")
    | .node (.update op true) _ => op == operator ++ operator
    | _ => false

/-- The chunks of a template around its expressions. -/
def templateLayout : List String → List Layout → Layout
  | [], _ => empty
  | [chunk], _ => .text chunk
  | chunk :: chunks, e :: es => .text chunk ++ "$\x7b" ++ e ++ "\x7d" ++ templateLayout chunks es
  | chunk :: chunks, [] => .text chunk ++ templateLayout chunks []

def isBlock : Tree → Bool
  | .node .block _ => true
  | _ => false

def isImportNamed : Tree → Bool
  | .node (.importNamed _ _) _ => true
  | _ => false

def isExportNamespace : Tree → Bool
  | .node .exportNamespace _ => true
  | _ => false

def mappedMark : MappedModifier → String → Layout
  | .leave, _ => empty
  | .set, word => .text word
  | .plus, word => .text ("+" ++ word)
  | .minus, word => .text ("-" ++ word)

def bracketed (computed : Bool) (l : Layout) : Layout := if computed then "[" ++ l ++ "]" else l

/-- Lay out a node from its parts. -/
def arrange (kind : Kind) (pieces : List Piece) : Layout :=
  let piece (i : Nat) : Piece := pieces.getD i default
  let part (i : Nat) : Layout := (piece i).layout
  let all : List Layout := pieces.map Piece.layout
  match kind with
  | .absent => empty
  | .group => concat all
  -- names and literals
  | .identifier name => .text name
  | .privateName name => .text ("#" ++ name)
  | .this => "this"
  | .super => "super"
  | .null => "null"
  | .boolean b => if b then "true" else "false"
  | .number x raw => .text (raw.getD (numberLiteral x))
  | .bigint raw => .text raw
  | .string s raw => .text (raw.getD (stringLiteral s))
  | .regex raw => .text raw
  | .template chunks => "`" ++ templateLayout chunks all ++ "`"
  | .taggedTemplate => part 0 ++ part 1 ++ part 2
  -- expressions
  | .array =>
      if pieces.isEmpty then "[]"
      else
        let lastIsHole := match pieces.getLast? with
          | some p => !p.isPresent
          | none => false
        "[" ++ newline ++
          nest (join ("," ++ newline) all ++ when lastIsHole ", ") ++ newline ++ "]"
  | .object => listed "\x7b" "\x7d" all
  | .keyValue => part 0 ++ ": " ++ part 1
  | .shorthand name => .text name
  | .shorthandDefault name => .text name ++ preceded " = " (piece 0)
  | .objectMethod .method =>
      functionWords (piece 1).tree ++ part 0 ++ signature (piece 1) " " " " empty
  | .objectMethod .getter => "get " ++ part 0 ++ signature (piece 1) " " " " empty
  | .objectMethod .setter => "set " ++ part 0 ++ signature (piece 1) " " empty empty
  | .computedKey => "[" ++ part 0 ++ "]"
  | .spread => "..." ++ part 0
  | .function _ _ => empty
  | .functionExpression name =>
      functionHead (piece 0).tree name ++ signature (piece 0) empty " " ";"
  | .arrow async =>
      Layout.word async "async" ++ part 2 ++ parenList (piece 0) ++
        optional ": " ((piece 3).layout?.map (· ++ " ")) ++ "=>" ++
        (if isBlock (piece 1).tree then part 1 else nest (part 1))
  | .classBody _ => empty
  | .classExpression name => classLayout (piece 0) name
  | .unary op =>
      .text op ++ when (unarySpace op (piece 0).tree) " " ++ part 0
  | .update op before => if before then .text op ++ part 0 else part 0 ++ .text op
  | .binary op => part 0 ++ " " ++ .text op ++ " " ++ part 1
  | .assign op => part 0 ++ " " ++ .text op ++ " " ++ part 1
  | .conditional => part 0 ++ " ? " ++ part 1 ++ " : " ++ part 2
  | .sequence => commaList all
  | .paren => "(" ++ part 0 ++ ")"
  | .yield delegate => "yield" ++ when delegate "*" ++ preceded " " (piece 0)
  | .await => "await " ++ part 0
  | .member name opt => part 0 ++ memberPoint (piece 0) opt ++ .text name
  | .privateMember name opt => part 0 ++ memberPoint (piece 0) opt ++ "#" ++ .text name
  | .index opt => part 0 ++ when opt "?." ++ "[" ++ part 1 ++ "]"
  | .call opt => part 0 ++ when opt "?." ++ part 2 ++ parenList (piece 1)
  | .new =>
      "new " ++ part 0 ++ part 2 ++ when (piece 1).isPresent (parenList (piece 1))
  | .metaProperty words => .text words
  | .importCallee => "import"
  | .asType => part 0 ++ " as " ++ part 1
  | .satisfies => part 0 ++ " satisfies " ++ part 1
  | .asConst => part 0 ++ " as const"
  | .nonNull => part 0 ++ "!"
  | .assertion => "<" ++ part 1 ++ ">" ++ part 0
  | .instantiation => part 0 ++ part 1
  | .invalid => "<invalid>"
  -- markup
  | .fragment => "<>" ++ concat all ++ "</>"
  | .markupText _ raw => .text raw
  | .container => "\x7b" ++ part 0 ++ "\x7d"
  | .emptyContainer => "\x7b\x7d"
  | .spreadChild => "\x7b..." ++ part 0 ++ "\x7d"
  -- patterns
  | .bindingName name mark => .text name ++ .text mark ++ annotated (piece 0)
  | .arrayPattern opt =>
      "[" ++ commaList (piece 0).layouts ++ "]" ++ when opt "?" ++ annotated (piece 1)
  | .objectPattern opt =>
      (if (piece 0).members.isEmpty then Layout.text "\x7b\x7d"
        else "\x7b " ++ commaList (piece 0).layouts ++ " \x7d") ++
        when opt "?" ++ annotated (piece 1)
  | .restPattern => "..." ++ part 0 ++ annotated (piece 1)
  | .defaultPattern => part 0 ++ " = " ++ part 1
  | .parameter => lines (piece 0).layouts ++ part 1
  | .parameterProperty m => lines (piece 0).layouts ++ m.layout ++ part 1
  | .decorator => "@" ++ part 0
  -- statements
  | .block => Layout.block all
  | .emptyStatement => ";" ++ newline
  | .debugger => "debugger;" ++ newline
  | .withStatement => "with (" ++ part 0 ++ ")" ++ part 1 ++ newline
  | .returnStatement => "return" ++ preceded " " (piece 0) ++ ";" ++ newline
  | .labeled label => .text (label ++ ": ") ++ part 0 ++ newline
  | .breakStatement label => "break" ++ optional " " (label.map .text) ++ ";" ++ newline
  | .continueStatement label => "continue" ++ optional " " (label.map .text) ++ ";" ++ newline
  | .ifStatement =>
      "if (" ++ part 0 ++ ") " ++ part 1 ++
        (if (piece 2).isPresent then
          when (isBlock (piece 1).tree) " " ++ "else " ++ part 2
        else empty) ++ newline
  | .switchStatement => "switch(" ++ part 0 ++ ")\x7b" ++ newline ++
      nest (lines (piece 1).layouts) ++ newline ++ "\x7d" ++ newline
  | .switchCase =>
      (match (piece 0).layout? with
        | some test => "case " ++ test
        | none => "default") ++ ":" ++ newline ++ nest (lines (piece 1).layouts)
  | .throwStatement => "throw " ++ part 0 ++ ";" ++ newline
  | .tryStatement =>
      "try " ++ part 0 ++ preceded " " (piece 1) ++ preceded " finally" (piece 2) ++ newline
  | .catchClause =>
      "catch " ++ optional empty ((piece 0).layout?.map fun p => "(" ++ p ++ ")") ++ " " ++ part 1
  | .whileStatement => "while(" ++ part 0 ++ ")" ++ part 1 ++ newline
  | .doWhile => "do " ++ part 1 ++ "while (" ++ part 0 ++ ")" ++ newline
  | .forStatement =>
      "for(" ++ part 0 ++ ";" ++ preceded " " (piece 1) ++ ";" ++ preceded " " (piece 2) ++ ")" ++
        part 3 ++ newline
  | .forIn => "for(" ++ part 0 ++ " in " ++ part 1 ++ ")" ++ part 2 ++ newline
  | .forOf async =>
      "for " ++ Layout.word async "await" ++ "(" ++ part 0 ++ " of " ++ part 1 ++ ")" ++ part 2 ++
        newline
  | .variableDeclaration keyword declared =>
      Layout.word declared "declare" ++ .text (keyword ++ " ") ++ commaList all
  | .declarator => part 0 ++ preceded " = " (piece 1)
  | .variableStatement => part 0 ++ ";" ++ newline
  | .expressionStatement => part 0 ++ ";" ++ newline
  | .functionDeclaration name declared =>
      Layout.word declared "declare" ++ functionHead (piece 0).tree (some name) ++
        signature (piece 0) empty " " ";" ++ newline
  | .classDeclaration name declared =>
      classDeclarationLayout empty (piece 0) name declared ++ newline
  -- class members
  | .constructorMember m =>
      m.layout ++ "constructor" ++ parenList (piece 1) ++
        (match (piece 2).layout? with
          | some body => body
          | none => ";")
  | .methodMember kind m =>
      let decorators := (((piece 1).members).getD 1 default).layouts
      lines decorators ++ m.layout ++ .text kind.word ++ functionWords (piece 1).tree ++ part 0 ++
        m.mark ++ signature (piece 1) empty " " ";"
  | .propertyMember m =>
      lines (piece 3).layouts ++ m.layout ++ part 0 ++ m.mark ++ annotated (piece 2) ++
        preceded " = " (piece 1) ++ ";"
  | .accessorMember m =>
      lines (piece 3).layouts ++ m.layout ++ "accessor " ++ part 0 ++ m.mark ++
        annotated (piece 2) ++ preceded " = " (piece 1) ++ ";"
  | .staticBlock => "static" ++ part 0
  | .emptyMember => ";"
  -- modules
  | .importDeclaration typeOnly =>
      let specifiers := (piece 0).members
      let named := specifiers.filter fun p => isImportNamed p.tree
      let others := specifiers.filter fun p => !isImportNamed p.tree
      let clause : List Layout := others.map Piece.layout ++
        (if named.isEmpty then [] else ["\x7b " ++ commaList (named.map Piece.layout) ++ " \x7d"])
      "import " ++ Layout.word typeOnly "type" ++
        (if clause.isEmpty then empty else commaList clause ++ " from ") ++ part 1 ++
        preceded " with " (piece 2) ++ ";" ++ newline
  | .importDefault name => .text name
  | .importNamespace name => .text ("* as " ++ name)
  | .importNamed name typeOnly =>
      Layout.word typeOnly "type" ++ optional empty ((piece 0).layout?.map (· ++ " as ")) ++
        .text name
  | .exportDeclaration =>
      (match (piece 0).tree with
        | .node (.classDeclaration name declared) _ =>
            classDeclarationLayout "export " ((piece 0).members.getD 0 default) name declared
        | _ => "export " ++ part 0) ++ newline
  | .exportNamed typeOnly trailingComma =>
      let specifiers := (piece 0).members
      let named := specifiers.filter fun p => !isExportNamespace p.tree
      let spaces := specifiers.filter fun p => isExportNamespace p.tree
      let braces : Layout :=
        if named.isEmpty then "\x7b \x7d"
        else "\x7b " ++ commaList (named.map Piece.layout) ++ when trailingComma ", " ++ " \x7d"
      let clause : List Layout := spaces.map Piece.layout ++
        (if named.isEmpty && !spaces.isEmpty then [] else [braces])
      "export " ++ Layout.word typeOnly "type" ++ commaList clause ++
        preceded " from " (piece 1) ++ preceded " with " (piece 2) ++ ";" ++ newline
  | .exportNamespace => "* as " ++ part 0
  | .exportSpecifier typeOnly =>
      Layout.word typeOnly "type" ++ part 0 ++ preceded " as " (piece 1)
  | .exportDefaultDeclaration => "export default " ++ part 0 ++ newline
  | .exportDefaultExpression => "export default " ++ part 0 ++ ";" ++ newline
  | .exportAll typeOnly =>
      "export " ++ Layout.word typeOnly "type" ++ "* from " ++ part 0 ++
        preceded " with " (piece 1) ++ ";" ++ newline
  | .importEquals name exported typeOnly =>
      Layout.word exported "export" ++ "import " ++ Layout.word typeOnly "type" ++
        .text (name ++ " = ") ++ part 0 ++ ";" ++ newline
  | .externalModule => "require(" ++ part 0 ++ ")"
  | .exportAssignment => "export = " ++ part 0 ++ ";" ++ newline
  | .exportAsNamespace name => .text ("export as namespace " ++ name ++ ";") ++ newline
  -- declarations of types
  | .interface name declared =>
      Layout.word declared "declare" ++ .text ("interface " ++ name) ++ part 0 ++
        when (!(piece 1).members.isEmpty) (" extends " ++ commaList (piece 1).layouts) ++ " " ++
        bracedLines ((piece 2).layouts.map (· ++ ";")) ++ newline
  | .typeAlias name declared =>
      Layout.word declared "declare" ++ .text ("type " ++ name) ++ part 0 ++ " = " ++ part 1 ++
        ";" ++ newline
  | .enumeration name constant declared =>
      Layout.word declared "declare" ++ Layout.word constant "const" ++
        .text ("enum " ++ name ++ " \x7b") ++ newline ++ nest (join ("," ++ newline) all) ++
        newline ++ "\x7d" ++ newline
  | .enumMember => part 0 ++ preceded " = " (piece 1)
  | .moduleDeclaration keyword declared =>
      Layout.word declared "declare" ++ .text keyword ++ preceded " " (piece 0) ++
        (if (piece 1).isPresent then " " ++ bracedLines (piece 1).layouts else ";") ++ newline
  -- types
  | .keywordType word => .text word
  | .typeReference => part 0 ++ part 1
  | .qualifiedName name => part 0 ++ "." ++ .text name
  | .typeQuery => "typeof " ++ part 0 ++ part 1
  | .importType =>
      "import(" ++ part 0 ++ ")" ++ preceded "." (piece 1) ++ part 2
  | .arrayType => part 0 ++ "[]"
  | .tupleType => "[" ++ commaList all ++ "]"
  | .tupleElement label rest opt =>
      when rest "..." ++
        optional empty (label.map fun l => .text l ++ when opt "?" ++ ": ") ++ part 0
  | .optionalType => part 0 ++ "?"
  | .restType => "..." ++ part 0
  | .unionType => join " | " all
  | .intersectionType => join " & " all
  | .conditionalType =>
      part 0 ++ " extends " ++ part 1 ++ " ? " ++ part 2 ++ " : " ++ part 3
  | .inferType => "infer " ++ part 0
  | .parenType => "(" ++ part 0 ++ ")"
  | .typeOperator word => .text (word ++ " ") ++ part 0
  | .indexedAccess => part 0 ++ "[" ++ part 1 ++ "]"
  | .mappedType readonlyMark optionalMark =>
      "\x7b" ++ newline ++ nest (mappedMark readonlyMark "readonly " ++ "[" ++ part 0 ++
        preceded " as " (piece 1) ++ "]" ++ mappedMark optionalMark "?" ++ annotated (piece 2) ++
        ";") ++ newline ++ "\x7d"
  | .mappedParameter name => .text (name ++ " in ") ++ part 0
  | .literalType => part 0
  | .functionType => part 0 ++ parenList (piece 1) ++ " => " ++ part 2
  | .constructorType isAbstract =>
      Layout.word isAbstract "abstract" ++ "new" ++ part 0 ++ parenList (piece 1) ++ " => " ++ part 2
  | .typePredicate asserts =>
      Layout.word asserts "asserts" ++ part 0 ++ preceded " is " (piece 1)
  | .typeLiteral => bracedLines (all.map (· ++ ";"))
  | .propertySignature isReadonly opt computed =>
      Layout.word isReadonly "readonly" ++ bracketed computed (part 0) ++ when opt "?" ++
        annotated (piece 1)
  | .methodSignature opt computed =>
      bracketed computed (part 0) ++ when opt "?" ++ part 1 ++ parenList (piece 2) ++
        annotated (piece 3)
  | .getterSignature computed =>
      "get " ++ bracketed computed (part 0) ++ "()" ++ annotated (piece 1)
  | .setterSignature computed =>
      "set " ++ bracketed computed (part 0) ++ "(" ++ part 1 ++ ")"
  | .callSignature => part 0 ++ parenList (piece 1) ++ preceded " : " (piece 2)
  | .constructSignature => "new" ++ part 0 ++ parenList (piece 1) ++ annotated (piece 2)
  | .indexSignature isReadonly isStatic =>
      Layout.word isStatic "static" ++ Layout.word isReadonly "readonly" ++ "[" ++
        commaList (piece 0).layouts ++ "]" ++ annotated (piece 1)
  | .typeParameters => "<" ++ commaList all ++ ">"
  | .typeParameter name words =>
      concat (words.map fun w => .text (w ++ " ")) ++ .text name ++
        preceded " extends " (piece 0) ++ preceded " = " (piece 1)
  | .typeArguments => "<" ++ commaList all ++ ">"
  | .heritage => part 0 ++ part 1

/-- The text of an attribute around the layout of its value. -/
def attributeLayout : Attribute Layout → Layout
  | .named name none => .text name.text
  | .named name (some value) => .text name.text ++ "=" ++ value
  | .spread value => "\x7b..." ++ value ++ "\x7d"

/-- An opening tag, children and closing tag. -/
def elementLayout (name : TagName) (typeArguments : Layout) (attributes : List (Attribute Layout))
    (selfClosing : Bool) (children : List Layout) (closing : Option TagName) : Layout :=
  "<" ++ .text name.text ++ typeArguments ++
    concat (attributes.map fun a => " " ++ attributeLayout a) ++
    (if selfClosing then "/>" else ">") ++ concat children ++
    optional empty (closing.map fun c => .text ("</" ++ c.text ++ ">"))

mutual

/-- A tree with its layout. -/
def Tree.piece : Tree → Piece
  | .node kind parts =>
      let pieces := piecesOf parts
      match kind with
      | .group | .function _ _ | .classBody _ => .mk (.node kind parts) .empty pieces
      | .classDeclaration _ _ => .mk (.node kind parts) (arrange kind pieces) pieces
      | _ => .mk (.node kind parts) (arrange kind pieces) []
  | .element ⟨name, attributes, typeArguments, selfClosing, children, closing, lines⟩ =>
      .mk (.element ⟨name, attributes, typeArguments, selfClosing, children, closing, lines⟩)
        (elementLayout name (optionLayout typeArguments) (attributeLayouts attributes) selfClosing
          ((piecesOf children).map Piece.layout) closing) []
  termination_by structural t => t

def piecesOf : List Tree → List Piece
  | [] => []
  | t :: ts => t.piece :: piecesOf ts
  termination_by structural ts => ts

def attributeLayouts : List (Attribute Tree) → List (Attribute Layout)
  | [] => []
  | a :: as => attributeLayoutOf a :: attributeLayouts as
  termination_by structural as => as

def attributeLayoutOf : Attribute Tree → Attribute Layout
  | .named name value => .named name (optionPiece value)
  | .spread value => .spread value.piece.layout
  termination_by structural a => a

def optionPiece : Option Tree → Option Layout
  | none => none
  | some t => some t.piece.layout
  termination_by structural t => t

def optionLayout : Option Tree → Layout
  | none => empty
  | some t => t.piece.layout
  termination_by structural t => t

end

/-- How a tree is laid out. -/
def Tree.layout (t : Tree) : Layout := t.piece.layout

/-- The text of a tree. -/
def Tree.print (t : Tree) : String := t.layout.render

/-- The text of a module: its interpreter line, then its items. -/
def Module.print (m : Module) : String :=
  (optional empty (m.interpreter.map fun i => .text ("#!" ++ i) ++ newline) ++
    concat (m.items.map Tree.layout)).render

end LiveMarkup.Syntax
