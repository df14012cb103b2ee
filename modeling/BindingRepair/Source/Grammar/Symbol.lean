import BindingRepair.Source.Phrase
import BindingRepair.Source.Token

namespace BindingRepair.Source

inductive Terminal
  | word (text : String)
  | name
  | mark (text : String)
  | greater
  | joinedGreater
  | tightSemicolon
  | condition (word : String)
  | kind (k : LexemeKind)
  deriving DecidableEq, Repr

namespace Terminal

def admits : Terminal → Token → Bool
  | .word text, t => t.kind = .word && t.is text
  | .name, t => t.kind = .word
  | .mark text, t => t.kind = .symbol && t.is text
  | .greater, t => t.kind = .symbol && t.is ">" && !t.isJoined
  | .joinedGreater, t => t.kind = .symbol && t.is ">" && t.isJoined
  | .tightSemicolon, t => t.kind = .symbol && t.is ";" && t.lead.isEmpty
  | .condition text, t => t.isCondition text
  | .kind k, t => t.kind = k

end Terminal

inductive Rule
  | unit
  | unitItem
  | conditionalUnit
  | conditionalUnitRest
  | aliasDirective
  | usingDirective
  | globalAttribute
  | namespaceDeclaration
  | fileNamespace
  | namespaceName
  | declaration
  | conditionalDeclarations
  | conditionalDeclarationsRest
  | classDeclaration
  | structDeclaration
  | enumDeclaration
  | interfaceDeclaration
  | recordDeclaration
  | delegateDeclaration
  | declarationList
  | enumMemberList
  | enumMember
  | conditionalEnumMember
  | conditionalEnumMemberRest
  | baseList
  | typeParameters
  | constraints
  | fieldDeclaration
  | constructorDeclaration
  | destructorDeclaration
  | methodDeclaration
  | eventFieldDeclaration
  | eventDeclaration
  | propertyDeclaration
  | indexerDeclaration
  | operatorDeclaration
  | conversionDeclaration
  | variableDeclaration
  | variableDeclarator
  | accessorList
  | functionBody
  | parameterList
  | parameter
  | explicitInterface
  | attributeList
  | conditionalAttributes
  | conditionalAttributesRest
  | attributes
  | attribute
  | modifier
  | identifier
  | simpleName
  | name
  | typeArguments
  | type
  | arrayType
  | nullableType
  | pointerType
  | functionPointerType
  | tupleType
  | predefinedType
  | arrayRank
  | expression
  | unary
  | operand
  | lvalue
  | literal
  | interpolatedText
  | argumentList
  | argument
  | bracketedArguments
  | initializer
  | lambda
  | query
  | queryBody
  | conditionalExpression
  | conditionalExpressionRest
  | pattern
  | constantPattern
  | constantOperand
  | subpattern
  | designation
  | statement
  | block
  | statementExpression
  | localDeclaration
  | tuplePattern
  | lineCondition
  deriving DecidableEq, Repr, Hashable

inductive Field
  | name
  | body
  deriving DecidableEq, Repr

inductive Symbol
  | terminal (t : Terminal)
  | rule (r : Rule) (field : Option Field)
  deriving DecidableEq, Repr

/-- What may stand for a rule. Of a rule that has several productions each counts. -/
structure Production where
  rule : Rule
  phrase : Phrase Symbol

namespace Phrase

def terminal (t : Terminal) : Phrase Symbol :=
  .symbol (.terminal t)

def word (text : String) : Phrase Symbol :=
  terminal (.word text)

def words (texts : List String) : Phrase Symbol :=
  oneOf (texts.map word)

def mark (text : String) : Phrase Symbol :=
  terminal (.mark text)

def marks (texts : List String) : Phrase Symbol :=
  oneOf (texts.map mark)

def kind (k : LexemeKind) : Phrase Symbol :=
  terminal (.kind k)

def rule (r : Rule) : Phrase Symbol :=
  .symbol (.rule r none)

def field (f : Field) (r : Rule) : Phrase Symbol :=
  .symbol (.rule r (some f))

def commaList (p : Phrase Symbol) : Phrase Symbol :=
  list (mark ",") p

def between (opening closing : String) (p : Phrase Symbol) : Phrase Symbol :=
  row [mark opening, p, mark closing]

def inParentheses (p : Phrase Symbol) : Phrase Symbol :=
  between "(" ")" p

def inBraces (p : Phrase Symbol) : Phrase Symbol :=
  between "\x7b" "\x7d" p

def inBrackets (p : Phrase Symbol) : Phrase Symbol :=
  between "[" "]" p

def items (p : Phrase Symbol) : Phrase Symbol :=
  row [opt (commaList p), opt (mark ",")]

def conditional (rest : Rule) (content : Phrase Symbol) : Phrase Symbol :=
  row [terminal (.condition "if"), rule .lineCondition, kind .lineEnd, content, opt (rule rest),
    terminal (.condition "endif")]

def conditionalRest (rest : Rule) (content : Phrase Symbol) : Phrase Symbol :=
  oneOf [row [terminal (.condition "else"), content],
    row [terminal (.condition "elif"), rule .lineCondition, kind .lineEnd, content,
      opt (rule rest)]]

end Phrase

end BindingRepair.Source
