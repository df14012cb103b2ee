import BindingRepair.Source.Grammar.Pattern

namespace BindingRepair.Source

open Phrase

def semicolon : Phrase Symbol :=
  mark ";"

def statementExpressionProductions : List Production :=
  [⟨.statementExpression, row [rule .lvalue, assignmentOperators, rule .expression]⟩,
    ⟨.statementExpression, row [rule .operand, rule .argumentList]⟩,
    ⟨.statementExpression, row [rule .operand, postfixOperators]⟩,
    ⟨.statementExpression, row [unaryOperators, rule .unary]⟩,
    ⟨.statementExpression, row [word "await", rule .unary]⟩,
    ⟨.statementExpression, row [word "new", rule .type, opt (rule .argumentList),
      opt (rule .initializer)]⟩,
    ⟨.statementExpression, inParentheses (rule .expression)⟩]

def switchLabel : Phrase Symbol :=
  oneOf [word "default",
    row [word "case", oneOf [rule .expression,
      row [rule .pattern, opt (row [word "when", rule .expression])]]]]

def catchClause : Phrase Symbol :=
  row [word "catch", many (oneOf [inParentheses (row [rule .type, opt (rule .identifier)]),
    row [word "when", inParentheses (rule .expression)]]), rule .block]

def forHead : Phrase Symbol :=
  inParentheses (row [opt (oneOf [rule .variableDeclaration, commaList (rule .expression)]),
    semicolon, opt (rule .expression), semicolon, opt (commaList (rule .expression))])

def foreachHead : Phrase Symbol :=
  inParentheses (row [oneOf [row [rule .type, oneOf [rule .identifier, rule .tuplePattern]],
    rule .expression], word "in", rule .expression])

def nestingStatements : List (Phrase Symbol) :=
  [rule .block,
    row [words ["checked", "unchecked", "unsafe"], rule .block],
    row [word "do", rule .statement, word "while", inParentheses (rule .expression), semicolon],
    row [word "fixed", inParentheses (rule .variableDeclaration), rule .statement],
    row [word "for", forHead, rule .statement],
    row [opt (word "await"), word "foreach", foreachHead, rule .statement],
    row [words ["lock", "while"], inParentheses (rule .expression), rule .statement],
    row [word "if", inParentheses (rule .expression), rule .statement,
      opt (row [word "else", rule .statement])],
    row [opt (word "await"), word "using",
      inParentheses (oneOf [rule .variableDeclaration, rule .expression]), rule .statement],
    row [word "switch",
      inParentheses (row [rule .argument, many (row [mark ",", rule .argument])]),
      inBraces (many (row [switchLabel, mark ":", many (rule .statement)]))],
    row [word "try", rule .block, many catchClause, opt (row [word "finally", rule .block])],
    row [rule .identifier, mark ":", rule .statement]]

def plainStatements : List (Phrase Symbol) :=
  [semicolon,
    row [words ["break", "continue"], semicolon],
    row [rule .statementExpression, semicolon],
    row [words ["return", "throw"], opt (rule .expression), semicolon],
    row [word "yield", oneOf [row [word "return", rule .expression], word "break"], semicolon],
    row [word "goto", oneOf [rule .identifier, row [word "case", rule .expression],
      word "default"], semicolon],
    rule .localDeclaration,
    row [many (rule .attributes), many (rule .modifier), rule .type, rule .identifier,
      opt (rule .typeParameters), rule .parameterList, many (rule .constraints),
      rule .functionBody],
    rule .conditionalUnit]

def statementProductions : List Production :=
  nestingStatements.map (⟨.statement, ·⟩) ++ plainStatements.map (⟨.statement, ·⟩) ++
  [⟨.block, inBraces (many (rule .statement))⟩,
    ⟨.localDeclaration, row [opt (word "await"), opt (word "using"), many (rule .modifier),
      rule .variableDeclaration, semicolon]⟩,
    ⟨.tuplePattern, inParentheses (commaList (oneOf [rule .identifier, word "_",
      rule .tuplePattern]))⟩]

end BindingRepair.Source
