import BindingRepair.Source.Grammar.Type

namespace BindingRepair.Source

open Phrase

def binaryOperators : Phrase Symbol :=
  oneOf [marks ["&&", "||", "<<", "&", "^", "|", "+", "-", "*", "/", "%", "<", "<=", "==", "!=",
      "??", ".."],
    terminal .greater,
    row [terminal .joinedGreater, mark "="],
    row [terminal .joinedGreater, terminal .greater],
    row [terminal .joinedGreater, terminal .joinedGreater, terminal .greater]]

def assignmentOperators : Phrase Symbol :=
  oneOf [marks ["=", "+=", "-=", "*=", "/=", "%=", "&=", "^=", "|=", "<<=", "??="],
    row [terminal .joinedGreater, terminal .joinedGreater, mark "="],
    row [terminal .joinedGreater, terminal .joinedGreater, terminal .joinedGreater, mark "="]]

def unaryOperators : Phrase Symbol :=
  marks ["++", "--", "+", "-", "!", "~", "&", "&&", "^"]

def postfixOperators : Phrase Symbol :=
  marks ["++", "--", "!"]

def nameOwner : Phrase Symbol :=
  oneOf [rule .operand, rule .predefinedType, rule .name]

def lvalueProductions : List Production :=
  [⟨.lvalue, word "this"⟩,
    ⟨.lvalue, rule .simpleName⟩,
    ⟨.lvalue, inParentheses (list₂ (mark ",") (rule .argument))⟩,
    ⟨.lvalue, inParentheses (rule .lvalue)⟩,
    ⟨.lvalue, row [nameOwner, marks [".", "->"], rule .simpleName]⟩,
    ⟨.lvalue, row [rule .operand, rule .bracketedArguments]⟩,
    ⟨.lvalue, rule .bracketedArguments⟩,
    ⟨.lvalue, row [mark "*", rule .unary]⟩]

def switchArm : Phrase Symbol :=
  row [rule .pattern, opt (row [word "when", rule .expression]), mark "=>", rule .expression]

def operandProductions : List Production :=
  [⟨.operand, rule .lvalue⟩,
    ⟨.operand, word "base"⟩,
    ⟨.operand, rule .literal⟩,
    ⟨.operand, rule .interpolatedText⟩,
    ⟨.operand, inParentheses (rule .expression)⟩,
    ⟨.operand, row [rule .operand, rule .argumentList]⟩,
    ⟨.operand, row [rule .operand, postfixOperators]⟩,
    ⟨.operand, row [rule .operand, mark "?",
      oneOf [row [mark ".", rule .simpleName], rule .bracketedArguments]]⟩,
    ⟨.operand, row [rule .operand, word "switch", inBraces (items switchArm)]⟩,
    ⟨.operand, row [rule .operand, word "with",
      inBraces (items (row [rule .identifier, mark "=", rule .expression]))]⟩,
    ⟨.operand, row [words ["checked", "unchecked"], inParentheses (rule .expression)]⟩,
    ⟨.operand, row [word "default", opt (inParentheses (rule .type))]⟩,
    ⟨.operand, row [words ["sizeof", "typeof"], inParentheses (rule .type)]⟩,
    ⟨.operand, row [words ["__makeref", "__reftype"], inParentheses (rule .expression)]⟩,
    ⟨.operand, row [word "__refvalue",
      inParentheses (row [rule .expression, mark ",", rule .type])]⟩,
    ⟨.operand, row [word "stackalloc", rule .arrayType, opt (rule .initializer)]⟩,
    ⟨.operand, row [word "stackalloc", mark "[", mark "]", rule .initializer]⟩,
    ⟨.operand, row [word "new", rule .type, opt (rule .argumentList), opt (rule .initializer)]⟩,
    ⟨.operand, row [word "new", rule .argumentList, opt (rule .initializer)]⟩,
    ⟨.operand, row [word "new", inBrackets (many (mark ",")), rule .initializer]⟩,
    ⟨.operand, row [word "new",
      inBraces (items (row [opt (row [rule .identifier, mark "="]), rule .expression]))]⟩,
    ⟨.operand, row [many (words ["static", "async"]), word "delegate", opt (rule .parameterList),
      rule .block]⟩,
    ⟨.operand, rule .initializer⟩,
    ⟨.operand, rule .conditionalExpression⟩]

def unaryProductions : List Production :=
  [⟨.unary, rule .operand⟩,
    ⟨.unary, row [unaryOperators, rule .unary]⟩,
    ⟨.unary, row [inParentheses (rule .type), rule .unary]⟩,
    ⟨.unary, row [words ["await", "ref", "throw"], rule .unary]⟩,
    ⟨.unary, row [mark "..", opt (rule .unary)]⟩,
    ⟨.unary, row [rule .lvalue, assignmentOperators, rule .unary]⟩,
    ⟨.unary, rule .lambda⟩,
    ⟨.unary, rule .query⟩,
    ⟨.lambda, row [many (rule .attributeList), many (words ["static", "async"]), opt (rule .type),
      oneOf [rule .parameterList, rule .identifier], mark "=>",
      oneOf [rule .block, rule .unary]]⟩]

def expressionProductions : List Production :=
  [⟨.expression, rule .unary⟩,
    ⟨.expression, row [rule .expression, binaryOperators, rule .unary]⟩,
    ⟨.expression, row [rule .expression, mark ".."]⟩,
    ⟨.expression, row [rule .expression, mark "?", rule .expression, mark ":", rule .unary]⟩,
    ⟨.expression, row [rule .expression, word "is", oneOf [rule .type, rule .pattern]]⟩,
    ⟨.expression, row [rule .expression, word "as", rule .type]⟩,
    ⟨.conditionalExpression, conditional .conditionalExpressionRest (rule .expression)⟩,
    ⟨.conditionalExpressionRest, conditionalRest .conditionalExpressionRest (rule .expression)⟩]

def literalProductions : List Production :=
  [⟨.literal, oneOf [word "null", word "true", word "false", kind .character, kind .integer,
      kind .real, kind .string]⟩,
    ⟨.interpolatedText, row [kind .textStart, many (oneOf [kind .textPart,
      row [kind .holeStart, rule .expression, opt (row [mark ",", rule .expression]),
        opt (row [mark ":", kind .format]), kind .holeEnd]]), kind .textEnd]⟩,
    ⟨.argumentList, inParentheses (opt (commaList (rule .argument)))⟩,
    ⟨.argument, row [opt (row [rule .identifier, mark ":"]), opt referenceWords,
      oneOf [rule .expression, row [rule .type, rule .identifier]]]⟩,
    ⟨.bracketedArguments, inBrackets (items (rule .argument))⟩,
    ⟨.initializer, inBraces (items (rule .expression))⟩]

def queryRange : Phrase Symbol :=
  row [opt (rule .type), rule .identifier, word "in", rule .expression]

def queryClause : Phrase Symbol :=
  oneOf [row [word "from", queryRange],
    row [word "let", rule .identifier, mark "=", rule .expression],
    row [word "where", rule .expression],
    row [word "join", queryRange, word "on", rule .expression, word "equals", rule .expression,
      opt (row [word "into", rule .identifier])],
    row [word "orderby", commaList (row [rule .expression,
      opt (words ["ascending", "descending"])])]]

def queryProductions : List Production :=
  [⟨.query, row [word "from", queryRange, rule .queryBody]⟩,
    ⟨.queryBody, row [many queryClause,
      oneOf [row [word "select", rule .expression],
        row [word "group", rule .expression, word "by", rule .expression]],
      opt (row [word "into", rule .identifier, rule .queryBody])]⟩]

end BindingRepair.Source
