import BindingRepair.Source.Grammar.Statement

namespace BindingRepair.Source

open Phrase

def modifiers : List String :=
  ["abstract", "async", "const", "extern", "file", "fixed", "internal", "new", "override", "partial",
    "private", "protected", "public", "readonly", "required", "sealed", "static", "unsafe",
    "virtual", "volatile"]

def parameterWords : Phrase Symbol :=
  words ["this", "scoped", "ref", "out", "in", "readonly"]

def declarationHead : Phrase Symbol :=
  row [many (rule .attributes), many (rule .modifier)]

def attributeTargets : Phrase Symbol :=
  words ["field", "event", "method", "param", "property", "return", "type"]

def attributeProductions : List Production :=
  [⟨.attributes, oneOf [rule .attributeList, rule .conditionalAttributes]⟩,
    ⟨.attributeList, inBrackets (row [opt (row [attributeTargets, mark ":"]),
      commaList (rule .attribute), opt (mark ",")])⟩,
    ⟨.conditionalAttributes,
      conditional .conditionalAttributesRest (rule .attributeList)⟩,
    ⟨.conditionalAttributesRest,
      conditionalRest .conditionalAttributesRest (opt (rule .attributeList))⟩,
    ⟨.attribute, row [rule .name, opt (inParentheses (opt (commaList (row [
      opt (row [rule .identifier, marks [":", "="]]), rule .expression]))))]⟩,
    ⟨.modifier, words modifiers⟩]

def parameterProductions : List Production :=
  [⟨.parameterList, inParentheses (opt (commaList (rule .parameter)))⟩,
    ⟨.parameter, row [many (rule .attributes), opt (row [many parameterWords, rule .type]),
      rule .identifier, opt (row [mark "=", rule .expression])]⟩,
    ⟨.parameter, row [many (rule .attributes), word "params",
      oneOf [rule .arrayType, rule .nullableType], rule .identifier]⟩,
    ⟨.typeParameters, between "<" ">" (commaList (row [many (rule .attributes),
      opt (words ["in", "out"]), rule .identifier]))⟩,
    ⟨.constraints, row [word "where", rule .identifier, mark ":",
      commaList (oneOf [row [word "class", opt (mark "?")], word "struct", word "notnull",
        word "unmanaged", row [word "new", mark "(", mark ")"], rule .type])]⟩,
    ⟨.baseList, row [mark ":", commaList (row [rule .type, opt (rule .argumentList)])]⟩]

/-- The end of a type's declaration: its body or a semicolon. A semicolon that follows at once
belongs to it. -/
def declarationEnd (body : Rule) : Phrase Symbol :=
  row [oneOf [field .body body, semicolon], opt (terminal .tightSemicolon)]

def typeHeader : Phrase Symbol :=
  row [many (oneOf [rule .typeParameters, rule .parameterList, rule .baseList]),
    many (rule .constraints)]

def typeDeclarationProductions : List Production :=
  [⟨.classDeclaration, row [declarationHead, word "class", field .name .identifier, typeHeader,
      declarationEnd .declarationList]⟩,
    ⟨.structDeclaration, row [many (rule .attributes), many (oneOf [rule .modifier, word "ref"]),
      word "struct", field .name .identifier, typeHeader, declarationEnd .declarationList]⟩,
    ⟨.recordDeclaration, row [declarationHead, word "record", opt (words ["class", "struct"]),
      rule .identifier, typeHeader, declarationEnd .declarationList]⟩,
    ⟨.interfaceDeclaration, row [declarationHead, word "interface", field .name .identifier,
      opt (rule .typeParameters), opt (rule .baseList), many (rule .constraints),
      declarationEnd .declarationList]⟩,
    ⟨.enumDeclaration, row [declarationHead, word "enum", field .name .identifier,
      opt (rule .baseList), declarationEnd .enumMemberList]⟩,
    ⟨.enumMemberList, inBraces (items (oneOf [rule .enumMember, rule .conditionalEnumMember]))⟩,
    ⟨.enumMember, row [many (rule .attributes), rule .identifier,
      opt (row [mark "=", rule .expression])]⟩,
    ⟨.conditionalEnumMember, conditional .conditionalEnumMemberRest (rule .enumMember)⟩,
    ⟨.conditionalEnumMemberRest,
      conditionalRest .conditionalEnumMemberRest (rule .enumMember)⟩,
    ⟨.delegateDeclaration, row [declarationHead, word "delegate", rule .type,
      field .name .identifier, opt (rule .typeParameters), rule .parameterList,
      many (rule .constraints), semicolon]⟩,
    ⟨.declarationList, inBraces (many (rule .declaration))⟩,
    ⟨.declaration, oneOf ([.classDeclaration, .structDeclaration, .enumDeclaration,
      .interfaceDeclaration, .recordDeclaration, .delegateDeclaration, .fieldDeclaration,
      .methodDeclaration, .constructorDeclaration, .destructorDeclaration, .eventFieldDeclaration,
      .eventDeclaration, .propertyDeclaration, .indexerDeclaration, .operatorDeclaration,
      .conversionDeclaration, .namespaceDeclaration, .usingDirective,
      .conditionalDeclarations].map rule)⟩,
    ⟨.conditionalDeclarations,
      conditional .conditionalDeclarationsRest (many (rule .declaration))⟩,
    ⟨.conditionalDeclarationsRest,
      conditionalRest .conditionalDeclarationsRest (many (rule .declaration))⟩]

def definableOperators : Phrase Symbol :=
  oneOf [marks ["!", "~", "++", "--", "+", "-", "*", "/", "%", "^", "|", "&", "<<", "==", "!=", "<",
      "<="],
    words ["true", "false"],
    terminal .greater,
    row [terminal .joinedGreater, mark "="],
    row [terminal .joinedGreater, terminal .greater],
    row [terminal .joinedGreater, terminal .joinedGreater, terminal .greater]]

/-- What stands in front of the name of a constructor. The word `file` would be its type. -/
def constructorHead : Phrase Symbol :=
  row [many (rule .attributes), opt (row [many (rule .modifier),
    words (modifiers.filter (· ≠ "file"))])]

def arrowBody : Phrase Symbol :=
  row [mark "=>", rule .expression, semicolon]

def memberProductions : List Production :=
  [⟨.fieldDeclaration, row [declarationHead, rule .variableDeclaration, semicolon]⟩,
    ⟨.variableDeclaration, row [rule .type, commaList (rule .variableDeclarator)]⟩,
    ⟨.variableDeclarator, row [oneOf [field .name .identifier, rule .tuplePattern],
      opt (rule .bracketedArguments), opt (row [mark "=", rule .expression])]⟩,
    ⟨.constructorDeclaration, row [constructorHead, field .name .identifier, rule .parameterList,
      opt (row [mark ":", words ["base", "this"], rule .argumentList]), rule .functionBody]⟩,
    ⟨.destructorDeclaration, row [many (rule .attributes), opt (word "extern"), mark "~",
      rule .identifier, rule .parameterList, rule .functionBody]⟩,
    ⟨.methodDeclaration, row [declarationHead, rule .type, opt (rule .explicitInterface),
      field .name .identifier, opt (rule .typeParameters), rule .parameterList,
      many (rule .constraints), rule .functionBody]⟩,
    ⟨.explicitInterface, row [rule .name, mark "."]⟩,
    ⟨.functionBody, oneOf [rule .block, arrowBody, semicolon]⟩,
    ⟨.eventFieldDeclaration, row [declarationHead, word "event", rule .variableDeclaration,
      semicolon]⟩,
    ⟨.eventDeclaration, row [declarationHead, word "event", rule .type,
      opt (rule .explicitInterface), rule .identifier, rule .accessorList]⟩,
    ⟨.eventDeclaration, row [declarationHead, word "event", rule .type,
      rule .explicitInterface, rule .identifier, semicolon]⟩,
    ⟨.propertyDeclaration, row [declarationHead, rule .type, opt (rule .explicitInterface),
      field .name .identifier,
      oneOf [row [rule .accessorList, opt (row [mark "=", rule .expression, semicolon])],
        arrowBody]]⟩,
    ⟨.indexerDeclaration, row [declarationHead, rule .type, opt (rule .explicitInterface),
      word "this", inBrackets (opt (commaList (rule .parameter))),
      oneOf [rule .accessorList, arrowBody]]⟩,
    ⟨.accessorList, inBraces (many (row [declarationHead,
      oneOf [words ["get", "set", "add", "remove", "init"], rule .identifier],
      rule .functionBody]))⟩,
    ⟨.operatorDeclaration, row [declarationHead, rule .type, opt (rule .explicitInterface),
      word "operator", opt (word "checked"), definableOperators, rule .parameterList,
      rule .functionBody]⟩,
    ⟨.conversionDeclaration, row [declarationHead, words ["implicit", "explicit"],
      opt (rule .explicitInterface), word "operator", opt (word "checked"), rule .type,
      rule .parameterList, rule .functionBody]⟩]

def unitParts : List (Phrase Symbol) :=
  [.aliasDirective, .usingDirective, .globalAttribute, .classDeclaration, .structDeclaration,
    .enumDeclaration, .interfaceDeclaration, .recordDeclaration, .delegateDeclaration,
    .namespaceDeclaration, .fileNamespace].map rule

def conditionalUnitContent : Phrase Symbol :=
  many (oneOf (unitParts ++ [rule .statement]))

def unitProductions : List Production :=
  [⟨.unit, .plus (rule .unitItem)⟩,
    ⟨.unitItem, oneOf (unitParts ++ [rule .statement])⟩,
    ⟨.conditionalUnit, conditional .conditionalUnitRest conditionalUnitContent⟩,
    ⟨.conditionalUnitRest, conditionalRest .conditionalUnitRest conditionalUnitContent⟩,
    ⟨.aliasDirective, row [word "extern", word "alias", rule .identifier, semicolon]⟩,
    ⟨.usingDirective, row [opt (word "global"), word "using",
      oneOf [row [opt (word "unsafe"), rule .identifier, mark "=", rule .type],
        row [opt (word "static"), opt (word "unsafe"), rule .name]], semicolon]⟩,
    ⟨.globalAttribute, inBrackets (row [words ["assembly", "module"], mark ":",
      commaList (rule .attribute), opt (mark ",")])⟩,
    ⟨.namespaceDeclaration, row [word "namespace", field .name .namespaceName,
      field .body .declarationList, opt (terminal .tightSemicolon)]⟩,
    ⟨.fileNamespace, row [word "namespace", field .name .namespaceName, semicolon]⟩,
    ⟨.lineCondition, oneOf [rule .identifier, word "true", word "false", kind .integer,
      kind .character, inParentheses (rule .lineCondition)]⟩,
    ⟨.lineCondition, row [mark "!", rule .lineCondition]⟩,
    ⟨.lineCondition, row [rule .lineCondition, marks ["&&", "||", "==", "!="],
      rule .lineCondition]⟩]

def grammar : List Production :=
  unitProductions ++ typeDeclarationProductions ++ memberProductions ++ attributeProductions ++
    parameterProductions ++ statementProductions ++ statementExpressionProductions ++
    patternProductions ++ queryProductions ++ expressionProductions ++ unaryProductions ++
    operandProductions ++ lvalueProductions ++ literalProductions ++ typeProductions ++
    nameProductions

end BindingRepair.Source
