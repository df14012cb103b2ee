import BindingRepair.Source.Grammar.Symbol

namespace BindingRepair.Source

open Phrase

def predefinedTypes : List String :=
  ["bool", "byte", "char", "decimal", "double", "float", "int", "long", "object", "sbyte", "short",
    "string", "uint", "ulong", "ushort", "nint", "nuint", "void"]

def nameProductions : List Production :=
  [⟨.identifier, terminal .name⟩,
    ⟨.simpleName, rule .identifier⟩,
    ⟨.simpleName, row [rule .identifier, rule .typeArguments]⟩,
    ⟨.typeArguments,
      between "<" ">" (oneOf [commaList (rule .type), many (mark ",")])⟩,
    ⟨.name, rule .simpleName⟩,
    ⟨.name, row [rule .identifier, mark "::", rule .simpleName]⟩,
    ⟨.name, row [rule .name, mark ".", rule .simpleName]⟩,
    ⟨.namespaceName, rule .name⟩]

def referenceWords : Phrase Symbol :=
  words ["ref", "out", "in"]

def callingConvention : Phrase Symbol :=
  oneOf [word "managed", row [word "unmanaged", opt (inBrackets (commaList (rule .identifier)))]]

def typeProductions : List Production :=
  [⟨.type, oneOf [rule .name, rule .arrayType, rule .nullableType, rule .pointerType,
      rule .functionPointerType, rule .predefinedType, rule .tupleType]⟩,
    ⟨.type, row [word "ref", opt (word "readonly"), rule .type]⟩,
    ⟨.type, row [word "scoped", rule .type]⟩,
    ⟨.predefinedType, words predefinedTypes⟩,
    ⟨.arrayType, row [oneOf [rule .arrayType, rule .name, rule .nullableType, rule .pointerType,
      rule .functionPointerType, rule .predefinedType, rule .tupleType], rule .arrayRank]⟩,
    ⟨.arrayRank, inBrackets (row [opt (rule .expression),
      many (row [mark ",", opt (rule .expression)])])⟩,
    ⟨.nullableType, row [oneOf [rule .arrayType, rule .name, rule .predefinedType,
      rule .tupleType], mark "?"]⟩,
    ⟨.pointerType, row [oneOf [rule .name, rule .nullableType, rule .pointerType,
      rule .functionPointerType, rule .predefinedType, rule .tupleType], mark "*"]⟩,
    ⟨.functionPointerType, row [word "delegate", mark "*", opt callingConvention,
      between "<" ">" (commaList (row [opt referenceWords, opt (word "readonly"), rule .type]))]⟩,
    ⟨.tupleType, inParentheses (list₂ (mark ",") (row [rule .type, opt (rule .identifier)]))⟩]

end BindingRepair.Source
