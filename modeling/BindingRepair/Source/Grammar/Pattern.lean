import BindingRepair.Source.Grammar.Expression

namespace BindingRepair.Source

open Phrase

def propertyPattern : Phrase Symbol :=
  inBraces (items (rule .subpattern))

def positionalPattern : Phrase Symbol :=
  inParentheses (opt (list₂ (mark ",") (rule .subpattern)))

def relationalOperators : Phrase Symbol :=
  oneOf [marks ["<", "<="], terminal .greater, row [terminal .joinedGreater, mark "="]]

def patternProductions : List Production :=
  [⟨.pattern, rule .constantPattern⟩,
    ⟨.pattern, word "_"⟩,
    ⟨.pattern, rule .type⟩,
    ⟨.pattern, row [rule .type, rule .designation]⟩,
    ⟨.pattern, row [word "var", rule .designation]⟩,
    ⟨.pattern, row [word "not", rule .pattern]⟩,
    ⟨.pattern, row [rule .pattern, words ["and", "or"], rule .pattern]⟩,
    ⟨.pattern, inParentheses (rule .pattern)⟩,
    ⟨.pattern, row [relationalOperators, rule .constantPattern]⟩,
    ⟨.pattern, inBrackets (opt (row [commaList (oneOf [rule .pattern, mark ".."]),
      opt (mark ",")]))⟩,
    ⟨.pattern, row [opt (rule .type),
      oneOf [row [positionalPattern, opt propertyPattern], propertyPattern],
      opt (rule .designation)]⟩,
    ⟨.subpattern, row [opt (row [rule .expression, mark ":"]), rule .pattern]⟩,
    ⟨.designation, oneOf [word "_", rule .identifier,
      inParentheses (opt (commaList (rule .designation)))]⟩,
    ⟨.constantPattern, rule .constantOperand⟩,
    ⟨.constantPattern, row [rule .constantPattern, binaryOperators, rule .constantOperand]⟩,
    ⟨.constantOperand, rule .operand⟩,
    ⟨.constantOperand, row [unaryOperators, rule .constantOperand]⟩,
    ⟨.constantOperand, row [inParentheses (rule .type), rule .constantOperand]⟩]

end BindingRepair.Source
