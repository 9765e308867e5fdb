/-
# Declaration.Grammar.Level -- the levels of the grammar on top of each other
-/
import Cqrs.Declaration.Grammar.Item

namespace Cqrs.Declaration

set_option autoImplicit false

namespace Grammar

/-- The grammar of so many levels. -/
def ofDepth : Nat → Grammar
  | 0 => empty
  | depth + 1 =>
      let g := ofDepth depth
      { type := g.readType
        bound := g.readBound
        expression := g.readExpression
        earlyExpression := g.readEarlyExpression
        pattern := g.readPattern
        item := return (← g.itemOrKept).2
        fields := discard g.namedFields
        statements := g.readStatements
        attributes := discard g.readAttributes
        attributeContent := discard g.readAttributeContent }

end Grammar

end Cqrs.Declaration
