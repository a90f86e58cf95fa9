import Criteria.Source.Rules.Item
import Criteria.Source.Token.Reader

/-!
# The grammar

The rules tied together: each of them is used by the others at a depth less by one.  What is read
lies no deeper than there are tokens, so that the depth never runs out.
-/

namespace Criteria
namespace Source

namespace Rules

def upTo : Nat -> Rules
  | 0 => .empty
  | depth + 1 =>
      let inner := upTo depth
      { type := inner.typeForm
        bound := inner.boundForm
        parameter := inner.parameterForm false
        expression := inner.expressionForm
        operand := inner.operandForm
        operators := inner.operatorsForm
        leading := inner.leadingForm
        pattern := inner.patternForm
        statements := inner.statementsForm
        fields := inner.fieldsForm
        item := inner.itemForm
        imported := inner.importedForm }

/-- The rules for all that some tokens can be.  Between two tokens at most four rules are used. -/
def within (tokens : List Token) : Rules :=
  upTo (4 * (Token.listCount tokens + 1))

end Rules

def TypeExpr.read? (text : String) : Option TypeExpr := do
  let tokens ← Token.read? text
  Scan.whole? ((Rules.within tokens).type true) tokens

def Declaration.read? (text : String) : Option Declaration := do
  let tokens ← Token.read? text
  Scan.whole? (Rules.within tokens).declaration tokens

end Source
end Criteria
