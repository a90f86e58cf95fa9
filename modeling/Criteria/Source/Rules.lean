import Criteria.Source.Declaration
import Criteria.Source.Expression
import Criteria.Source.Scan

/-!
# Rules

The rules by which types, expressions, patterns and statements are read call each other.  Here
they are taken together, so that each of them can be written down over the others.
-/

namespace Criteria
namespace Source

structure Rules where
  type : Bool -> Scan TypeExpr
  /-- A bound; the flags tell whether captures and constant traits may stand there. -/
  bound : Bool -> Bool -> Scan Bound
  parameter : Scan Parameter
  /-- An expression; the flag tells whether a record may begin without brackets around it. -/
  expression : Bool -> Scan Expression
  operand : Bool -> Scan Expression
  operators : Bool -> Precedence -> Expression -> Scan Expression
  /-- An expression where a statement may begin; one that ends itself is not continued. -/
  leading : Scan Expression
  pattern : Scan Pattern
  statements : Scan (List Token)
  fields : Scan (Listed FieldDeclaration)
  item : Scan (List Token)
  /-- What an import names, unless it is written in a way that is kept as it is; the flag tells
  whether it may begin at the root. -/
  imported : Bool -> Scan (Option (List Token))

namespace Rules

def empty : Rules :=
  { type := fun _ => Scan.want []
    bound := fun _ _ => Scan.want []
    parameter := Scan.want []
    expression := fun _ => Scan.want []
    operand := fun _ => Scan.want []
    operators := fun _ _ _ => Scan.want []
    leading := Scan.want []
    pattern := Scan.want []
    statements := Scan.want []
    fields := Scan.want []
    item := Scan.want []
    imported := fun _ => Scan.want [] }

end Rules
end Source
end Criteria
