import Criteria.Naming
import Criteria.Value

/-!
# Entities

The description of a type whose elements are the rows of a table: its fields, which of them
identifies a row, and which hold the fields of another type in place.
-/

namespace Criteria

mutual

/-- `typeName` is the full name of the type, `name` its bare name; `table` overrides the table
that the bare name gives. -/
inductive Entity where
  | mk (typeName name : String) (table : Option String) (fields : List EntityField)

inductive EntityField where
  | mk (name : String) (column : Option String) (role : Role)

inductive Role where
  | column
  | identity
  | embedded (entity : Entity)

end

structure Row where
  values : List Value
  id : Value := .null
deriving DecidableEq

structure Leaf where
  column : String
  isIdentity : Bool
deriving DecidableEq, Repr

namespace Entity

def typeName : Entity -> String
  | .mk typeName _ _ _ => typeName

def name : Entity -> String
  | .mk _ name _ _ => name

def fields : Entity -> List EntityField
  | .mk _ _ _ fields => fields

def table (naming : Naming) : Entity -> String
  | .mk _ name table _ => table.getD (naming.entityTable name)

mutual

def leaves (naming : Naming) : Entity -> List Leaf
  | .mk _ _ _ fields => fieldLeaves naming fields

def fieldLeaves (naming : Naming) : List EntityField -> List Leaf
  | [] => []
  | .mk name column role :: fields =>
      roleLeaves naming (column.getD (naming.column name)) role ++ fieldLeaves naming fields

def roleLeaves (naming : Naming) (column : String) : Role -> List Leaf
  | .column => [⟨column, false⟩]
  | .identity => [⟨column, true⟩]
  | .embedded entity => leaves naming entity

end

end Entity
end Criteria
