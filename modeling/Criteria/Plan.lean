import Criteria.Event
import Criteria.FieldName
import Criteria.Path
import Criteria.Query
import Criteria.Subquery

/-!
# Plans

A plan holds, for each field of a query type in order, what is to be done with the field's
content.  It depends on the type and the naming alone.  A field that cannot be planned is skipped
and its fault reported.
-/

namespace Criteria

inductive Step where
  | skip
  | compare (column : String) (operator : Operator)
  | group (connective : Connective) (members : Members) (column : String) (operator : Operator)
  | condition (template : String)
  | subquery (column : String) (operator : Operator) (select table : String)
  | path (path : Path)
  | flatten
deriving DecidableEq

structure PlannedField where
  name : String
  step : Step
deriving DecidableEq

structure Plan where
  typeName : String
  fields : List PlannedField
deriving DecidableEq

def placeholders (template : String) : Nat :=
  template.toList.count '?'

namespace Step

/-!
# Planning a field
-/

/-- The column and the operator of a field read from a name, which may differ from its own. -/
def target (naming : Naming) (field : FieldType) (name : String) : String × Operator :=
  let reading := FieldName.read naming name
  (field.column.getD reading.column, reading.operator)

def ofSubquery (naming : Naming) (typeName : String) (field : FieldType) (raw : String) :
    Except Fault Step :=
  match Subquery.parse raw with
  | .error fault => .error fault
  | .ok spec =>
      let reading := FieldName.readQualified naming field.name
      if reading.operator = .null then
        .error (.unsupported typeName field.name .nullSubquery)
      else
        .ok (.subquery (field.column.getD reading.column) reading.operator spec.select
          (spec.table naming))

def ofField (naming : Naming) (typeName : String) (field : FieldType) : Except Fault Step :=
  match field.kind with
  | .page => .ok .skip
  | .unsupported reason => .error (.unsupported typeName field.name (.declared reason))
  | .flatten => .ok .flatten
  | .scalar =>
      let (column, operator) := target naming field field.name
      .ok (.compare column operator)
  | .group connective members =>
      let base := ((Connective.ofName? field.name).map Prod.snd).getD field.name
      let (column, operator) := target naming field base
      .ok (.group connective members column operator)
  | .condition template => .ok (.condition template)
  | .subquery raw => ofSubquery naming typeName field raw
  | .path raw => (Path.parse naming raw).map .path

def orSkip : Except Fault Step -> Step
  | .ok step => step
  | .error _ => .skip

end Step

namespace Plan

/-!
# Planning a type
-/

def build (naming : Naming) (type : QueryType) : Plan :=
  { typeName := type.name
    fields := type.fields.map fun field =>
      ⟨field.name, Step.orSkip (Step.ofField naming type.name field)⟩ }

def reports (naming : Naming) (type : QueryType) : List Event :=
  type.fields.filterMap fun field =>
    match Step.ofField naming type.name field with
    | .ok _ => none
    | .error fault => some (.fieldSkipped type.name field.name fault)

def active (plan : Plan) : Nat :=
  (plan.fields.filter fun field => field.step != .skip).length

end Plan
end Criteria
