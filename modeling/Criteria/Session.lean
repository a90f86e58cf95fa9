import Criteria.Entity.Layout
import Criteria.Path.Selection
import Criteria.Plan
import Criteria.RowOrder

/-!
# Sessions

A session keeps the plans of query types and the layouts of entities under their type names; what
is kept first stays.  Compiling a query looks up the plans of its own type and of the types of
the queries in it, in the order in which they are met, and logs what happens.

The content of a field makes a list of clauses according to the step that is planned for it; the
clauses of a query are those of its fields in order.
-/

namespace Criteria

structure Session where
  naming : Naming := {}
  plans : Catalog Plan := .empty
  layouts : Catalog Layout := .empty
  log : List Event := []
deriving DecidableEq

abbrev Run :=
  StateM Session

namespace Session

def report (events : List Event) : Run Unit :=
  modify fun session => { session with log := session.log ++ events }

/-!
# Plans and layouts
-/

def plan (type : QueryType) : Run Plan := do
  let session ← get
  match session.plans.find? type.name with
  | some plan => return plan
  | none =>
      let plan := Plan.build session.naming type
      let events :=
        Plan.reports session.naming type ++ [Event.planPrepared type.name plan.fields.length]
      set { session with
        plans := session.plans.install type.name plan
        log := session.log ++ events }
      return plan

def layout (entity : Entity) : Run Layout := do
  let session ← get
  match session.layouts.find? entity.typeName with
  | some layout => return layout
  | none =>
      let layout := Layout.build session.naming entity
      set { session with
        layouts := session.layouts.install entity.typeName layout
        log := session.log ++ [Event.layoutPrepared entity.typeName layout.table] }
      return layout

/-!
# Clauses of plain contents
-/

def misfit (typeName field : String) : Run Clauses := do
  report [.contentMisfit typeName field]
  return .empty

def clauseOrMisfit (typeName field : String) : Option Fragment -> Run Clauses
  | some fragment => return .single fragment
  | none => misfit typeName field

def valueClauses (typeName field column : String) (operator : Operator) :
    List Value -> Run Clauses
  | [] => return .empty
  | value :: values => do
      let here ← clauseOrMisfit typeName field (operator.condition? column value)
      let others ← valueClauses typeName field column operator values
      return here ++ others

def subqueryClause (column : String) (operator : Operator) (select table : String)
    (filter : Fragment) : Fragment :=
  .text (column ++ " " ++ operator.sign ++ " (SELECT " ++ select ++ " FROM " ++ table) ++
    filter.asWhere ++ .text ")"

def templateClause (template : String) (value : Value) : Fragment :=
  ⟨template, List.replicate (placeholders template) value⟩

def scalarClauses (typeName field : String) (step : Step) (value : Value) : Run Clauses :=
  match step with
  | .skip => return .empty
  | .compare column operator =>
      clauseOrMisfit typeName field (operator.condition? column value)
  | .condition template => return .single (templateClause template value)
  | .subquery column operator select table =>
      return .single (subqueryClause column operator select table .empty)
  | .path path => return .single (path.compile [])
  | _ => misfit typeName field

def listClauses (typeName field : String) (step : Step) (values : List Value) : Run Clauses :=
  match step with
  | .skip => return .empty
  | .compare column operator =>
      clauseOrMisfit typeName field (operator.listCondition? column values)
  | .group connective .values column operator => do
      let members ← valueClauses typeName field column operator values
      return .single (members.group connective.separator)
  | _ => misfit typeName field

/-!
# Clauses of queries
-/

def conjunction (clauses : Clauses) : Fragment :=
  clauses.join Connective.and.separator

mutual

def clauses : Query -> Run Clauses
  | .mk typeName fields _ => do
      let plan ← plan ⟨typeName, fields.map Field.type⟩
      fieldClauses plan.typeName plan.fields fields

/-- A field beyond the plan is not looked at, and beyond the fields nothing is present. -/
def fieldClauses (typeName : String) : List PlannedField -> List Field -> Run Clauses
  | planned :: plan, .mk _ content :: fields => do
      let here ← contentClauses typeName planned.name planned.step content
      let others ← fieldClauses typeName plan fields
      return here ++ others
  | _, _ => return .empty

def contentClauses (typeName field : String) (step : Step) : Content -> Run Clauses
  | .absent => return .empty
  | .scalar value => scalarClauses typeName field step value
  | .list values => listClauses typeName field step values
  | .query query =>
      match step with
      | .skip => return .empty
      | .flatten => clauses query
      | .group connective .ofQuery _ _ => do
          let members ← clauses query
          return .single (members.group connective.separator)
      | .subquery column operator select table => do
          let members ← clauses query
          return .single (subqueryClause column operator select table (conjunction members))
      | .path path => do
          let members ← clauses query
          return .single (path.compile [(path.length, conjunction members)])
      | _ => misfit typeName field
  | .queries queries =>
      match step with
      | .skip => return .empty
      | .group connective .queries _ _ => do
          let members ← queryClauses queries
          return .single (members.group connective.separator)
      | _ => misfit typeName field
  | .path hops =>
      match step with
      | .skip => return .empty
      | .path path => do
          let filters ← hopFilters typeName field path hops
          return .single (path.compile filters)
      | _ => misfit typeName field

def queryClauses : List Query -> Run Clauses
  | [] => return .empty
  | query :: queries => do
      let members ← clauses query
      let others ← queryClauses queries
      return .single (members.group Connective.and.separator) ++ others

/-- The filters of the stops after the root; others are reported and left out. -/
def hopFilters (typeName field : String) (path : Path) : List HopQuery -> Run Filters
  | [] => return []
  | .mk index query :: hops =>
      if index = 0 ∨ path.length < index then do
        report [.hopIgnored typeName field index path.raw]
        hopFilters typeName field path hops
      else do
        let members ← clauses query
        let others ← hopFilters typeName field path hops
        return (index, conjunction members) :: others

end

def condition (query : Query) : Run Fragment := do
  let clauses ← clauses query
  return conjunction clauses

/-!
# Order and window
-/

def orderBy (query : Query) : Run String := do
  match query.page.bind PageRequest.sort with
  | none => return ""
  | some sort =>
      let sifted := RowOrder.parseLenient sort
      report (sifted.2.map .sortKeyDropped)
      let session ← get
      return RowOrder.render sifted.1 session.naming

def window (query : Query) : String :=
  (query.page.map PageRequest.sql).getD ""

end Session
end Criteria
