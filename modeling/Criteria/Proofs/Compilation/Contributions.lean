import Criteria.Session

/-!
# Contributions of fields

Under a fixed plan for every query type, what a field adds to the clauses of its query is a function
of the field's planned step and its content alone.  This module states that function.  The runs of
a session are compared with it in `Criteria.Proofs.Compilation.Runs`.
-/

namespace Criteria

abbrev Planning :=
  QueryType -> Plan

/-!
# The queries of a tree
-/

mutual

def Query.tree : Query -> List Query
  | .mk typeName fields page => .mk typeName fields page :: Field.trees fields

def Field.trees : List Field -> List Query
  | [] => []
  | .mk _ content :: fields => content.trees ++ Field.trees fields

def Content.trees : Content -> List Query
  | .query query => query.tree
  | .queries queries => Query.trees queries
  | .path hops => HopQuery.trees hops
  | _ => []

def Query.trees : List Query -> List Query
  | [] => []
  | query :: queries => query.tree ++ Query.trees queries

def HopQuery.trees : List HopQuery -> List Query
  | [] => []
  | .mk _ query :: hops => query.tree ++ HopQuery.trees hops

end

def Query.types (query : Query) : List QueryType :=
  query.tree.map Query.type

theorem Query.types_mk
    (typeName : String) (fields : List Field) (page : Option PageRequest) :
    (Query.mk typeName fields page).types =
      ⟨typeName, fields.map Field.type⟩ :: (Field.trees fields).map Query.type := by
  rw [Query.types, Query.tree]
  rfl

/-!
# Plain contents
-/

namespace Clauses

def concat (contributions : List Clauses) : Clauses :=
  ⟨contributions.flatMap Clauses.parts⟩

def ofCondition? : Option Fragment -> Clauses
  | some fragment => .single fragment
  | none => .empty

def ofValues (column : String) (operator : Operator) : List Value -> Clauses
  | [] => .empty
  | value :: values =>
      ofCondition? (operator.condition? column value) ++ ofValues column operator values

end Clauses

namespace Step

def ofScalar : Step -> Value -> Clauses
  | .compare column operator, value => .ofCondition? (operator.condition? column value)
  | .condition template, value => .single (Session.templateClause template value)
  | .subquery column operator select table, _ =>
      .single (Session.subqueryClause column operator select table .empty)
  | .path route, _ => .single (route.compile [])
  | _, _ => .empty

def ofList : Step -> List Value -> Clauses
  | .compare column operator, values => .ofCondition? (operator.listCondition? column values)
  | .group connective .values column operator, values =>
      .single ((Clauses.ofValues column operator values).group connective.separator)
  | _, _ => .empty

end Step

/-!
# Contents with queries
-/

mutual

def Query.contributions (plans : Planning) : Query -> List Clauses
  | .mk typeName fields _ =>
      Field.contributions plans (plans ⟨typeName, fields.map Field.type⟩).fields fields

def Field.contributions (plans : Planning) : List PlannedField -> List Field -> List Clauses
  | planned :: plan, .mk _ content :: fields =>
      content.contribution plans planned.step :: Field.contributions plans plan fields
  | _, _ => []

def Content.contribution (plans : Planning) (step : Step) : Content -> Clauses
  | .absent => .empty
  | .scalar value => step.ofScalar value
  | .list values => step.ofList values
  | .query query =>
      match step with
      | .flatten => .concat (query.contributions plans)
      | .group connective .ofQuery _ _ =>
          .single ((Clauses.concat (query.contributions plans)).group connective.separator)
      | .subquery column operator select table =>
          .single (Session.subqueryClause column operator select table
            (Session.conjunction (.concat (query.contributions plans))))
      | .path path =>
          .single (path.compile
            [(path.length, Session.conjunction (.concat (query.contributions plans)))])
      | _ => .empty
  | .queries queries =>
      match step with
      | .group connective .queries _ _ =>
          .single ((Query.members plans queries).group connective.separator)
      | _ => .empty
  | .path hops =>
      match step with
      | .path path => .single (path.compile (HopQuery.filters plans path hops))
      | _ => .empty

def Query.members (plans : Planning) : List Query -> Clauses
  | [] => .empty
  | query :: queries =>
      .single ((Clauses.concat (query.contributions plans)).group Connective.and.separator) ++
        Query.members plans queries

def HopQuery.filters (plans : Planning) (path : Path) : List HopQuery -> Filters
  | [] => []
  | .mk index query :: hops =>
      if index = 0 ∨ path.length < index then
        HopQuery.filters plans path hops
      else
        (index, Session.conjunction (.concat (query.contributions plans))) ::
          HopQuery.filters plans path hops

end

def Query.clausesBy (plans : Planning) (query : Query) : Clauses :=
  .concat (query.contributions plans)

@[simp] theorem Clauses.concat_cons
    (clauses : Clauses) (contributions : List Clauses) :
    concat (clauses :: contributions) = clauses ++ concat contributions :=
  rfl

end Criteria
