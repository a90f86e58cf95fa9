import Criteria.Proofs.Compilation.Runs

/-!
# Runs on queries

The run that compiles a query computes the contributions of its fields.  The proof follows the
recursion of the run: one lemma for each kind of content that holds no query, and one mutual
induction over the tree.
-/

namespace Criteria
namespace Session

variable {types : List QueryType}

/-!
# Plain contents
-/

theorem computes_misfit
    (types : List QueryType) (typeName field : String) :
    Computes (misfit typeName field) types (fun _ => .empty) :=
  (Computes.report types [.contentMisfit typeName field]).map fun _ => Clauses.empty

theorem computes_clauseOrMisfit
    (types : List QueryType) (typeName field : String) (condition? : Option Fragment) :
    Computes (clauseOrMisfit typeName field condition?) types
      (fun _ => .ofCondition? condition?) := by
  cases condition? with
  | none => exact computes_misfit types typeName field
  | some fragment => exact .pure types (Clauses.single fragment)

theorem computes_valueClauses
    (types : List QueryType) (typeName field column : String) (operator : Operator)
    (values : List Value) :
    Computes (valueClauses typeName field column operator values) types
      (fun _ => .ofValues column operator values) := by
  induction values with
  | nil => exact .pure types Clauses.empty
  | cons value values ih =>
      exact (computes_clauseOrMisfit types typeName field _).bind fun here =>
        ih.map fun others => here ++ others

theorem computes_scalarClauses
    (types : List QueryType) (typeName field : String) (step : Step) (value : Value) :
    Computes (scalarClauses typeName field step value) types (fun _ => step.ofScalar value) := by
  cases step with
  | skip => exact .pure types Clauses.empty
  | compare column operator => exact computes_clauseOrMisfit types typeName field _
  | condition template => exact .pure types _
  | subquery column operator select table => exact .pure types _
  | path path => exact .pure types _
  | group connective members column operator => exact computes_misfit types typeName field
  | flatten => exact computes_misfit types typeName field

theorem computes_listClauses
    (types : List QueryType) (typeName field : String) (step : Step) (values : List Value) :
    Computes (listClauses typeName field step values) types (fun _ => step.ofList values) := by
  cases step with
  | skip => exact .pure types Clauses.empty
  | compare column operator => exact computes_clauseOrMisfit types typeName field _
  | group connective members column operator =>
      cases members with
      | values =>
          exact (computes_valueClauses types typeName field column operator values).map
            fun members => Clauses.single (members.group connective.separator)
      | ofQuery => exact computes_misfit types typeName field
      | queries => exact computes_misfit types typeName field
  | condition template => exact computes_misfit types typeName field
  | subquery column operator select table => exact computes_misfit types typeName field
  | path path => exact computes_misfit types typeName field
  | flatten => exact computes_misfit types typeName field

/-!
# Trees
-/

mutual

theorem computes_clauses : forall query : Query,
    Computes (clauses query) query.types query.clausesBy
  | .mk typeName fields page => by
      rw [clauses, Query.types_mk]
      have hplan := computes_plan ⟨typeName, fields.map Field.type⟩
      exact (hplan.mono (by simp)).bind fun plan =>
        (computes_fieldClauses plan.typeName plan.fields fields).mono (by simp)

theorem computes_fieldClauses (typeName : String) :
    forall (plan : List PlannedField) (fields : List Field),
    Computes (fieldClauses typeName plan fields) ((Field.trees fields).map Query.type)
      (fun plans => .concat (Field.contributions plans plan fields))
  | planned :: plan, .mk type content :: fields => by
      have htrees : (Field.trees (.mk type content :: fields)).map Query.type =
          content.trees.map Query.type ++ (Field.trees fields).map Query.type := by
        rw [Field.trees, List.map_append]
      have hhere := computes_contentClauses typeName planned.name planned.step content
      have hothers := computes_fieldClauses typeName plan fields
      rw [fieldClauses, htrees]
      exact (hhere.mono (by simp)).bind fun here =>
        (hothers.mono (by simp)).map fun others => here ++ others
  | [], fields => by
      cases fields <;>
        exact .pure _ Clauses.empty
  | _ :: _, [] => .pure _ Clauses.empty

theorem computes_contentClauses (typeName field : String) (step : Step) :
    forall content : Content,
    Computes (contentClauses typeName field step content) (content.trees.map Query.type)
      (fun plans => content.contribution plans step)
  | .absent => .pure _ Clauses.empty
  | .scalar value => computes_scalarClauses _ typeName field step value
  | .list values => computes_listClauses _ typeName field step values
  | .query query => by
      have hquery := computes_clauses query
      cases step with
      | skip => exact .pure _ Clauses.empty
      | compare column operator => exact computes_misfit _ typeName field
      | group connective members column operator =>
          cases members with
          | ofQuery => exact hquery.map fun members => Clauses.single (members.group _)
          | queries => exact computes_misfit _ typeName field
          | values => exact computes_misfit _ typeName field
      | condition template => exact computes_misfit _ typeName field
      | subquery column operator select table =>
          exact hquery.map fun members =>
            Clauses.single (subqueryClause column operator select table (conjunction members))
      | path path =>
          exact hquery.map fun members =>
            Clauses.single (path.compile [(path.length, conjunction members)])
      | flatten => exact hquery
  | .queries queries => by
      have hqueries := computes_queryClauses queries
      cases step with
      | skip => exact .pure _ Clauses.empty
      | group connective members column operator =>
          cases members with
          | queries => exact hqueries.map fun members => Clauses.single (members.group _)
          | ofQuery => exact computes_misfit _ typeName field
          | values => exact computes_misfit _ typeName field
      | compare column operator => exact computes_misfit _ typeName field
      | condition template => exact computes_misfit _ typeName field
      | subquery column operator select table => exact computes_misfit _ typeName field
      | path path => exact computes_misfit _ typeName field
      | flatten => exact computes_misfit _ typeName field
  | .path hops => by
      cases step with
      | skip => exact .pure _ Clauses.empty
      | path path =>
          exact (computes_hopFilters typeName field path hops).map fun filters =>
            Clauses.single (path.compile filters)
      | compare column operator => exact computes_misfit _ typeName field
      | group connective members column operator => exact computes_misfit _ typeName field
      | condition template => exact computes_misfit _ typeName field
      | subquery column operator select table => exact computes_misfit _ typeName field
      | flatten => exact computes_misfit _ typeName field

theorem computes_queryClauses : forall queries : List Query,
    Computes (queryClauses queries) ((Query.trees queries).map Query.type)
      (fun plans => Query.members plans queries)
  | [] => .pure _ Clauses.empty
  | query :: queries => by
      have htrees : (Query.trees (query :: queries)).map Query.type =
          query.types ++ (Query.trees queries).map Query.type := by
        rw [Query.trees, List.map_append]
        rfl
      have hquery := computes_clauses query
      have hothers := computes_queryClauses queries
      rw [queryClauses, htrees]
      exact (hquery.mono (by simp)).bind fun members =>
        (hothers.mono (by simp)).map fun others =>
          Clauses.single (members.group Connective.and.separator) ++ others

theorem computes_hopFilters (typeName field : String) (path : Path) :
    forall hops : List HopQuery,
    Computes (hopFilters typeName field path hops) ((HopQuery.trees hops).map Query.type)
      (fun plans => HopQuery.filters plans path hops)
  | [] => .pure _ []
  | .mk index query :: hops => by
      have htrees : (HopQuery.trees (.mk index query :: hops)).map Query.type =
          query.types ++ (HopQuery.trees hops).map Query.type := by
        rw [HopQuery.trees, List.map_append]
        rfl
      have hquery := computes_clauses query
      have hothers := computes_hopFilters typeName field path hops
      simp only [hopFilters, HopQuery.filters]
      rw [htrees]
      by_cases hindex : index = 0 ∨ path.length < index
      · simp only [if_pos hindex]
        exact (Computes.report _ _).bind fun _ => hothers.mono (by simp)
      · simp only [if_neg hindex]
        exact (hquery.mono (by simp)).bind fun members =>
          (hothers.mono (by simp)).map fun others => (index, conjunction members) :: others

end

/-!
# Conditions
-/

theorem computes_condition
    (query : Query) :
    Computes (condition query) query.types (fun plans => conjunction (query.clausesBy plans)) :=
  (computes_clauses query).map conjunction

theorem condition_eq
    (query : Query) (session : Session) :
    answer (condition query) session =
      conjunction (query.clausesBy (after (condition query) session).planOf) :=
  (computes_condition query).agrees (Grows.refl [] _)

end Session
end Criteria
