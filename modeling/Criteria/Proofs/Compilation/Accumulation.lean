import Criteria.Proofs.Compilation.Runs

/-!
# Accumulation

The clauses of a query can be pushed, one after the other, onto clauses that are there before; a
query that is flattened pushes its own onto those of the query around it.  What is there is left
as it is, and what is pushed is what the query makes by itself.
-/

namespace Criteria

/-!
# Clauses in a row
-/

namespace Clauses

theorem append_empty
    (clauses : Clauses) :
    clauses ++ empty = clauses :=
  congrArg mk (List.append_nil clauses.parts)

theorem append_assoc
    (first second third : Clauses) :
    first ++ second ++ third = first ++ (second ++ third) :=
  congrArg mk (List.append_assoc first.parts second.parts third.parts)

end Clauses

namespace Session

/-!
# Pushing plain contents
-/

def pushOrMisfit (typeName field : String) (out : Clauses) : Option Fragment -> Run Clauses
  | some fragment => return out.push fragment
  | none => do
      report [.contentMisfit typeName field]
      return out

def pushValues (typeName field column : String) (operator : Operator) :
    List Value -> Clauses -> Run Clauses
  | [], out => return out
  | value :: values, out => do
      let out ← pushOrMisfit typeName field out (operator.condition? column value)
      pushValues typeName field column operator values out

def collectScalar (typeName field : String) (step : Step) (value : Value) (out : Clauses) :
    Run Clauses :=
  match step with
  | .skip => return out
  | .compare column operator =>
      pushOrMisfit typeName field out (operator.condition? column value)
  | .condition template => return out.push (templateClause template value)
  | .subquery column operator select table =>
      return out.push (subqueryClause column operator select table .empty)
  | .path path => return out.push (path.compile [])
  | _ => pushOrMisfit typeName field out none

def collectList (typeName field : String) (step : Step) (values : List Value) (out : Clauses) :
    Run Clauses :=
  match step with
  | .skip => return out
  | .compare column operator =>
      pushOrMisfit typeName field out (operator.listCondition? column values)
  | .group connective .values column operator => do
      let members ← pushValues typeName field column operator values .empty
      return out.push (members.group connective.separator)
  | _ => pushOrMisfit typeName field out none

/-!
# Pushing queries
-/

mutual

def collect : Query -> Clauses -> Run Clauses
  | .mk typeName fields _, out => do
      let plan ← plan ⟨typeName, fields.map Field.type⟩
      collectFields plan.typeName plan.fields fields out

def collectFields (typeName : String) :
    List PlannedField -> List Field -> Clauses -> Run Clauses
  | planned :: plan, .mk _ content :: fields, out => do
      let out ← collectContent typeName planned.name planned.step content out
      collectFields typeName plan fields out
  | _, _, out => return out

def collectContent (typeName field : String) (step : Step) : Content -> Clauses -> Run Clauses
  | .absent, out => return out
  | .scalar value, out => collectScalar typeName field step value out
  | .list values, out => collectList typeName field step values out
  | .query query, out =>
      match step with
      | .skip => return out
      | .flatten => collect query out
      | .group connective .ofQuery _ _ => do
          let members ← collect query .empty
          return out.push (members.group connective.separator)
      | .subquery column operator select table => do
          let members ← collect query .empty
          return out.push (subqueryClause column operator select table (conjunction members))
      | .path path => do
          let members ← collect query .empty
          return out.push (path.compile [(path.length, conjunction members)])
      | _ => pushOrMisfit typeName field out none
  | .queries queries, out =>
      match step with
      | .skip => return out
      | .group connective .queries _ _ => do
          let members ← collectQueries queries .empty
          return out.push (members.group connective.separator)
      | _ => pushOrMisfit typeName field out none
  | .path hops, out =>
      match step with
      | .skip => return out
      | .path path => do
          let filters ← collectFilters typeName field path hops
          return out.push (path.compile filters)
      | _ => pushOrMisfit typeName field out none

def collectQueries : List Query -> Clauses -> Run Clauses
  | [], out => return out
  | query :: queries, out => do
      let members ← collect query .empty
      collectQueries queries (out.push (members.group Connective.and.separator))

def collectFilters (typeName field : String) (path : Path) : List HopQuery -> Run Filters
  | [] => return []
  | .mk index query :: hops =>
      if index = 0 ∨ path.length < index then do
        report [.hopIgnored typeName field index path.raw]
        collectFilters typeName field path hops
      else do
        let members ← collect query .empty
        let others ← collectFilters typeName field path hops
        return (index, conjunction members) :: others

end

/-!
# What is pushed
-/

/-- The run that is given clauses pushes onto them what another run makes. -/
def Pushes (collecting : Clauses -> Run Clauses) (run : Run Clauses) : Prop :=
  ∀ out, collecting out = (fun clauses => out ++ clauses) <$> run

theorem Pushes.empty
    {collecting : Clauses -> Run Clauses} {run : Run Clauses}
    (h : Pushes collecting run) :
    collecting .empty = run := by
  rw [h .empty]
  exact id_map run

theorem pushes_nothing :
    Pushes (fun out => return out) (return .empty) := by
  intro out
  rw [map_pure, Clauses.append_empty]

theorem pushes_made
    {α : Type} (run : Run α) (make : α -> Fragment) :
    Pushes (fun out => do return out.push (make (← run)))
      (do return .single (make (← run))) := by
  intro out
  rw [map_bind]
  rfl

theorem pushes_single
    (fragment : Fragment) :
    Pushes (fun out => return out.push fragment) (return .single fragment) :=
  pushes_made (pure fragment) id

theorem Pushes.andThen
    {collecting others : Clauses -> Run Clauses} {run next : Run Clauses}
    (h : Pushes collecting run)
    (hothers : Pushes others next) :
    Pushes (fun out => do others (← collecting out))
      (do
        let here ← run
        let clauses ← next
        return here ++ clauses) := by
  intro out
  show collecting out >>= others = _
  -- both sides make the same two runs, so only their answers are left to compare
  rw [h out, bind_map_left, map_bind]
  refine bind_congr fun here => ?_
  rw [hothers, map_bind, map_eq_pure_bind]
  refine bind_congr fun clauses => ?_
  rw [map_pure, Clauses.append_assoc]

/-!
# Plain contents
-/

theorem pushes_misfit
    (typeName field : String) :
    Pushes (fun out => pushOrMisfit typeName field out none) (misfit typeName field) := by
  intro out
  show _ = (fun clauses => out ++ clauses) <$> misfit typeName field
  unfold misfit
  simp only [map_bind, map_pure, Clauses.append_empty]
  rfl

theorem pushes_orMisfit
    (typeName field : String) (condition? : Option Fragment) :
    Pushes (fun out => pushOrMisfit typeName field out condition?)
      (clauseOrMisfit typeName field condition?) := by
  cases condition? with
  | none => exact pushes_misfit typeName field
  | some fragment => exact fun out => rfl

theorem pushes_values
    (typeName field column : String) (operator : Operator) (values : List Value) :
    Pushes (pushValues typeName field column operator values)
      (valueClauses typeName field column operator values) := by
  induction values with
  | nil => exact pushes_nothing
  | cons value values ih => exact (pushes_orMisfit typeName field _).andThen ih

theorem pushes_scalar
    (typeName field : String) (step : Step) (value : Value) :
    Pushes (collectScalar typeName field step value)
      (scalarClauses typeName field step value) := by
  cases step with
  | skip => exact pushes_nothing
  | compare column operator => exact pushes_orMisfit typeName field _
  | condition template => exact pushes_single _
  | subquery column operator select table => exact pushes_single _
  | path path => exact pushes_single _
  | group connective members column operator => exact pushes_misfit typeName field
  | flatten => exact pushes_misfit typeName field

theorem Pushes.enclosed
    {collecting : Clauses -> Run Clauses} {run : Run Clauses}
    (h : Pushes collecting run)
    (enclose : Clauses -> Fragment) :
    Pushes (fun out => do return out.push (enclose (← collecting .empty)))
      (do return .single (enclose (← run))) := by
  rw [h.empty]
  exact pushes_made run enclose

theorem pushes_list
    (typeName field : String) (step : Step) (values : List Value) :
    Pushes (collectList typeName field step values) (listClauses typeName field step values) := by
  have hmisfit := pushes_misfit typeName field
  cases step with
  | skip => exact pushes_nothing
  | compare column operator => exact pushes_orMisfit typeName field _
  | group connective members column operator =>
      cases members with
      | values => exact (pushes_values typeName field column operator values).enclosed _
      | ofQuery => exact hmisfit
      | queries => exact hmisfit
  | condition template => exact hmisfit
  | subquery column operator select table => exact hmisfit
  | path path => exact hmisfit
  | flatten => exact hmisfit

/-!
# Trees
-/

mutual

theorem pushes_query : forall query : Query, Pushes (collect query) (clauses query)
  | .mk typeName fields page => by
      intro out
      rw [collect, clauses, map_bind]
      exact bind_congr fun plan => pushes_fields plan.typeName plan.fields fields out

theorem pushes_fields (typeName : String) :
    forall (plan : List PlannedField) (fields : List Field),
    Pushes (collectFields typeName plan fields) (fieldClauses typeName plan fields)
  | planned :: plan, .mk type content :: fields =>
      (pushes_content typeName planned.name planned.step content).andThen
        (pushes_fields typeName plan fields)
  | [], fields => by
      cases fields <;>
        exact pushes_nothing
  | _ :: _, [] => pushes_nothing

theorem pushes_content (typeName field : String) (step : Step) :
    forall content : Content,
    Pushes (collectContent typeName field step content)
      (contentClauses typeName field step content)
  | .absent => pushes_nothing
  | .scalar value => pushes_scalar typeName field step value
  | .list values => pushes_list typeName field step values
  | .query query => by
      have hmisfit := pushes_misfit typeName field
      have hquery := pushes_query query
      cases step with
      | skip => exact pushes_nothing
      | flatten => exact hquery
      | group connective members column operator =>
          cases members with
          | ofQuery => exact hquery.enclosed _
          | queries => exact hmisfit
          | values => exact hmisfit
      | subquery column operator select table => exact hquery.enclosed _
      | path path => exact hquery.enclosed _
      | compare column operator => exact hmisfit
      | condition template => exact hmisfit
  | .queries queries => by
      have hmisfit := pushes_misfit typeName field
      cases step with
      | skip => exact pushes_nothing
      | group connective members column operator =>
          cases members with
          | queries => exact (pushes_queries queries).enclosed _
          | ofQuery => exact hmisfit
          | values => exact hmisfit
      | compare column operator => exact hmisfit
      | condition template => exact hmisfit
      | subquery column operator select table => exact hmisfit
      | path path => exact hmisfit
      | flatten => exact hmisfit
  | .path hops => by
      have hmisfit := pushes_misfit typeName field
      cases step with
      | skip => exact pushes_nothing
      | path path =>
          intro out
          rw [collectContent, collectFilters_eq typeName field path hops]
          exact pushes_made (hopFilters typeName field path hops) path.compile out
      | compare column operator => exact hmisfit
      | group connective members column operator => exact hmisfit
      | condition template => exact hmisfit
      | subquery column operator select table => exact hmisfit
      | flatten => exact hmisfit

theorem pushes_queries : forall queries : List Query,
    Pushes (collectQueries queries) (queryClauses queries)
  | [] => pushes_nothing
  | query :: queries =>
      ((pushes_query query).enclosed fun members =>
        members.group Connective.and.separator).andThen (pushes_queries queries)

theorem collectFilters_eq (typeName field : String) (path : Path) :
    forall hops : List HopQuery,
    collectFilters typeName field path hops = hopFilters typeName field path hops
  | [] => rfl
  | .mk index query :: hops => by
      rw [collectFilters, hopFilters, (pushes_query query).empty,
        collectFilters_eq typeName field path hops]

end

theorem answer_collect
    (query : Query) (out : Clauses) (session : Session) :
    answer (collect query out) session = out ++ answer (clauses query) session := by
  rw [pushes_query query out]
  rfl

end Session
end Criteria
