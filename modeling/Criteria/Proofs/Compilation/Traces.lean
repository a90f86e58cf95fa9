import Criteria.Proofs.Compilation.Operations

/-!
# Traces

What a run does to its session is a sequence of acts: plans and layouts are looked up, and contents,
filters and sort keys that are left out are reported.  As long as every look-up finds or builds what
the naming gives for the type itself, the acts of a query are a function of the query and the naming,
and so are its clauses.
-/

namespace Criteria

inductive Act where
  | plan (type : QueryType)
  | layout (entity : Entity)
  | misfit (typeName field : String)
  | ignoreHop (typeName field : String) (index : Nat) (path : String)
  | dropKeys (faults : List Fault)

namespace Session

/-!
# Performing acts
-/

def perform (session : Session) : Act -> Session
  | .plan type => after (plan type) session
  | .layout entity => after (layout entity) session
  | .misfit typeName field => after (report [.contentMisfit typeName field]) session
  | .ignoreHop typeName field index path =>
      after (report [.hopIgnored typeName field index path]) session
  | .dropKeys faults => after (report (faults.map .sortKeyDropped)) session

def performAll (session : Session) (acts : List Act) : Session :=
  acts.foldl perform session

theorem performAll_append
    (session : Session) (acts more : List Act) :
    session.performAll (acts ++ more) = (session.performAll acts).performAll more :=
  List.foldl_append

/-- The act meets what the naming alone determines. -/
def Serves (naming : Naming) (session : Session) : Act -> Prop
  | .plan type => session.planOf type = Plan.build naming type
  | .layout entity => session.layoutOf entity = Layout.build naming entity
  | _ => session.naming = naming

/-- So do all acts of a sequence, each in the session that the earlier ones lead to. -/
def Follows (naming : Naming) : Session -> List Act -> Prop
  | _, [] => True
  | session, act :: acts => session.Serves naming act ∧ Follows naming (session.perform act) acts

theorem follows_append
    {naming : Naming} {session : Session} {acts more : List Act} :
    Follows naming session (acts ++ more) ↔
      Follows naming session acts ∧ Follows naming (session.performAll acts) more := by
  induction acts generalizing session with
  | nil => exact ⟨fun h => ⟨trivial, h⟩, And.right⟩
  | cons act acts ih =>
      show _ ∧ Follows naming (session.perform act) (acts ++ more) ↔ _
      rw [ih]
      exact and_assoc.symm

/-!
# Runs that perform

Where its acts are served, the run gives the value and leads where the acts lead.
-/

structure Performs {α : Type} (naming : Naming) (run : Run α) (acts : List Act) (value : α) :
    Prop where
  answer_eq : ∀ {session : Session}, Follows naming session acts -> answer run session = value
  after_eq : ∀ {session : Session},
    Follows naming session acts -> after run session = session.performAll acts

namespace Performs

variable {α β : Type}
variable {naming : Naming}
variable {acts more : List Act}

theorem pure
    (naming : Naming) (x : α) :
    Performs naming (Pure.pure x) [] x :=
  ⟨fun _ => rfl, fun _ => rfl⟩

theorem bind
    {run : Run α} {next : α -> Run β} {x : α} {y : β}
    (h : Performs naming run acts x)
    (hnext : Performs naming (next x) more y) :
    Performs naming (run >>= next) (acts ++ more) y := by
  constructor
  · intro session hfollows
    rcases follows_append.mp hfollows with ⟨hfirst, hsecond⟩
    rw [answer_bind, h.answer_eq hfirst, h.after_eq hfirst, hnext.answer_eq hsecond]
  · intro session hfollows
    rcases follows_append.mp hfollows with ⟨hfirst, hsecond⟩
    rw [after_bind, h.answer_eq hfirst, h.after_eq hfirst, hnext.after_eq hsecond,
      performAll_append]

theorem map
    {run : Run α} {x : α}
    (h : Performs naming run acts x)
    (f : α -> β) :
    Performs naming (run >>= fun x => Pure.pure (f x)) acts (f x) := by
  have hbind : Performs naming (run >>= fun x => Pure.pure (f x)) (acts ++ []) (f x) :=
    h.bind (.pure naming (f x))
  rwa [List.append_nil] at hbind

end Performs

theorem performs_plan
    (naming : Naming) (type : QueryType) :
    Performs naming (plan type) [.plan type] (Plan.build naming type) := by
  constructor
  · intro session hfollows
    rw [answer_plan]
    exact hfollows.1
  · intro session _
    rfl

theorem performs_ignoreHop
    (naming : Naming) (typeName field : String) (index : Nat) (path : String) :
    Performs naming (report [.hopIgnored typeName field index path])
      [.ignoreHop typeName field index path] () :=
  ⟨fun _ => rfl, fun _ => rfl⟩

end Session

/-!
# Acts on plain contents
-/

namespace Act

def ofCondition? (typeName field : String) : Option Fragment -> List Act
  | some _ => []
  | none => [.misfit typeName field]

def ofValues (typeName field column : String) (operator : Operator) (values : List Value) :
    List Act :=
  values.flatMap fun value => ofCondition? typeName field (operator.condition? column value)

def ofScalar (typeName field : String) : Step -> Value -> List Act
  | .compare column operator, value =>
      ofCondition? typeName field (operator.condition? column value)
  | .group .., _ | .flatten, _ => [.misfit typeName field]
  | _, _ => []

def ofList (typeName field : String) : Step -> List Value -> List Act
  | .skip, _ => []
  | .compare column operator, values =>
      ofCondition? typeName field (operator.listCondition? column values)
  | .group _ .values column operator, values => ofValues typeName field column operator values
  | _, _ => [.misfit typeName field]

end Act

/-!
# Acts on queries
-/

mutual

def Query.acts (naming : Naming) : Query -> List Act
  | .mk typeName fields _ =>
      .plan ⟨typeName, fields.map Field.type⟩ ::
        Field.acts naming typeName (Plan.build naming ⟨typeName, fields.map Field.type⟩).fields
          fields

def Field.acts (naming : Naming) (typeName : String) :
    List PlannedField -> List Field -> List Act
  | planned :: plan, .mk _ content :: fields =>
      content.acts naming typeName planned.name planned.step ++
        Field.acts naming typeName plan fields
  | _, _ => []

def Content.acts (naming : Naming) (typeName field : String) (step : Step) :
    Content -> List Act
  | .absent => []
  | .scalar value => Act.ofScalar typeName field step value
  | .list values => Act.ofList typeName field step values
  | .query query =>
      match step with
      | .skip => []
      | .flatten | .group _ .ofQuery _ _ | .subquery .. | .path _ => query.acts naming
      | _ => [.misfit typeName field]
  | .queries queries =>
      match step with
      | .skip => []
      | .group _ .queries _ _ => Query.actsAll naming queries
      | _ => [.misfit typeName field]
  | .path hops =>
      match step with
      | .skip => []
      | .path path => HopQuery.acts naming typeName field path hops
      | _ => [.misfit typeName field]

def Query.actsAll (naming : Naming) : List Query -> List Act
  | [] => []
  | query :: queries => query.acts naming ++ Query.actsAll naming queries

def HopQuery.acts (naming : Naming) (typeName field : String) (path : Path) :
    List HopQuery -> List Act
  | [] => []
  | .mk index query :: hops =>
      if index = 0 ∨ path.length < index then
        .ignoreHop typeName field index path.raw ::
          HopQuery.acts naming typeName field path hops
      else
        query.acts naming ++ HopQuery.acts naming typeName field path hops

end

namespace Session

variable {naming : Naming}

/-!
# Runs on plain contents
-/

theorem performs_misfit
    (naming : Naming) (typeName field : String) :
    Performs naming (misfit typeName field) [.misfit typeName field] .empty :=
  ⟨fun _ => rfl, fun _ => rfl⟩

theorem performs_clauseOrMisfit
    (naming : Naming) (typeName field : String) (condition? : Option Fragment) :
    Performs naming (clauseOrMisfit typeName field condition?)
      (Act.ofCondition? typeName field condition?) (.ofCondition? condition?) := by
  cases condition? with
  | none => exact performs_misfit naming typeName field
  | some fragment => exact .pure naming (Clauses.single fragment)

theorem performs_valueClauses
    (naming : Naming) (typeName field column : String) (operator : Operator)
    (values : List Value) :
    Performs naming (valueClauses typeName field column operator values)
      (Act.ofValues typeName field column operator values)
      (.ofValues column operator values) := by
  induction values with
  | nil => exact .pure naming Clauses.empty
  | cons value values ih =>
      exact (performs_clauseOrMisfit naming typeName field _).bind (ih.map _)

theorem performs_scalarClauses
    (naming : Naming) (typeName field : String) (step : Step) (value : Value) :
    Performs naming (scalarClauses typeName field step value)
      (Act.ofScalar typeName field step value) (step.ofScalar value) := by
  cases step with
  | skip => exact .pure naming Clauses.empty
  | compare column operator => exact performs_clauseOrMisfit naming typeName field _
  | condition template => exact .pure naming _
  | subquery column operator select table => exact .pure naming _
  | path path => exact .pure naming _
  | group connective members column operator => exact performs_misfit naming typeName field
  | flatten => exact performs_misfit naming typeName field

theorem performs_listClauses
    (naming : Naming) (typeName field : String) (step : Step) (values : List Value) :
    Performs naming (listClauses typeName field step values)
      (Act.ofList typeName field step values) (step.ofList values) := by
  cases step with
  | skip => exact .pure naming Clauses.empty
  | compare column operator => exact performs_clauseOrMisfit naming typeName field _
  | group connective members column operator =>
      cases members with
      | values =>
          exact (performs_valueClauses naming typeName field column operator values).map _
      | ofQuery => exact performs_misfit naming typeName field
      | queries => exact performs_misfit naming typeName field
  | condition template => exact performs_misfit naming typeName field
  | subquery column operator select table => exact performs_misfit naming typeName field
  | path path => exact performs_misfit naming typeName field
  | flatten => exact performs_misfit naming typeName field

/-!
# Runs on queries
-/

mutual

theorem performs_clauses (naming : Naming) : forall query : Query,
    Performs naming (clauses query) (query.acts naming) (query.clausesBy (Plan.build naming))
  | .mk typeName fields page => by
      rw [clauses, Query.acts]
      exact (performs_plan naming ⟨typeName, fields.map Field.type⟩).bind
        (performs_fieldClauses naming typeName _ fields)

theorem performs_fieldClauses (naming : Naming) (typeName : String) :
    forall (plan : List PlannedField) (fields : List Field),
    Performs naming (fieldClauses typeName plan fields) (Field.acts naming typeName plan fields)
      (.concat (Field.contributions (Plan.build naming) plan fields))
  | planned :: plan, .mk type content :: fields => by
      rw [fieldClauses, Field.acts, Field.contributions, Clauses.concat_cons]
      exact (performs_contentClauses naming typeName planned.name planned.step content).bind
        ((performs_fieldClauses naming typeName plan fields).map _)
  | [], fields => by
      cases fields <;>
        exact .pure naming Clauses.empty
  | _ :: _, [] => .pure naming Clauses.empty

theorem performs_contentClauses (naming : Naming) (typeName field : String) (step : Step) :
    forall content : Content,
    Performs naming (contentClauses typeName field step content)
      (content.acts naming typeName field step) (content.contribution (Plan.build naming) step)
  | .absent => .pure naming Clauses.empty
  | .scalar value => performs_scalarClauses naming typeName field step value
  | .list values => performs_listClauses naming typeName field step values
  | .query query => by
      have hquery := performs_clauses naming query
      cases step with
      | skip => exact .pure naming Clauses.empty
      | compare column operator => exact performs_misfit naming typeName field
      | group connective members column operator =>
          cases members with
          | ofQuery => exact hquery.map _
          | queries => exact performs_misfit naming typeName field
          | values => exact performs_misfit naming typeName field
      | condition template => exact performs_misfit naming typeName field
      | subquery column operator select table => exact hquery.map _
      | path path => exact hquery.map _
      | flatten => exact hquery
  | .queries queries => by
      have hqueries := performs_queryClauses naming queries
      cases step with
      | skip => exact .pure naming Clauses.empty
      | group connective members column operator =>
          cases members with
          | queries => exact hqueries.map _
          | ofQuery => exact performs_misfit naming typeName field
          | values => exact performs_misfit naming typeName field
      | compare column operator => exact performs_misfit naming typeName field
      | condition template => exact performs_misfit naming typeName field
      | subquery column operator select table => exact performs_misfit naming typeName field
      | path path => exact performs_misfit naming typeName field
      | flatten => exact performs_misfit naming typeName field
  | .path hops => by
      cases step with
      | skip => exact .pure naming Clauses.empty
      | path path => exact (performs_hopFilters naming typeName field path hops).map _
      | compare column operator => exact performs_misfit naming typeName field
      | group connective members column operator => exact performs_misfit naming typeName field
      | condition template => exact performs_misfit naming typeName field
      | subquery column operator select table => exact performs_misfit naming typeName field
      | flatten => exact performs_misfit naming typeName field

theorem performs_queryClauses (naming : Naming) : forall queries : List Query,
    Performs naming (queryClauses queries) (Query.actsAll naming queries)
      (Query.members (Plan.build naming) queries)
  | [] => .pure naming Clauses.empty
  | query :: queries =>
      (performs_clauses naming query).bind ((performs_queryClauses naming queries).map _)

theorem performs_hopFilters (naming : Naming) (typeName field : String) (path : Path) :
    forall hops : List HopQuery,
    Performs naming (hopFilters typeName field path hops)
      (HopQuery.acts naming typeName field path hops)
      (HopQuery.filters (Plan.build naming) path hops)
  | [] => .pure naming []
  | .mk index query :: hops => by
      have hothers := performs_hopFilters naming typeName field path hops
      rw [hopFilters, HopQuery.acts, HopQuery.filters]
      by_cases hindex : index = 0 ∨ path.length < index
      · rw [if_pos hindex, if_pos hindex, if_pos hindex]
        exact (performs_ignoreHop naming typeName field index path.raw).bind hothers
      · rw [if_neg hindex, if_neg hindex, if_neg hindex]
        exact (performs_clauses naming query).bind (hothers.map _)

end

theorem performs_condition
    (naming : Naming) (query : Query) :
    Performs naming (condition query) (query.acts naming)
      (conjunction (query.clausesBy (Plan.build naming))) :=
  (performs_clauses naming query).map conjunction

end Session

/-!
# Acts of operations
-/

def Query.orderActs (query : Query) : List Act :=
  match query.page.bind PageRequest.sort with
  | none => []
  | some sort => [.dropKeys (RowOrder.parseLenient sort).2]

def Operation.acts (naming : Naming) : Operation -> List Act
  | .plan type => [.plan type]
  | .condition query => query.acts naming
  | .orderBy query => query.orderActs
  | .select entity query => .layout entity :: (query.acts naming ++ query.orderActs)
  | .count entity query => .layout entity :: query.acts naming
  | .delete entity query => .layout entity :: query.acts naming
  | .insertAll entity rows => if rows.isEmpty then [] else [.layout entity]
  | .patchWhere entity row query =>
      .layout entity ::
        match Statement.assignment? (Layout.build naming entity) row with
        | none => []
        | some _ => query.acts naming
  | .layout entity | .selectById entity _ | .deleteById entity _ | .insert entity _
  | .update entity _ | .patch entity _ => [.layout entity]

namespace Session

theorem performs_layout
    (naming : Naming) (entity : Entity) :
    Performs naming (layout entity) [.layout entity] (Layout.build naming entity) := by
  constructor
  · intro session hfollows
    rw [answer_layout]
    exact hfollows.1
  · intro session _
    rfl

theorem performs_orderBy
    (naming : Naming) (query : Query) :
    ∃ order, Performs naming (orderBy query) query.orderActs order := by
  unfold orderBy Query.orderActs
  cases query.page.bind PageRequest.sort with
  | none => exact ⟨"", .pure naming ""⟩
  | some sort =>
      refine ⟨RowOrder.render (RowOrder.parseLenient sort).1 naming, ?_, ?_⟩
      · intro session hfollows
        have hnaming : session.naming = naming := hfollows.1
        rw [← hnaming]
        rfl
      · intro session _
        rfl

theorem performs_withLayout
    {α : Type} {naming : Naming} {entity : Entity} {next : Layout -> Run α} {acts : List Act}
    (h : ∃ x, Performs naming (next (Layout.build naming entity)) acts x) :
    ∃ x, Performs naming (layout entity >>= next) (.layout entity :: acts) x := by
  rcases h with ⟨x, hnext⟩
  exact ⟨x, (performs_layout naming entity).bind hnext⟩

theorem performs_run
    (naming : Naming) (operation : Operation) :
    ∃ answer, Performs naming operation.run (operation.acts naming) answer := by
  have hmap : ∀ {α : Type} {run : Run α} {acts : List Act} (f : α -> Answer),
      (∃ x, Performs naming run acts x) ->
        ∃ answer, Performs naming (run >>= fun x => pure (f x)) acts answer := by
    intro α run acts f h
    rcases h with ⟨x, hrun⟩
    exact ⟨f x, hrun.map f⟩
  cases operation with
  | plan type => exact ⟨_, (performs_plan naming type).map _⟩
  | layout entity => exact ⟨_, (performs_layout naming entity).map _⟩
  | condition query => exact ⟨_, (performs_condition naming query).map _⟩
  | orderBy query => exact hmap Answer.text (performs_orderBy naming query)
  | select entity query =>
      rcases performs_orderBy naming query with ⟨order, horder⟩
      exact hmap Answer.fragment
        (performs_withLayout ⟨_, (performs_condition naming query).bind (horder.map _)⟩)
  | count entity query =>
      exact hmap Answer.fragment (performs_withLayout ⟨_, (performs_condition naming query).map _⟩)
  | delete entity query =>
      exact hmap Answer.fragment (performs_withLayout ⟨_, (performs_condition naming query).map _⟩)
  | selectById entity id => exact hmap Answer.fragment (performs_withLayout ⟨_, .pure naming _⟩)
  | deleteById entity id => exact hmap Answer.fragment (performs_withLayout ⟨_, .pure naming _⟩)
  | insert entity row => exact hmap Answer.fragment (performs_withLayout ⟨_, .pure naming _⟩)
  | update entity row => exact hmap Answer.fragment (performs_withLayout ⟨_, .pure naming _⟩)
  | patch entity row => exact hmap Answer.optional (performs_withLayout ⟨_, .pure naming _⟩)
  | insertAll entity rows =>
      refine hmap Answer.optional ?_
      unfold Statement.insertAll
      show ∃ x, Performs naming _ (if rows.isEmpty then [] else [.layout entity]) x
      split
      · exact ⟨none, .pure naming none⟩
      · exact performs_withLayout ⟨_, .pure naming _⟩
  | patchWhere entity row query =>
      refine hmap Answer.optional (performs_withLayout ?_)
      cases Statement.assignment? (Layout.build naming entity) row with
      | none => exact ⟨none, .pure naming none⟩
      | some fragment => exact ⟨_, (performs_condition naming query).map _⟩

end Session
end Criteria
