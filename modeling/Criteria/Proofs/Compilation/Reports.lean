import Criteria.Proofs.Compilation.Shelves

/-!
# Reports

Fields that cannot be planned are reported when the plan of their type is installed, contents that do
not fit when they are compiled.  So after a query is compiled, the log holds the reports on all of its
types, whoever had their plans installed, and those on its own contents.
-/

namespace Criteria
namespace Session

/-!
# Relations along compilations
-/

section

variable {relation : Session -> Session -> Prop}

theorem keeps_misfit
    (h : Composes relation)
    (hreport : ∀ events, Keeps relation (report events))
    (typeName field : String) :
    Keeps relation (misfit typeName field) :=
  (hreport _).map h fun _ => Clauses.empty

theorem keeps_clauseOrMisfit
    (h : Composes relation)
    (hreport : ∀ events, Keeps relation (report events))
    (typeName field : String) (condition? : Option Fragment) :
    Keeps relation (clauseOrMisfit typeName field condition?) := by
  cases condition? with
  | none => exact keeps_misfit h hreport typeName field
  | some fragment => exact .pure h (Clauses.single fragment)

theorem keeps_valueClauses
    (h : Composes relation)
    (hreport : ∀ events, Keeps relation (report events))
    (typeName field column : String) (operator : Operator) (values : List Value) :
    Keeps relation (valueClauses typeName field column operator values) := by
  induction values with
  | nil => exact .pure h Clauses.empty
  | cons value values ih =>
      exact (keeps_clauseOrMisfit h hreport typeName field _).bind h fun here => ih.map h _

theorem keeps_scalarClauses
    (h : Composes relation)
    (hreport : ∀ events, Keeps relation (report events))
    (typeName field : String) (step : Step) (value : Value) :
    Keeps relation (scalarClauses typeName field step value) := by
  cases step with
  | skip => exact .pure h Clauses.empty
  | compare column operator => exact keeps_clauseOrMisfit h hreport typeName field _
  | condition template => exact .pure h _
  | subquery column operator select table => exact .pure h _
  | path path => exact .pure h _
  | group connective members column operator => exact keeps_misfit h hreport typeName field
  | flatten => exact keeps_misfit h hreport typeName field

theorem keeps_listClauses
    (h : Composes relation)
    (hreport : ∀ events, Keeps relation (report events))
    (typeName field : String) (step : Step) (values : List Value) :
    Keeps relation (listClauses typeName field step values) := by
  have hmisfit := keeps_misfit h hreport typeName field
  cases step with
  | skip => exact .pure h Clauses.empty
  | compare column operator => exact keeps_clauseOrMisfit h hreport typeName field _
  | group connective members column operator =>
      cases members with
      | values => exact (keeps_valueClauses h hreport typeName field column operator values).map h _
      | ofQuery => exact hmisfit
      | queries => exact hmisfit
  | condition template => exact hmisfit
  | subquery column operator select table => exact hmisfit
  | path path => exact hmisfit
  | flatten => exact hmisfit

mutual

theorem keeps_clauses (h : Composes relation) (hreport : ∀ events, Keeps relation (report events)) :
    forall query : Query, (∀ type ∈ query.types, Keeps relation (plan type)) ->
      Keeps relation (clauses query)
  | .mk typeName fields page => by
      intro hplan
      rw [Query.types_mk] at hplan
      rw [clauses]
      exact (hplan _ List.mem_cons_self).bind h fun plan =>
        keeps_fieldClauses h hreport plan.typeName plan.fields fields
          fun type htype => hplan type (List.mem_cons_of_mem _ htype)

theorem keeps_fieldClauses (h : Composes relation)
    (hreport : ∀ events, Keeps relation (report events)) (typeName : String) :
    forall (planned : List PlannedField) (fields : List Field),
    (∀ type ∈ (Field.trees fields).map Query.type, Keeps relation (plan type)) ->
      Keeps relation (fieldClauses typeName planned fields)
  | planned :: others, .mk type content :: fields => by
      intro hplan
      rw [Field.trees, List.map_append] at hplan
      rw [fieldClauses]
      have hhere := keeps_contentClauses h hreport typeName planned.name planned.step content
        fun type htype => hplan type (List.mem_append_left _ htype)
      have hothers := keeps_fieldClauses h hreport typeName others fields
        fun type htype => hplan type (List.mem_append_right _ htype)
      exact hhere.bind h fun here => hothers.map h _
  | [], fields => by
      intro _
      cases fields <;>
        exact .pure h Clauses.empty
  | _ :: _, [] => fun _ => .pure h Clauses.empty

theorem keeps_contentClauses (h : Composes relation)
    (hreport : ∀ events, Keeps relation (report events)) (typeName field : String) (step : Step) :
    forall content : Content,
    (∀ type ∈ content.trees.map Query.type, Keeps relation (plan type)) ->
      Keeps relation (contentClauses typeName field step content)
  | .absent => fun _ => .pure h Clauses.empty
  | .scalar value => fun _ => keeps_scalarClauses h hreport typeName field step value
  | .list values => fun _ => keeps_listClauses h hreport typeName field step values
  | .query query => by
      intro hplan
      have hquery := keeps_clauses h hreport query hplan
      have hmisfit := keeps_misfit h hreport typeName field
      cases step with
      | skip => exact .pure h Clauses.empty
      | compare column operator => exact hmisfit
      | group connective members column operator =>
          cases members with
          | ofQuery => exact hquery.map h _
          | queries => exact hmisfit
          | values => exact hmisfit
      | condition template => exact hmisfit
      | subquery column operator select table => exact hquery.map h _
      | path path => exact hquery.map h _
      | flatten => exact hquery
  | .queries queries => by
      intro hplan
      have hqueries := keeps_queryClauses h hreport queries hplan
      have hmisfit := keeps_misfit h hreport typeName field
      cases step with
      | skip => exact .pure h Clauses.empty
      | group connective members column operator =>
          cases members with
          | queries => exact hqueries.map h _
          | ofQuery => exact hmisfit
          | values => exact hmisfit
      | compare column operator => exact hmisfit
      | condition template => exact hmisfit
      | subquery column operator select table => exact hmisfit
      | path path => exact hmisfit
      | flatten => exact hmisfit
  | .path hops => by
      intro hplan
      have hmisfit := keeps_misfit h hreport typeName field
      cases step with
      | skip => exact .pure h Clauses.empty
      | path path => exact (keeps_hopFilters h hreport typeName field path hops hplan).map h _
      | compare column operator => exact hmisfit
      | group connective members column operator => exact hmisfit
      | condition template => exact hmisfit
      | subquery column operator select table => exact hmisfit
      | flatten => exact hmisfit

theorem keeps_queryClauses (h : Composes relation)
    (hreport : ∀ events, Keeps relation (report events)) : forall queries : List Query,
    (∀ type ∈ (Query.trees queries).map Query.type, Keeps relation (plan type)) ->
      Keeps relation (queryClauses queries)
  | [] => fun _ => .pure h Clauses.empty
  | query :: queries => by
      intro hplan
      rw [Query.trees, List.map_append] at hplan
      rw [queryClauses]
      have hquery := keeps_clauses h hreport query
        fun type htype => hplan type (List.mem_append_left _ htype)
      have hothers := keeps_queryClauses h hreport queries
        fun type htype => hplan type (List.mem_append_right _ htype)
      exact hquery.bind h fun members => hothers.map h _

theorem keeps_hopFilters (h : Composes relation)
    (hreport : ∀ events, Keeps relation (report events)) (typeName field : String) (path : Path) :
    forall hops : List HopQuery,
    (∀ type ∈ (HopQuery.trees hops).map Query.type, Keeps relation (plan type)) ->
      Keeps relation (hopFilters typeName field path hops)
  | [] => fun _ => .pure h []
  | .mk index query :: hops => by
      intro hplan
      rw [HopQuery.trees, List.map_append] at hplan
      rw [hopFilters]
      have hquery := keeps_clauses h hreport query
        fun type htype => hplan type (List.mem_append_left _ htype)
      have hothers := keeps_hopFilters h hreport typeName field path hops
        fun type htype => hplan type (List.mem_append_right _ htype)
      split
      · exact (hreport _).bind h fun _ => hothers
      · exact hquery.bind h fun members => hothers.map h _

end

theorem keeps_condition
    (h : Composes relation)
    (hreport : ∀ events, Keeps relation (report events))
    {query : Query}
    (hplan : ∀ type ∈ query.types, Keeps relation (plan type)) :
    Keeps relation (condition query) :=
  (keeps_clauses h hreport query hplan).map h conjunction

end

end Session

/-!
# The look-ups of a query
-/

def Act.Within (types : List QueryType) : Act -> Prop
  | .plan type => type ∈ types
  | .layout _ => False
  | _ => True

namespace Act

variable {types more : List QueryType}

theorem Within.mono
    {act : Act}
    (h : act.Within types)
    (hsubset : types ⊆ more) :
    act.Within more := by
  cases act with
  | plan type => exact hsubset h
  | layout entity => exact h
  | misfit typeName field => exact trivial
  | ignoreHop typeName field index path => exact trivial
  | dropKeys faults => exact trivial

theorem within_misfit
    (types : List QueryType) (typeName field : String) :
    ∀ act ∈ [Act.misfit typeName field], act.Within types := by
  intro act hact
  rw [List.mem_singleton.mp hact]
  exact trivial

theorem within_nil
    (types : List QueryType) :
    ∀ act ∈ ([] : List Act), act.Within types := by
  intro act hact
  cases hact

theorem within_append
    {acts others : List Act}
    (h : ∀ act ∈ acts, act.Within types)
    (hothers : ∀ act ∈ others, act.Within more) :
    ∀ act ∈ acts ++ others, act.Within (types ++ more) := by
  intro act hact
  rcases List.mem_append.mp hact with hleft | hright
  · exact (h act hleft).mono (List.subset_append_left _ _)
  · exact (hothers act hright).mono (List.subset_append_right _ _)

theorem within_ofCondition?
    (types : List QueryType) (typeName field : String) (condition? : Option Fragment) :
    ∀ act ∈ ofCondition? typeName field condition?, act.Within types := by
  cases condition? with
  | none => exact within_misfit types typeName field
  | some fragment => exact within_nil types

theorem within_ofValues
    (types : List QueryType) (typeName field column : String) (operator : Operator)
    (values : List Value) :
    ∀ act ∈ ofValues typeName field column operator values, act.Within types := by
  intro act hact
  rcases List.mem_flatMap.mp hact with ⟨value, _, hvalue⟩
  exact within_ofCondition? types typeName field _ act hvalue

theorem within_ofScalar
    (types : List QueryType) (typeName field : String) (step : Step) (value : Value) :
    ∀ act ∈ ofScalar typeName field step value, act.Within types := by
  cases step with
  | compare column operator => exact within_ofCondition? types typeName field _
  | group connective members column operator => exact within_misfit types typeName field
  | flatten => exact within_misfit types typeName field
  | skip => exact within_nil types
  | condition template => exact within_nil types
  | subquery column operator select table => exact within_nil types
  | path path => exact within_nil types

theorem within_ofList
    (types : List QueryType) (typeName field : String) (step : Step) (values : List Value) :
    ∀ act ∈ ofList typeName field step values, act.Within types := by
  have hmisfit := within_misfit types typeName field
  cases step with
  | skip => exact within_nil types
  | compare column operator => exact within_ofCondition? types typeName field _
  | group connective members column operator =>
      cases members with
      | values => exact within_ofValues types typeName field column operator values
      | ofQuery => exact hmisfit
      | queries => exact hmisfit
  | condition template => exact hmisfit
  | subquery column operator select table => exact hmisfit
  | path path => exact hmisfit
  | flatten => exact hmisfit

end Act

section

open Act (within_append within_misfit within_nil within_ofScalar within_ofList)

mutual

theorem Query.acts_within (naming : Naming) : forall query : Query,
    ∀ act ∈ query.acts naming, act.Within query.types
  | .mk typeName fields page => by
      rw [Query.types_mk, Query.acts]
      intro act hact
      rcases List.mem_cons.mp hact with hself | hlater
      · rw [hself]
        exact List.mem_cons_self
      · exact (Field.acts_within naming typeName _ fields act hlater).mono
          (List.subset_cons_self _ _)

theorem Field.acts_within (naming : Naming) (typeName : String) :
    forall (plan : List PlannedField) (fields : List Field),
    ∀ act ∈ Field.acts naming typeName plan fields,
      act.Within ((Field.trees fields).map Query.type)
  | planned :: plan, .mk type content :: fields => by
      rw [Field.acts, Field.trees, List.map_append]
      exact within_append
        (Content.acts_within naming typeName planned.name planned.step content)
        (Field.acts_within naming typeName plan fields)
  | [], fields => by
      cases fields <;>
        exact within_nil _
  | _ :: _, [] => within_nil _

theorem Content.acts_within (naming : Naming) (typeName field : String) (step : Step) :
    forall content : Content,
    ∀ act ∈ content.acts naming typeName field step, act.Within (content.trees.map Query.type)
  | .absent => within_nil _
  | .scalar value => within_ofScalar _ typeName field step value
  | .list values => within_ofList _ typeName field step values
  | .query query => by
      have hquery := Query.acts_within naming query
      have hmisfit := within_misfit query.types typeName field
      cases step with
      | skip => exact within_nil _
      | compare column operator => exact hmisfit
      | group connective members column operator =>
          cases members with
          | ofQuery => exact hquery
          | queries => exact hmisfit
          | values => exact hmisfit
      | condition template => exact hmisfit
      | subquery column operator select table => exact hquery
      | path path => exact hquery
      | flatten => exact hquery
  | .queries queries => by
      have hmisfit := within_misfit ((Query.trees queries).map Query.type) typeName field
      cases step with
      | skip => exact within_nil _
      | group connective members column operator =>
          cases members with
          | queries => exact Query.actsAll_within naming queries
          | ofQuery => exact hmisfit
          | values => exact hmisfit
      | compare column operator => exact hmisfit
      | condition template => exact hmisfit
      | subquery column operator select table => exact hmisfit
      | path path => exact hmisfit
      | flatten => exact hmisfit
  | .path hops => by
      have hmisfit := within_misfit ((HopQuery.trees hops).map Query.type) typeName field
      cases step with
      | skip => exact within_nil _
      | path path => exact HopQuery.acts_within naming typeName field path hops
      | compare column operator => exact hmisfit
      | group connective members column operator => exact hmisfit
      | condition template => exact hmisfit
      | subquery column operator select table => exact hmisfit
      | flatten => exact hmisfit

theorem Query.actsAll_within (naming : Naming) : forall queries : List Query,
    ∀ act ∈ Query.actsAll naming queries, act.Within ((Query.trees queries).map Query.type)
  | [] => within_nil _
  | query :: queries => by
      rw [Query.actsAll, Query.trees, List.map_append]
      exact within_append (Query.acts_within naming query) (Query.actsAll_within naming queries)

theorem HopQuery.acts_within (naming : Naming) (typeName field : String) (path : Path) :
    forall hops : List HopQuery,
    ∀ act ∈ HopQuery.acts naming typeName field path hops,
      act.Within ((HopQuery.trees hops).map Query.type)
  | [] => within_nil _
  | .mk index query :: hops => by
      have hothers := HopQuery.acts_within naming typeName field path hops
      rw [HopQuery.acts, HopQuery.trees, List.map_append]
      split
      · intro act hact
        rcases List.mem_cons.mp hact with hself | hlater
        · rw [hself]
          exact trivial
        · exact (hothers act hlater).mono (List.subset_append_right _ _)
      · exact within_append (Query.acts_within naming query) hothers

end

end

namespace Session

/-!
# What is in the log
-/

/-- Every plan is built from one of the types, and the reports on the fields of this type are in the
log. -/
structure Reported (naming : Naming) (types : List QueryType) (session : Session) : Prop where
  naming_eq : session.naming = naming
  origin : ∀ {name : String} {plan : Plan}, session.plans.find? name = some plan ->
    ∃ type ∈ types, type.name = name ∧ plan = Plan.build naming type ∧
      Plan.reports naming type ⊆ session.log

variable {naming : Naming} {types : List QueryType} {session : Session}

theorem reported_fresh
    (naming : Naming) (types : List QueryType) :
    Reported naming types (fresh naming) := by
  constructor
  · rfl
  · intro name plan h
    cases h

theorem log_subset_perform
    (session : Session) (act : Act) :
    session.log ⊆ (session.perform act).log := by
  rw [log_perform]
  exact List.subset_append_left _ _

theorem Reported.of_plans_eq
    {later : Session}
    (h : Reported naming types session)
    (hnaming : later.naming = session.naming)
    (hplans : later.plans = session.plans)
    (hlog : session.log ⊆ later.log) :
    Reported naming types later := by
  constructor
  · rw [hnaming, h.naming_eq]
  · intro name plan hfound
    rw [hplans] at hfound
    rcases h.origin hfound with ⟨type, htype, hname, hbuild, hreports⟩
    exact ⟨type, htype, hname, hbuild, List.Subset.trans hreports hlog⟩

theorem Reported.plan
    (h : Reported naming types session)
    {type : QueryType}
    (htype : type ∈ types) :
    Reported naming types (after (Session.plan type) session) := by
  cases hfound : session.plans.find? type.name with
  | some found =>
      rw [after_plan_of_some hfound]
      exact h
  | none =>
      rw [after_plan_of_none hfound]
      constructor
      · exact h.naming_eq
      · intro name plan hplan
        have hinstalled : (session.plans.install type.name
            (Plan.build session.naming type)).find? name = some plan := hplan
        rw [Catalog.find?_install] at hinstalled
        cases hbefore : session.plans.find? name with
        | some before =>
            rw [hbefore] at hinstalled
            rcases h.origin (hbefore.trans hinstalled) with ⟨other, hother, hname, hbuild, hreports⟩
            exact ⟨other, hother, hname, hbuild,
              List.Subset.trans hreports (List.subset_append_left _ _)⟩
        | none =>
            rw [hbefore, Option.none_or] at hinstalled
            split at hinstalled
            next hname =>
              cases hinstalled
              rw [h.naming_eq]
              refine ⟨type, htype, hname.symm, rfl, ?_⟩
              exact List.subset_append_of_subset_right _ (List.subset_append_left _ _)
            next => cases hinstalled

theorem Reported.perform
    (h : Reported naming types session)
    {act : Act}
    (hact : act.Within types) :
    Reported naming types (session.perform act) := by
  have hlog := log_subset_perform session act
  cases act with
  | plan type => exact h.plan hact
  | layout entity => exact hact.elim
  | misfit typeName field => exact h.of_plans_eq rfl rfl hlog
  | ignoreHop typeName field index path => exact h.of_plans_eq rfl rfl hlog
  | dropKeys faults => exact h.of_plans_eq rfl rfl hlog

theorem Reported.layout
    (h : Reported naming types session)
    (entity : Entity) :
    Reported naming types (after (Session.layout entity) session) :=
  h.of_plans_eq (naming_perform session (.layout entity)) (plans_after_layout entity session)
    (log_subset_perform session (.layout entity))

theorem reported_reached
    {operations : List Operation}
    (hwithin : operations.flatMap Operation.types ⊆ types)
    (naming : Naming) :
    Reported naming types (reached naming operations) := by
  have hcomposes : Composes fun before after : Session =>
      Reported naming types before -> Reported naming types after :=
    ⟨fun _ => id, fun h h' => h' ∘ h⟩
  have hreport : ∀ events, Keeps (fun before after : Session =>
      Reported naming types before -> Reported naming types after) (report events) := by
    intro events session h
    exact h.of_plans_eq rfl rfl (List.subset_append_left _ _)
  refine keeps_runAll hcomposes ?_ (fresh naming) (reported_fresh naming types)
  intro operation hoperation
  have htypes : ∀ type ∈ operation.types, type ∈ types :=
    fun type htype => hwithin (List.mem_flatMap.mpr ⟨operation, hoperation, htype⟩)
  refine keeps_run hcomposes ?_ ?_ ?_ ?_
  · intro type htype session h
    exact h.plan (htypes type htype)
  · intro entity _ session h
    exact h.layout entity
  · intro query hquery
    exact keeps_condition hcomposes hreport fun type htype session h =>
      h.plan (htypes type (hquery htype))
  · exact keeps_orderBy hcomposes hreport

/-!
# Acts that are recorded
-/

def Recorded (naming : Naming) (log : List Event) : Act -> Prop
  | .plan type => Plan.reports naming type ⊆ log
  | .misfit typeName field => .contentMisfit typeName field ∈ log
  | _ => True

theorem Reported.serves
    (h : Reported naming types session)
    (huniform : Shelf.plans.Uniform types)
    {type : QueryType}
    (htype : type ∈ types) :
    session.planOf type = Plan.build naming type := by
  unfold planOf
  rw [h.naming_eq]
  cases hfound : session.plans.find? type.name with
  | none => rfl
  | some found =>
      rcases h.origin hfound with ⟨other, hother, hname, hbuild, _⟩
      rw [hbuild, huniform other hother type htype hname]
      rfl

theorem Reported.follows
    (h : Reported naming types session)
    (huniform : Shelf.plans.Uniform types)
    {acts : List Act}
    (hacts : ∀ act ∈ acts, act.Within types) :
    Follows naming session acts := by
  induction acts generalizing session with
  | nil => exact trivial
  | cons act acts ih =>
      have hact := hacts act List.mem_cons_self
      refine ⟨?_, ih (h.perform hact) fun other hother =>
        hacts other (List.mem_cons_of_mem act hother)⟩
      cases act with
      | plan type => exact h.serves huniform hact
      | layout entity => exact hact.elim
      | misfit typeName field => exact h.naming_eq
      | ignoreHop typeName field index path => exact h.naming_eq
      | dropKeys faults => exact h.naming_eq

theorem log_subset_performAll
    (session : Session) (acts : List Act) :
    session.log ⊆ (session.performAll acts).log := by
  induction acts generalizing session with
  | nil => exact List.Subset.refl _
  | cons act acts ih => exact List.Subset.trans (log_subset_perform session act) (ih _)

theorem Recorded.mono
    {log later : List Event} {act : Act}
    (h : Recorded naming log act)
    (hlog : log ⊆ later) :
    Recorded naming later act := by
  cases act with
  | plan type => exact List.Subset.trans h hlog
  | layout entity => exact trivial
  | misfit typeName field => exact hlog h
  | ignoreHop typeName field index path => exact trivial
  | dropKeys faults => exact trivial

theorem Reported.recorded_perform
    (h : Reported naming types session)
    (huniform : Shelf.plans.Uniform types)
    {act : Act}
    (hact : act.Within types) :
    Recorded naming (session.perform act).log act := by
  cases act with
  | plan type =>
      have hafter := h.plan hact
      have hinstalled : (after (Session.plan type) session).plans.find? type.name =
          some (session.planOf type) := by
        rw [plans_after_plan, Catalog.find?_install, if_pos rfl]
        unfold planOf
        cases session.plans.find? type.name <;> rfl
      rcases hafter.origin hinstalled with ⟨other, hother, hname, _, hreports⟩
      rw [huniform other hother type hact hname] at hreports
      exact hreports
  | layout entity => exact trivial
  | misfit typeName field => exact List.mem_append_right _ (List.mem_singleton_self _)
  | ignoreHop typeName field index path => exact trivial
  | dropKeys faults => exact trivial

theorem Reported.recorded_performAll
    (h : Reported naming types session)
    (huniform : Shelf.plans.Uniform types)
    {acts : List Act}
    (hacts : ∀ act ∈ acts, act.Within types) :
    ∀ act ∈ acts, Recorded naming (session.performAll acts).log act := by
  induction acts generalizing session with
  | nil =>
      intro act hact
      cases hact
  | cons first acts ih =>
      have hfirst := hacts first List.mem_cons_self
      intro act hact
      rcases List.mem_cons.mp hact with hself | hlater
      · rw [hself]
        exact (h.recorded_perform huniform hfirst).mono (log_subset_performAll _ acts)
      · exact ih (h.perform hfirst) (fun other hother =>
          hacts other (List.mem_cons_of_mem first hother)) act hlater

theorem Reported.condition
    (h : Reported naming types session)
    (huniform : Shelf.plans.Uniform types)
    {query : Query}
    (hquery : query.types ⊆ types) :
    answer (Session.condition query) session =
        conjunction (query.clausesBy (Plan.build naming)) ∧
      ∀ act ∈ query.acts naming,
        Recorded naming (after (Session.condition query) session).log act := by
  have hacts : ∀ act ∈ query.acts naming, act.Within types :=
    fun act hact => (query.acts_within naming act hact).mono hquery
  have hfollows := h.follows huniform hacts
  have hperforms := performs_condition naming query
  refine ⟨hperforms.answer_eq hfollows, ?_⟩
  rw [hperforms.after_eq hfollows]
  exact h.recorded_performAll huniform hacts

end Session
end Criteria
