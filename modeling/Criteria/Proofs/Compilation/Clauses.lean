import Criteria.Proofs.Compilation.Contributions

/-!
# Properties of all clauses

A property of fragments that plain contents give, and that groups, subqueries and paths hand on from
the clauses inside them to their own fragment, holds of all clauses of a query.  One induction over
the tree serves all such properties.
-/

namespace Criteria

def Clauses.All (good : Fragment -> Prop) (clauses : Clauses) : Prop :=
  ∀ fragment ∈ clauses.parts, good fragment

/-- What steps that are `ok` have to give and hand on. -/
structure HandsOn (ok : Step -> Prop) (good : Fragment -> Prop) : Prop where
  compare : ∀ {column : String} {operator : Operator} {value : Value},
    ok (.compare column operator) ->
      (Clauses.ofCondition? (operator.condition? column value)).All good
  template : ∀ {template : String} {value : Value},
    ok (.condition template) -> (Clauses.single (Session.templateClause template value)).All good
  list : ∀ {column : String} {operator : Operator} {values : List Value},
    ok (.compare column operator) ->
      (Clauses.ofCondition? (operator.listCondition? column values)).All good
  values : ∀ {connective : Connective} {column : String} {operator : Operator}
    {values : List Value},
    ok (.group connective .values column operator) ->
      (Clauses.ofValues column operator values).All good
  group : ∀ {connective : Connective} {members : Clauses},
    members.parts ≠ [] -> members.All good -> good (members.group connective.separator)
  subquery : ∀ {column : String} {operator : Operator} {select table : String}
    {members : Clauses},
    ok (.subquery column operator select table) -> members.All good ->
      good (Session.subqueryClause column operator select table (Session.conjunction members))
  path : ∀ {path : Path} {filters : List (Nat × Clauses)},
    ok (.path path) -> (∀ filter ∈ filters, filter.2.All good) ->
      good (path.compile
        (filters.map fun filter => (filter.1, Session.conjunction filter.2)))

namespace Clauses

variable {good : Fragment -> Prop}

theorem all_empty :
    empty.All good := by
  intro fragment h
  cases h

theorem All.append
    {c d : Clauses}
    (hc : c.All good)
    (hd : d.All good) :
    (c ++ d).All good := by
  intro fragment h
  rcases List.mem_append.mp h with hleft | hright
  · exact hc fragment hleft
  · exact hd fragment hright

theorem all_single
    {fragment : Fragment}
    (h : good fragment) :
    (single fragment).All good := by
  unfold single
  split
  · exact all_empty
  · intro other hother
    rwa [List.mem_singleton.mp hother]

theorem single_group_of_parts_eq_nil
    {members : Clauses} {separator : String}
    (h : members.parts = []) :
    single (members.group separator) = empty := by
  have hgroup : members.group separator = ⟨"", []⟩ := by
    simp [group, size, join, h, Text.joinWith]
  rw [hgroup]
  rfl

theorem all_single_group
    {members : Clauses} {separator : String}
    (h : members.parts ≠ [] -> good (members.group separator)) :
    (single (members.group separator)).All good := by
  by_cases hparts : members.parts = []
  · rw [single_group_of_parts_eq_nil hparts]
    exact all_empty
  · exact all_single (h hparts)

theorem all_ofCondition?
    {condition? : Option Fragment}
    (h : ∀ fragment ∈ condition?, good fragment) :
    (ofCondition? condition?).All good := by
  cases condition? with
  | none => exact all_empty
  | some fragment => exact all_single (h fragment rfl)

theorem all_ofValues
    {column : String} {operator : Operator} {values : List Value}
    (h : ∀ value ∈ values, ∀ fragment ∈ operator.condition? column value, good fragment) :
    (ofValues column operator values).All good := by
  induction values with
  | nil => exact all_empty
  | cons value values ih =>
      refine All.append (all_ofCondition? (h value List.mem_cons_self)) (ih ?_)
      intro other hother
      exact h other (List.mem_cons_of_mem value hother)

end Clauses

namespace HandsOn

open Clauses

variable {ok : Step -> Prop} {good : Fragment -> Prop}

theorem single_group
    (h : HandsOn ok good)
    {connective : Connective} {members : Clauses}
    (hmembers : members.All good) :
    (single (members.group connective.separator)).All good :=
  all_single_group fun hne => h.group hne hmembers

theorem all_ofScalar
    (h : HandsOn ok good)
    {step : Step} {value : Value}
    (hstep : ok step) :
    (step.ofScalar value).All good := by
  cases step with
  | compare column operator => exact h.compare hstep
  | condition template => exact h.template hstep
  | subquery column operator select table =>
      have hgood := h.subquery hstep all_empty
      rw [show Session.conjunction empty = Fragment.empty from rfl] at hgood
      exact all_single hgood
  | path path =>
      have hfilters : ∀ filter ∈ ([] : List (Nat × Clauses)), filter.2.All good := by
        intro filter hfilter
        cases hfilter
      have hgood := h.path hstep hfilters
      rw [List.map_nil] at hgood
      exact all_single hgood
  | skip => exact all_empty
  | group connective members column operator => exact all_empty
  | flatten => exact all_empty

theorem all_ofList
    (h : HandsOn ok good)
    {step : Step} {values : List Value}
    (hstep : ok step) :
    (step.ofList values).All good := by
  cases step with
  | compare column operator => exact h.list hstep
  | group connective members column operator =>
      cases members with
      | values => exact h.single_group (h.values hstep)
      | ofQuery => exact all_empty
      | queries => exact all_empty
  | skip => exact all_empty
  | condition template => exact all_empty
  | subquery column operator select table => exact all_empty
  | path path => exact all_empty
  | flatten => exact all_empty

theorem single_path
    (h : HandsOn ok good)
    {path : Path} {members : Clauses}
    (hstep : ok (.path path))
    (hmembers : members.All good) :
    (single (path.compile [(path.length, Session.conjunction members)])).All good := by
  have hfilters : ∀ filter ∈ [(path.length, members)], filter.2.All good := by
    intro filter hfilter
    rwa [List.mem_singleton.mp hfilter]
  have hgood := h.path hstep hfilters
  rw [List.map_singleton] at hgood
  exact all_single hgood

/-!
# The induction over the tree
-/

mutual

theorem all_clauses (h : HandsOn ok good) (plans : Planning) : forall query : Query,
    (∀ type ∈ query.types, ∀ planned ∈ (plans type).fields, ok planned.step) ->
      (query.clausesBy plans).All good
  | .mk typeName fields page => by
      intro hplans
      rw [Query.types_mk] at hplans
      exact all_fieldContributions h plans _ fields (hplans _ List.mem_cons_self)
        fun type htype => hplans type (List.mem_cons_of_mem _ htype)

theorem all_fieldContributions (h : HandsOn ok good) (plans : Planning) :
    forall (plan : List PlannedField) (fields : List Field),
    (∀ planned ∈ plan, ok planned.step) ->
    (∀ type ∈ (Field.trees fields).map Query.type, ∀ planned ∈ (plans type).fields,
      ok planned.step) ->
      (Clauses.concat (Field.contributions plans plan fields)).All good
  | planned :: plan, .mk type content :: fields => by
      intro hplan hplans
      rw [Field.trees, List.map_append] at hplans
      have hhere := all_contribution h plans planned.step content (hplan planned List.mem_cons_self)
        fun type htype => hplans type (List.mem_append_left _ htype)
      have hothers := all_fieldContributions h plans plan fields
        (fun other hother => hplan other (List.mem_cons_of_mem planned hother))
        fun type htype => hplans type (List.mem_append_right _ htype)
      rw [Field.contributions, Clauses.concat_cons]
      exact hhere.append hothers
  | [], fields => by
      intro _ _
      cases fields <;>
        exact all_empty
  | _ :: _, [] => fun _ _ => all_empty

theorem all_contribution (h : HandsOn ok good) (plans : Planning) (step : Step) :
    forall content : Content,
    ok step ->
    (∀ type ∈ content.trees.map Query.type, ∀ planned ∈ (plans type).fields, ok planned.step) ->
      (content.contribution plans step).All good
  | .absent => fun _ _ => all_empty
  | .scalar _ => fun hstep _ => h.all_ofScalar hstep
  | .list _ => fun hstep _ => h.all_ofList hstep
  | .query query => by
      intro hstep hplans
      have hmembers := all_clauses h plans query hplans
      cases step with
      | flatten => exact hmembers
      | group connective members column operator =>
          cases members with
          | ofQuery => exact h.single_group hmembers
          | queries => exact all_empty
          | values => exact all_empty
      | subquery column operator select table =>
          exact all_single (h.subquery hstep hmembers)
      | path path =>
          exact h.single_path hstep hmembers
      | skip => exact all_empty
      | compare column operator => exact all_empty
      | condition template => exact all_empty
  | .queries queries => by
      intro hstep hplans
      cases step with
      | group connective members column operator =>
          cases members with
          | queries => exact h.single_group (all_members h plans queries hplans)
          | ofQuery => exact all_empty
          | values => exact all_empty
      | skip => exact all_empty
      | compare column operator => exact all_empty
      | condition template => exact all_empty
      | subquery column operator select table => exact all_empty
      | path path => exact all_empty
      | flatten => exact all_empty
  | .path hops => by
      intro hstep hplans
      cases step with
      | path path =>
          rcases filters_eq_map h plans path hops hplans with ⟨filters, heq, hfilters⟩
          show (single (path.compile (HopQuery.filters plans path hops))).All good
          rw [heq]
          exact all_single (h.path hstep hfilters)
      | skip => exact all_empty
      | compare column operator => exact all_empty
      | group connective members column operator => exact all_empty
      | condition template => exact all_empty
      | subquery column operator select table => exact all_empty
      | flatten => exact all_empty

theorem all_members (h : HandsOn ok good) (plans : Planning) : forall queries : List Query,
    (∀ type ∈ (Query.trees queries).map Query.type, ∀ planned ∈ (plans type).fields,
      ok planned.step) ->
      (Query.members plans queries).All good
  | [] => fun _ => all_empty
  | query :: queries => by
      intro hplans
      rw [Query.trees, List.map_append] at hplans
      have hmembers := all_clauses h plans query
        fun type htype => hplans type (List.mem_append_left _ htype)
      have hothers := all_members h plans queries
        fun type htype => hplans type (List.mem_append_right _ htype)
      exact (h.single_group hmembers).append hothers

theorem filters_eq_map (h : HandsOn ok good) (plans : Planning) (path : Path) :
    forall hops : List HopQuery,
    (∀ type ∈ (HopQuery.trees hops).map Query.type, ∀ planned ∈ (plans type).fields,
      ok planned.step) ->
      ∃ filters : List (Nat × Clauses),
        HopQuery.filters plans path hops =
            filters.map (fun filter => (filter.1, Session.conjunction filter.2)) ∧
          ∀ filter ∈ filters, filter.2.All good
  | [] => fun _ => ⟨[], rfl, by simp⟩
  | .mk index query :: hops => by
      intro hplans
      rw [HopQuery.trees, List.map_append] at hplans
      have hquery := all_clauses h plans query
        fun type htype => hplans type (List.mem_append_left _ htype)
      rcases filters_eq_map h plans path hops
        fun type htype => hplans type (List.mem_append_right _ htype) with ⟨others, heq, hothers⟩
      rw [HopQuery.filters, heq]
      split
      · exact ⟨others, rfl, hothers⟩
      · refine ⟨(index, query.clausesBy plans) :: others, rfl, ?_⟩
        intro filter hfilter
        rcases List.mem_cons.mp hfilter with hfirst | hlater
        · rwa [hfirst]
        · exact hothers filter hlater

end
end HandsOn
end Criteria
