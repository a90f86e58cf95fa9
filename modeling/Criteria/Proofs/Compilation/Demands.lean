import Criteria.Proofs.Compilation.Reports
import Criteria.Proofs.Parentheses.Conditions

/-!
# Demands for a condition

The contents of a query that are present ask for a condition.  If a query makes none, each of them
belongs to a condition field with an empty template or to a field about which there is a warning; so
no deletion or update loses its condition in silence.
-/

namespace Criteria

/-!
# What asks for a condition
-/

structure Demand where
  typeName : String
  field : FieldType
deriving DecidableEq

mutual

/-- The fields of a query whose contents ask for a condition.  Queries that are flattened or grouped
ask in their own right, and so do the values of a group. -/
def Query.demands : Query -> List Demand
  | .mk typeName fields _ => Field.demands typeName fields

def Field.demands (typeName : String) : List Field -> List Demand
  | [] => []
  | .mk type content :: fields =>
      if type.kind = .page then
        Field.demands typeName fields
      else
        content.demands typeName type ++ Field.demands typeName fields

def Content.demands (typeName : String) (type : FieldType) : Content -> List Demand
  | .absent => []
  | .scalar _ => [⟨typeName, type⟩]
  | .list values =>
      match type.kind with
      | .group _ .values => values.map fun _ => ⟨typeName, type⟩
      | _ => [⟨typeName, type⟩]
  | .query query =>
      match type.kind with
      | .flatten | .group _ .ofQuery => query.demands
      | _ => [⟨typeName, type⟩]
  | .queries queries =>
      match type.kind with
      | .group _ .queries => Query.demandsAll queries
      | _ => [⟨typeName, type⟩]
  | .path _ => [⟨typeName, type⟩]

def Query.demandsAll : List Query -> List Demand
  | [] => []
  | query :: queries => query.demands ++ Query.demandsAll queries

end

def Warned (log : List Event) (typeName field : String) : Prop :=
  ∃ event ∈ log, event.level = .warn ∧
    ("type_name", typeName) ∈ event.particulars ∧ ("field", field) ∈ event.particulars

namespace Demand

/-- Why a content may make no condition. -/
def Excused (log : List Event) (demand : Demand) : Prop :=
  demand.field.kind = .condition "" ∨ Warned log demand.typeName demand.field.name

end Demand

theorem warned_of_misfit
    {log : List Event} {typeName field : String}
    (h : Event.contentMisfit typeName field ∈ log) :
    Warned log typeName field :=
  ⟨_, h, rfl, by simp [Event.particulars], by simp [Event.particulars]⟩

theorem warned_of_skipped
    {log : List Event} {typeName field : String} {fault : Fault}
    (h : Event.fieldSkipped typeName field fault ∈ log) :
    Warned log typeName field :=
  ⟨_, h, rfl, by simp [Event.particulars], by simp [Event.particulars]⟩

/-!
# Conditions that are not empty
-/

namespace Fragment

theorem nonempty_of_mem
    {f : Fragment} {c : Char}
    (h : c ∈ f.sql.toList) :
    f.Nonempty := by
  intro hempty
  rw [hempty] at h
  cases h

end Fragment

namespace Clauses

theorem single_parts_ne_nil
    {f : Fragment}
    (h : f.Nonempty) :
    (single f).parts ≠ [] := by
  rw [parts_single h]
  exact List.cons_ne_nil f []

theorem parts_eq_nil_of_single_group
    {members : Clauses} {separator : String}
    (hnonempty : members.All Fragment.Nonempty)
    (h : (single (members.group separator)).parts = []) :
    members.parts = [] := by
  by_cases hne : members.parts = []
  · exact hne
  · exact absurd h (single_parts_ne_nil (nonempty_group hne hnonempty separator))

end Clauses

namespace Operator

theorem nonempty_attach
    {operator : Operator} {operand : Fragment}
    (h : operator = .null -> ' ' ∈ operand.sql.toList)
    (column : String) :
    (operator.attach column operand).Nonempty := by
  have hsign : ∀ sign : String,
      (Fragment.text (column ++ " " ++ sign ++ " ") ++ operand).Nonempty := by
    intro sign
    refine Fragment.nonempty_of_mem (c := ' ') ?_
    simp [Fragment.text]
  cases operator with
  | null =>
      refine Fragment.nonempty_of_mem (c := ' ') ?_
      show ' ' ∈ (column ++ operand.sql).toList
      rw [String.toList_append]
      exact List.mem_append_right _ (h rfl)
  | _ => exact hsign _

theorem nonempty_condition?
    {operator : Operator} {column : String} {value : Value} {fragment : Fragment}
    (h : operator.condition? column value = some fragment) :
    fragment.Nonempty := by
  rcases Option.map_eq_some_iff.mp h with ⟨operand, hoperand, heq⟩
  rw [← heq]
  refine nonempty_attach ?_ column
  intro hnull
  rcases operand?_cases hoperand with ⟨_, hnullTest | hnotNull⟩ | ⟨hne, _⟩
  · rw [hnullTest]
    decide
  · rw [hnotNull]
    decide
  · exact absurd hnull hne

theorem nonempty_listCondition?
    {operator : Operator} {column : String} {values : List Value} {fragment : Fragment}
    (h : operator.listCondition? column values = some fragment) :
    fragment.Nonempty := by
  unfold listCondition? at h
  split at h
  next htakes =>
    rw [← Option.some.inj h]
    refine nonempty_attach ?_ column
    intro hnull
    rw [hnull] at htakes
    cases htakes
  next =>
    split at h
    next value => exact nonempty_condition? h
    next => cases h

end Operator

/-!
# What a field is planned as
-/

namespace Step

inductive Plans : Kind -> Step -> Prop where
  | flatten : Plans .flatten .flatten
  | group (connective : Connective) (members : Members) (column : String) (operator : Operator) :
      Plans (.group connective members) (.group connective members column operator)
  | compare (column : String) (operator : Operator) : Plans .scalar (.compare column operator)
  | condition (template : String) : Plans (.condition template) (.condition template)
  | subquery (raw column : String) (operator : Operator) (select table : String) :
      Plans (.subquery raw) (.subquery column operator select table)
  | path (raw : String) (path : Path) : Plans (.path raw) (.path path)

theorem plans_ofField
    {naming : Naming} {typeName : String} {field : FieldType} {step : Step}
    (h : ofField naming typeName field = .ok step)
    (hpage : field.kind ≠ .page) :
    Plans field.kind step := by
  unfold ofField at h
  cases hkind : field.kind with
  | page => exact absurd hkind hpage
  | unsupported reason =>
      rw [hkind] at h
      cases h
  | flatten =>
      rw [hkind] at h
      cases h
      exact .flatten
  | scalar =>
      rw [hkind] at h
      cases h
      exact .compare _ _
  | group connective members =>
      rw [hkind] at h
      cases h
      exact .group connective members _ _
  | condition template =>
      rw [hkind] at h
      cases h
      exact .condition template
  | subquery raw =>
      rw [hkind] at h
      simp only [ofSubquery] at h
      split at h
      · cases h
      · split at h
        · cases h
        · cases h
          exact .subquery raw _ _ _ _
  | path raw =>
      rw [hkind] at h
      cases hparse : Path.parse naming raw with
      | error fault =>
          simp only [hparse] at h
          cases h
      | ok path =>
          simp only [hparse] at h
          cases h
          exact .path raw path

theorem demand_eq_of_error
    {naming : Naming} {typeName : String} {type : FieldType} {fault : Fault} {content : Content}
    {demand : Demand}
    (h : ofField naming typeName type = .error fault)
    (hdemand : demand ∈ content.demands typeName type) :
    demand = ⟨typeName, type⟩ := by
  have hflatten : type.kind ≠ .flatten := by
    intro hkind
    simp [ofField, hkind] at h
  have hgroup : ∀ connective members, type.kind ≠ .group connective members := by
    intro connective members hkind
    simp [ofField, hkind] at h
  cases content with
  | absent => cases hdemand
  | scalar value => exact List.mem_singleton.mp hdemand
  | path hops => exact List.mem_singleton.mp hdemand
  | list values =>
      rw [Content.demands] at hdemand
      split at hdemand
      next connective hkind => exact absurd hkind (hgroup _ _)
      next => exact List.mem_singleton.mp hdemand
  | query query =>
      rw [Content.demands] at hdemand
      split at hdemand
      next hkind => exact absurd hkind hflatten
      next connective hkind => exact absurd hkind (hgroup _ _)
      next => exact List.mem_singleton.mp hdemand
  | queries queries =>
      rw [Content.demands] at hdemand
      split at hdemand
      next connective hkind => exact absurd hkind (hgroup _ _)
      next => exact List.mem_singleton.mp hdemand

end Step

/-!
# Contents that make no condition
-/

namespace Demand

open Session (Recorded)

variable {naming : Naming} {log : List Event} {typeName : String}

theorem excused_of_misfit
    {type : FieldType}
    (h : ∀ act ∈ [Act.misfit typeName type.name], Recorded naming log act) :
    Excused log ⟨typeName, type⟩ :=
  Or.inr (warned_of_misfit (h _ (List.mem_singleton_self _)))

theorem excused_of_sole
    {type : FieldType} {demand : Demand}
    (hsole : demand ∈ [⟨typeName, type⟩])
    (h : ∀ act ∈ [Act.misfit typeName type.name], Recorded naming log act) :
    Excused log demand := by
  rw [List.mem_singleton.mp hsole]
  exact excused_of_misfit h

theorem excused_of_condition?
    {type : FieldType} {condition? : Option Fragment}
    (hnonempty : ∀ fragment, condition? = some fragment -> fragment.Nonempty)
    (hparts : (Clauses.ofCondition? condition?).parts = [])
    (hacts : ∀ act ∈ Act.ofCondition? typeName type.name condition?, Recorded naming log act) :
    Excused log ⟨typeName, type⟩ := by
  cases condition? with
  | none => exact excused_of_misfit hacts
  | some fragment => exact absurd hparts (Clauses.single_parts_ne_nil (hnonempty fragment rfl))

theorem nonempty_compile
    (path : Path) (filters : Filters) :
    (path.compile filters).Nonempty := by
  rw [Path.compile_eq_selected]
  exact Fragment.nonempty_append_text _

theorem excused_scalar
    {type : FieldType} {step : Step} {value : Value}
    (hplans : Step.Plans type.kind step)
    (hparts : (step.ofScalar value).parts = [])
    (hacts : ∀ act ∈ Act.ofScalar typeName type.name step value, Recorded naming log act) :
    Excused log ⟨typeName, type⟩ := by
  generalize hkind : type.kind = kind at hplans
  cases hplans with
  | flatten => exact excused_of_misfit hacts
  | group connective members column operator => exact excused_of_misfit hacts
  | compare column operator =>
      exact excused_of_condition? (fun _ => Operator.nonempty_condition?) hparts hacts
  | condition template =>
      by_cases hempty : template = ""
      · rw [hempty] at hkind
        exact Or.inl hkind
      · exact absurd hparts (Clauses.single_parts_ne_nil hempty)
  | subquery raw column operator select table =>
      exact absurd hparts (Clauses.single_parts_ne_nil (Fragment.nonempty_append_text _))
  | path raw path => exact absurd hparts (Clauses.single_parts_ne_nil (nonempty_compile path []))

theorem excused_value
    {type : FieldType} {column : String} {operator : Operator} {values : List Value}
    (hparts : (Clauses.ofValues column operator values).parts = [])
    (hacts : ∀ act ∈ Act.ofValues typeName type.name column operator values,
      Recorded naming log act)
    (hvalues : values ≠ []) :
    Excused log ⟨typeName, type⟩ := by
  cases values with
  | nil => exact absurd rfl hvalues
  | cons value values =>
      have hfirst : (Clauses.ofCondition? (operator.condition? column value)).parts = [] :=
        (List.append_eq_nil_iff.mp hparts).left
      have hhere : ∀ act ∈ Act.ofCondition? typeName type.name (operator.condition? column value),
          Recorded naming log act :=
        fun act hact => hacts act (List.mem_append_left _ hact)
      exact excused_of_condition? (fun _ => Operator.nonempty_condition?) hfirst hhere

theorem excused_list
    {type : FieldType} {step : Step} {values : List Value}
    (hplans : Step.Plans type.kind step)
    (hparts : (step.ofList values).parts = [])
    (hacts : ∀ act ∈ Act.ofList typeName type.name step values, Recorded naming log act) :
    ∀ demand ∈ (Content.list values).demands typeName type, demand.Excused log := by
  intro demand hdemand
  have hself : demand = ⟨typeName, type⟩ := by
    rw [Content.demands] at hdemand
    split at hdemand
    · rcases List.mem_map.mp hdemand with ⟨_, _, heq⟩
      exact heq.symm
    · exact List.mem_singleton.mp hdemand
  rw [hself]
  rw [Content.demands] at hdemand
  generalize type.kind = kind at hplans hdemand
  cases hplans with
  | group connective members column operator =>
      cases members with
      | ofQuery => exact excused_of_misfit hacts
      | queries => exact excused_of_misfit hacts
      | values =>
          have hmembers : (Clauses.ofValues column operator values).parts = [] :=
            Clauses.parts_eq_nil_of_single_group (Clauses.nonempty_ofValues _ _ _) hparts
          refine excused_value hmembers hacts ?_
          intro hnil
          rw [hnil] at hdemand
          cases hdemand
  | compare column operator =>
      exact excused_of_condition? (fun _ => Operator.nonempty_listCondition?) hparts hacts
  | flatten => exact excused_of_misfit hacts
  | condition template => exact excused_of_misfit hacts
  | subquery raw column operator select table => exact excused_of_misfit hacts
  | path raw path => exact excused_of_misfit hacts

/-!
# Queries that make no condition
-/

theorem nonempty_clauses
    (plans : Planning) (query : Query) :
    (query.clausesBy plans).All Fragment.Nonempty :=
  handsOn_nonempty.all_clauses plans query fun _ _ _ _ => trivial

theorem nonempty_members
    (plans : Planning) (queries : List Query) :
    (Query.members plans queries).All Fragment.Nonempty :=
  handsOn_nonempty.all_members plans queries fun _ _ _ _ => trivial

mutual

theorem excused_query (naming : Naming) (log : List Event) : forall query : Query,
    (query.clausesBy (Plan.build naming)).parts = [] ->
    (∀ act ∈ query.acts naming, Recorded naming log act) ->
      ∀ demand ∈ query.demands, demand.Excused log
  | .mk typeName fields page => by
      intro hparts hacts
      rw [Query.acts] at hacts
      have hreports : Plan.reports naming ⟨typeName, fields.map Field.type⟩ ⊆ log :=
        hacts _ List.mem_cons_self
      refine excused_fields naming log typeName fields ?_ hparts
        fun act hact => hacts act (List.mem_cons_of_mem _ hact)
      intro field hfield fault hfault
      refine hreports (List.mem_filterMap.mpr ⟨field.type, List.mem_map_of_mem hfield, ?_⟩)
      rw [hfault]

theorem excused_fields (naming : Naming) (log : List Event) (typeName : String) :
    forall fields : List Field,
    (∀ field ∈ fields, ∀ fault, Step.ofField naming typeName field.type = .error fault ->
      .fieldSkipped typeName field.type.name fault ∈ log) ->
    (Clauses.concat (Field.contributions (Plan.build naming)
      (Plan.build naming ⟨typeName, fields.map Field.type⟩).fields fields)).parts = [] ->
    (∀ act ∈ Field.acts naming typeName
      (Plan.build naming ⟨typeName, fields.map Field.type⟩).fields fields,
        Recorded naming log act) ->
      ∀ demand ∈ Field.demands typeName fields, demand.Excused log
  | [] => by
      intro _ _ _ demand hdemand
      cases hdemand
  | .mk type content :: fields => by
      intro hfaults hparts hacts demand hdemand
      have hboth := List.append_eq_nil_iff.mp hparts
      have hlater := excused_fields naming log typeName fields
        (fun field hfield => hfaults field (List.mem_cons_of_mem _ hfield)) hboth.right
        fun act hact => hacts act (List.mem_append_right _ hact)
      rw [Field.demands] at hdemand
      split at hdemand
      · exact hlater demand hdemand
      next hpage =>
        rcases List.mem_append.mp hdemand with hhere | hin
        · cases hstep : Step.ofField naming typeName type with
          | error fault =>
              rw [Step.demand_eq_of_error hstep hhere]
              exact Or.inr (warned_of_skipped (hfaults _ List.mem_cons_self fault hstep))
          | ok step =>
              have hplanned : Step.orSkip (Step.ofField naming typeName type) = step := by
                rw [hstep]
                rfl
              have hfirst : (content.contribution (Plan.build naming)
                  (Step.orSkip (Step.ofField naming typeName type))).parts = [] := hboth.left
              have hown : ∀ act ∈ content.acts naming typeName type.name
                  (Step.orSkip (Step.ofField naming typeName type)), Recorded naming log act :=
                fun act hact => hacts act (List.mem_append_left _ hact)
              rw [hplanned] at hfirst hown
              exact excused_content naming log typeName type step
                (Step.plans_ofField hstep hpage) content hfirst hown demand hhere
        · exact hlater demand hin

theorem excused_content (naming : Naming) (log : List Event) (typeName : String)
    (type : FieldType) (step : Step) (hplans : Step.Plans type.kind step) :
    forall content : Content,
    (content.contribution (Plan.build naming) step).parts = [] ->
    (∀ act ∈ content.acts naming typeName type.name step, Recorded naming log act) ->
      ∀ demand ∈ content.demands typeName type, demand.Excused log
  | .absent => by
      intro _ _ demand hdemand
      cases hdemand
  | .scalar value => by
      intro hparts hacts demand hdemand
      rw [List.mem_singleton.mp hdemand]
      exact excused_scalar hplans hparts hacts
  | .list values => excused_list hplans
  | .query query => by
      intro hparts hacts demand hdemand
      have hquery := excused_query naming log query
      rw [Content.demands] at hdemand
      generalize type.kind = kind at hplans hdemand
      cases hplans with
      | flatten => exact hquery hparts hacts demand hdemand
      | group connective members column operator =>
          cases members with
          | ofQuery =>
              exact hquery (Clauses.parts_eq_nil_of_single_group (nonempty_clauses _ query) hparts)
                hacts demand hdemand
          | queries => exact excused_of_sole hdemand hacts
          | values => exact excused_of_sole hdemand hacts
      | compare column operator => exact excused_of_sole hdemand hacts
      | condition template => exact excused_of_sole hdemand hacts
      | subquery raw column operator select table =>
          exact absurd hparts (Clauses.single_parts_ne_nil (Fragment.nonempty_append_text _))
      | path raw path => exact absurd hparts (Clauses.single_parts_ne_nil (nonempty_compile _ _))
  | .queries queries => by
      intro hparts hacts demand hdemand
      rw [Content.demands] at hdemand
      generalize type.kind = kind at hplans hdemand
      cases hplans with
      | group connective members column operator =>
          cases members with
          | queries =>
              exact excused_queries naming log queries
                (Clauses.parts_eq_nil_of_single_group (nonempty_members _ queries) hparts)
                hacts demand hdemand
          | ofQuery => exact excused_of_sole hdemand hacts
          | values => exact excused_of_sole hdemand hacts
      | flatten => exact excused_of_sole hdemand hacts
      | compare column operator => exact excused_of_sole hdemand hacts
      | condition template => exact excused_of_sole hdemand hacts
      | subquery raw column operator select table => exact excused_of_sole hdemand hacts
      | path raw path => exact excused_of_sole hdemand hacts
  | .path hops => by
      intro hparts hacts demand hdemand
      rw [List.mem_singleton.mp hdemand]
      generalize type.kind = kind at hplans
      cases hplans with
      | path raw path => exact absurd hparts (Clauses.single_parts_ne_nil (nonempty_compile _ _))
      | flatten => exact excused_of_misfit hacts
      | group connective members column operator => exact excused_of_misfit hacts
      | compare column operator => exact excused_of_misfit hacts
      | condition template => exact excused_of_misfit hacts
      | subquery raw column operator select table => exact excused_of_misfit hacts

theorem excused_queries (naming : Naming) (log : List Event) : forall queries : List Query,
    (Query.members (Plan.build naming) queries).parts = [] ->
    (∀ act ∈ Query.actsAll naming queries, Recorded naming log act) ->
      ∀ demand ∈ Query.demandsAll queries, demand.Excused log
  | [] => by
      intro _ _ demand hdemand
      cases hdemand
  | query :: queries => by
      intro hparts hacts demand hdemand
      have hboth := List.append_eq_nil_iff.mp hparts
      rcases List.mem_append.mp hdemand with hhere | hlater
      · exact excused_query naming log query
          (Clauses.parts_eq_nil_of_single_group (nonempty_clauses _ query) hboth.left)
          (fun act hact => hacts act (List.mem_append_left _ hact)) demand hhere
      · exact excused_queries naming log queries hboth.right
          (fun act hact => hacts act (List.mem_append_right _ hact)) demand hlater

end

end Demand

/-!
# Statements without a condition
-/

namespace Session

def HasCondition (head : String) (statement : Fragment) : Prop :=
  (head ++ " WHERE ").toList <+: statement.sql.toList

theorem hasCondition_of_nonempty
    {condition : Fragment}
    (h : condition.Nonempty)
    (head : Fragment) :
    HasCondition head.sql (head ++ condition.asWhere) := by
  have htext : condition.isEmpty ≠ true := by
    intro hempty
    exact h (eq_of_beq hempty)
  unfold HasCondition Fragment.asWhere
  rw [if_neg htext, Fragment.sql_append, Fragment.sql_append, ← String.append_assoc,
    String.toList_append (s := head.sql ++ _)]
  exact List.prefix_append _ _

variable {naming : Naming} {types : List QueryType} {session : Session}

theorem Reported.excused
    (h : Reported naming types session)
    (huniform : Shelf.plans.Uniform types)
    {query : Query}
    (hquery : query.types ⊆ types)
    (hempty : ¬(answer (Session.condition query) session).Nonempty) :
    ∀ demand ∈ query.demands,
      demand.Excused (after (Session.condition query) session).log := by
  rcases h.condition huniform hquery with ⟨hanswer, hrecorded⟩
  refine Demand.excused_query naming _ query ?_ hrecorded
  by_cases hparts : (query.clausesBy (Plan.build naming)).parts = []
  · exact hparts
  · rw [hanswer] at hempty
    exact absurd (Clauses.nonempty_join hparts (Demand.nonempty_clauses _ query) _) hempty

theorem sql_assignment?
    {layout : Layout} {row : Row} {fragment : Fragment}
    (h : Statement.assignment? layout row = some fragment) :
    fragment.sql = layout.updateHead ((Statement.assigned layout row).map Prod.fst) := by
  rw [Statement.assignment?_eq] at h
  split at h
  · cases h
  · rw [← Option.some.inj h]

/-- A deletion, or an update of the rows that a query selects, loses its condition only with an
excuse for everything that the query asks for. -/
theorem unconditional_statements
    {operations : List Operation} {query : Query}
    (huniform : Shelf.plans.Uniform (operations.flatMap Operation.types ++ query.types))
    (naming : Naming) (entity : Entity) :
    let session := reached naming operations
    let layout := session.layoutOf entity
    (¬HasCondition layout.deleteHead (answer (Statement.delete entity query) session) ->
        ∀ demand ∈ query.demands,
          demand.Excused (after (Statement.delete entity query) session).log) ∧
      ∀ (row : Row) (statement : Fragment),
        answer (Statement.patchWhere entity row query) session = some statement ->
          ¬HasCondition (layout.updateHead ((Statement.assigned layout row).map Prod.fst))
              statement ->
            ∀ demand ∈ query.demands,
              demand.Excused (after (Statement.patchWhere entity row query) session).log := by
  intro session layout
  have hsession : Reported naming (operations.flatMap Operation.types ++ query.types) session :=
    reported_reached (List.subset_append_left _ _) naming
  have hexcused := (hsession.layout entity).excused huniform (List.subset_append_right _ _)
  constructor
  · intro hhead
    have hanswer : answer (Statement.delete entity query) session =
        Fragment.text layout.deleteHead ++
          (answer (condition query) (after (Session.layout entity) session)).asWhere := by
      show _ = Fragment.text (session.layoutOf entity).deleteHead ++ _
      rw [← answer_layout]
      rfl
    rw [hanswer] at hhead
    refine hexcused fun hnonempty => hhead ?_
    exact hasCondition_of_nonempty hnonempty (Fragment.text layout.deleteHead)
  · intro row statement hstatement hhead
    rw [Statement.patchWhere, answer_bind, answer_layout] at hstatement
    rw [Statement.patchWhere, after_bind, answer_layout]
    cases hassignment : Statement.assignment? (session.layoutOf entity) row with
    | none =>
        rw [hassignment] at hstatement
        cases hstatement
    | some fragment =>
        rw [hassignment] at hstatement
        cases hstatement
        refine hexcused fun hnonempty => hhead ?_
        rw [← sql_assignment? hassignment]
        exact hasCondition_of_nonempty hnonempty fragment

def lostQuery : Query :=
  let inner := Query.mk "LostPathQuery"
    [.mk ⟨"role", none, .path "user,,role"⟩ (.scalar (.bool true)),
      .mk ⟨"note", none, .condition ""⟩ (.scalar (.int 1))] none
  .mk "LostQuery"
    [.mk ⟨"name_like", none, .scalar⟩ (.list [.text "a", .text "b"]),
      .mk ⟨"inner", none, .flatten⟩ (.query inner),
      .mk ⟨"either_or", none, .group .or .queries⟩ (.queries [inner, inner]),
      .mk ⟨"nick_start_or", none, .group .or .values⟩ (.list [.int 1, .int 2]),
      .mk ⟨"raw", none, .unsupported "no column"⟩ (.scalar (.int 7))] none

def noteEntity : Entity :=
  .mk "NoteEntity" "NoteEntity" none [.mk "id" none .identity, .mk "title" none .column]

def noteRow : Row :=
  ⟨[.int 3, .text "t"], .int 3⟩

theorem unconditional_statements_lostQuery :
    let operations := [Operation.plan lostQuery.type]
    let session := reached {} operations
    let layout := session.layoutOf noteEntity
    let update : Fragment := ⟨"UPDATE t_note SET title = ?", [.text "t"]⟩
    Shelf.plans.Uniform (operations.flatMap Operation.types ++ lostQuery.types) ∧
      ¬HasCondition layout.deleteHead (answer (Statement.delete noteEntity lostQuery) session) ∧
        answer (Statement.patchWhere noteEntity noteRow lostQuery) session = some update ∧
          ¬HasCondition (layout.updateHead ((Statement.assigned layout noteRow).map Prod.fst))
              update ∧
            lostQuery.demands.length = 10 ∧
              (∀ demand ∈ lostQuery.demands,
                demand.Excused (after (Statement.delete noteEntity lostQuery) session).log) ∧
                ∀ demand ∈ lostQuery.demands,
                  demand.Excused
                    (after (Statement.patchWhere noteEntity noteRow lostQuery) session).log := by
  intro operations session layout update
  have huniform : Shelf.plans.Uniform (operations.flatMap Operation.types ++ lostQuery.types) := by
    unfold Shelf.Uniform
    decide +kernel
  have hdelete : ¬HasCondition layout.deleteHead
      (answer (Statement.delete noteEntity lostQuery) session) := by
    unfold HasCondition
    decide +kernel
  have hupdate : answer (Statement.patchWhere noteEntity noteRow lostQuery) session =
      some update := by
    decide +kernel
  have hhead : ¬HasCondition (layout.updateHead ((Statement.assigned layout noteRow).map Prod.fst))
      update := by
    unfold HasCondition
    decide +kernel
  have h := unconditional_statements huniform {} noteEntity
  exact ⟨huniform, hdelete, hupdate, hhead, by decide +kernel, h.left hdelete,
    h.right noteRow update hupdate hhead⟩

end Session
end Criteria
