import Criteria.Proofs.Compilation.Clauses

/-!
# Groups in a tree

The groups of a query are the group fields of the query and of all queries in its contents.
-/

namespace Criteria

/-!
# Trees in trees
-/

mutual

theorem Query.tree_subset : forall query : Query, ∀ inner ∈ query.tree, inner.tree ⊆ query.tree
  | .mk typeName fields page => by
      intro inner hinner
      rw [Query.tree] at hinner
      rcases List.mem_cons.mp hinner with hself | hin
      · rw [hself]
        exact List.Subset.refl _
      · rw [Query.tree]
        exact List.subset_cons_of_subset _ (Field.trees_subset fields inner hin)

theorem Field.trees_subset : forall fields : List Field,
    ∀ inner ∈ Field.trees fields, inner.tree ⊆ Field.trees fields
  | [] => by
      intro inner hinner
      cases hinner
  | .mk _ content :: fields => by
      intro inner hinner
      rw [Field.trees] at hinner ⊢
      rcases List.mem_append.mp hinner with hhere | hlater
      · exact List.subset_append_of_subset_left _ (Content.trees_subset content inner hhere)
      · exact List.subset_append_of_subset_right _ (Field.trees_subset fields inner hlater)

theorem Content.trees_subset : forall content : Content,
    ∀ inner ∈ content.trees, inner.tree ⊆ content.trees
  | .absent => by
      intro inner hinner
      cases hinner
  | .scalar _ => by
      intro inner hinner
      cases hinner
  | .list _ => by
      intro inner hinner
      cases hinner
  | .query query => Query.tree_subset query
  | .queries queries => Query.trees_subset queries
  | .path hops => HopQuery.trees_subset hops

theorem Query.trees_subset : forall queries : List Query,
    ∀ inner ∈ Query.trees queries, inner.tree ⊆ Query.trees queries
  | [] => by
      intro inner hinner
      cases hinner
  | query :: queries => by
      intro inner hinner
      rw [Query.trees] at hinner ⊢
      rcases List.mem_append.mp hinner with hhere | hlater
      · exact List.subset_append_of_subset_left _ (Query.tree_subset query inner hhere)
      · exact List.subset_append_of_subset_right _ (Query.trees_subset queries inner hlater)

theorem HopQuery.trees_subset : forall hops : List HopQuery,
    ∀ inner ∈ HopQuery.trees hops, inner.tree ⊆ HopQuery.trees hops
  | [] => by
      intro inner hinner
      cases hinner
  | .mk _ query :: hops => by
      intro inner hinner
      rw [HopQuery.trees] at hinner ⊢
      rcases List.mem_append.mp hinner with hhere | hlater
      · exact List.subset_append_of_subset_left _ (Query.tree_subset query inner hhere)
      · exact List.subset_append_of_subset_right _ (HopQuery.trees_subset hops inner hlater)

end

theorem Field.content_trees_subset
    {fields : List Field} {field : Field}
    (h : field ∈ fields) :
    field.content.trees ⊆ Field.trees fields := by
  induction fields with
  | nil => cases h
  | cons first fields ih =>
      cases first with
      | mk type content =>
          rw [Field.trees]
          rcases List.mem_cons.mp h with hself | hin
          · rw [hself]
            exact List.subset_append_left _ _
          · exact List.subset_append_of_subset_right _ (ih hin)

theorem Query.content_trees_subset
    {query inner : Query} {field : Field}
    (hinner : inner ∈ query.tree)
    (hfield : field ∈ inner.fields) :
    field.content.trees ⊆ query.tree := by
  have hwithin : Field.trees inner.fields ⊆ inner.tree := by
    cases inner with
    | mk typeName fields page =>
        rw [Query.tree]
        exact List.subset_cons_of_subset _ (List.Subset.refl _)
  exact List.Subset.trans (Field.content_trees_subset hfield)
    (List.Subset.trans hwithin (query.tree_subset inner hinner))

/-!
# Members
-/

def Content.members (plans : Planning) (step : Step) : Content -> Clauses
  | .query nested =>
      match step with
      | .group _ .ofQuery _ _ => nested.clausesBy plans
      | _ => .empty
  | .queries nested =>
      match step with
      | .group _ .queries _ _ => Query.members plans nested
      | _ => .empty
  | .list values =>
      match step with
      | .group _ .values column operator => .ofValues column operator values
      | _ => .empty
  | _ => .empty

theorem Content.contribution_group
    (plans : Planning) (content : Content) (connective : Connective) (members : Members)
    (column : String) (operator : Operator) :
    content.contribution plans (.group connective members column operator) =
      .single ((content.members plans (.group connective members column operator)).group
        connective.separator) := by
  have hempty : Clauses.single (Clauses.empty.group connective.separator) = .empty :=
    Clauses.single_group_of_parts_eq_nil rfl
  cases content with
  | absent => exact hempty.symm
  | scalar value => exact hempty.symm
  | path hops => exact hempty.symm
  | list values =>
      cases members with
      | values => rfl
      | ofQuery => exact hempty.symm
      | queries => exact hempty.symm
  | query query =>
      cases members with
      | ofQuery => rfl
      | queries => exact hempty.symm
      | values => exact hempty.symm
  | queries queries =>
      cases members with
      | queries => rfl
      | ofQuery => exact hempty.symm
      | values => exact hempty.symm

theorem Field.contributions_getElem?
    {plans : Planning} {plan : List PlannedField} {fields : List Field} {index : Nat}
    {planned : PlannedField} {field : Field}
    (hplanned : plan[index]? = some planned)
    (hfield : fields[index]? = some field) :
    (Field.contributions plans plan fields)[index]? =
      some (field.content.contribution plans planned.step) := by
  induction index generalizing plan fields with
  | zero =>
      cases plan with
      | nil => cases hplanned
      | cons first plan =>
          cases fields with
          | nil => cases hfield
          | cons own fields =>
              cases own
              cases hplanned
              cases hfield
              rw [Field.contributions]
              rfl
  | succ index ih =>
      cases plan with
      | nil => cases hplanned
      | cons first plan =>
          cases fields with
          | nil => cases hfield
          | cons own fields =>
              cases own
              rw [Field.contributions]
              exact ih hplanned hfield

/-!
# Group fields
-/

def Query.HasGroup (plans : Planning) (query : Query) (connective : Connective)
    (members contribution : Clauses) : Prop :=
  ∃ inner ∈ query.tree, ∃ (index : Nat) (planned : PlannedField) (field : Field)
    (kind : Members) (column : String) (operator : Operator),
      (plans inner.type).fields[index]? = some planned ∧
        inner.fields[index]? = some field ∧
          planned.step = .group connective kind column operator ∧
            members = field.content.members plans planned.step ∧
              (inner.contributions plans)[index]? = some contribution

theorem Query.HasGroup.contribution_eq
    {plans : Planning} {query : Query} {connective : Connective}
    {members contribution : Clauses}
    (h : query.HasGroup plans connective members contribution) :
    contribution = .single (members.group connective.separator) := by
  rcases h with ⟨inner, _, index, planned, field, kind, column, operator, hplanned, hfield,
    hstep, hmembers, hcontribution⟩
  cases inner with
  | mk typeName fields page =>
      have hhere : (Field.contributions plans (plans ⟨typeName, fields.map Field.type⟩).fields
          fields)[index]? = some (field.content.contribution plans planned.step) :=
        Field.contributions_getElem? hplanned hfield
      rw [Query.contributions, hhere] at hcontribution
      rw [← Option.some.inj hcontribution, hmembers, hstep]
      exact Content.contribution_group plans field.content connective kind column operator

theorem HandsOn.all_groupMembers
    {ok : Step -> Prop} {good : Fragment -> Prop}
    (h : HandsOn ok good)
    {plans : Planning} {query : Query} {connective : Connective}
    {members contribution : Clauses}
    (hplans : ∀ type ∈ query.types, ∀ planned ∈ (plans type).fields, ok planned.step)
    (hgroup : query.HasGroup plans connective members contribution) :
    members.All good := by
  rcases hgroup with ⟨inner, hinner, index, planned, field, kind, column, operator,
    hplanned, hfield, hstep, hmembers, _⟩
  have hok : ok planned.step :=
    hplans inner.type (List.mem_map_of_mem hinner) planned (List.mem_of_getElem? hplanned)
  have htrees := Query.content_trees_subset hinner (List.mem_of_getElem? hfield)
  have hcontent : ∀ type ∈ field.content.trees.map Query.type,
      ∀ planned ∈ (plans type).fields, ok planned.step :=
    fun type htype => hplans type (List.map_subset Query.type htrees htype)
  rw [hmembers]
  rw [hstep] at hok ⊢
  cases hcase : field.content with
  | absent => exact Clauses.all_empty
  | scalar value => exact Clauses.all_empty
  | path hops => exact Clauses.all_empty
  | list values =>
      cases kind with
      | values => exact h.values hok
      | ofQuery => exact Clauses.all_empty
      | queries => exact Clauses.all_empty
  | query nested =>
      rw [hcase] at hcontent
      cases kind with
      | ofQuery => exact h.all_clauses plans nested hcontent
      | queries => exact Clauses.all_empty
      | values => exact Clauses.all_empty
  | queries nested =>
      rw [hcase] at hcontent
      cases kind with
      | queries => exact h.all_members plans nested hcontent
      | ofQuery => exact Clauses.all_empty
      | values => exact Clauses.all_empty

end Criteria
