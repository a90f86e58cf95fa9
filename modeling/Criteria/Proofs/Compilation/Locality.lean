import Criteria.Proofs.Compilation.Accumulation
import Criteria.Proofs.Compilation.Misfits
import Criteria.Proofs.Compilation.Recasting
import Criteria.Proofs.Compilation.Reports

/-!
# Locality of fields

What a field adds to a condition is a function of its type, its content and the naming.  A field
that cannot be planned, or whose content is missing or does not fit, adds nothing, and so it can be
dropped anywhere, or put anywhere, without a change to the condition.
-/

namespace Criteria

namespace Session

/-!
# Conditions in sessions that a caller can reach
-/

variable {naming : Naming} {operations : List Operation} {query : Query}

theorem follows_reached
    (huniform : Shelf.plans.Uniform (operations.flatMap Operation.types ++ query.types)) :
    Follows naming (reached naming operations) (query.acts naming) := by
  let types := operations.flatMap Operation.types ++ query.types
  have hreported : Reported naming types (reached naming operations) :=
    reported_reached (List.subset_append_left _ _) naming
  have hacts : ∀ act ∈ query.acts naming, act.Within types :=
    fun act hact => (query.acts_within naming act hact).mono (List.subset_append_right _ _)
  exact hreported.follows huniform hacts

theorem clauses_reached
    (huniform : Shelf.plans.Uniform (operations.flatMap Operation.types ++ query.types)) :
    answer (clauses query) (reached naming operations) = Field.clauses naming query.fields := by
  rw [(performs_clauses naming query).answer_eq (follows_reached huniform),
    Query.clausesBy_build]

theorem condition_reached
    (huniform : Shelf.plans.Uniform (operations.flatMap Operation.types ++ query.types)) :
    answer (condition query) (reached naming operations) =
      conjunction (Field.clauses naming query.fields) :=
  congrArg conjunction (clauses_reached huniform)

theorem condition_eq_of_recasts
    {replaces : Field -> List Field -> Prop}
    (hpreserves : Preserves naming replaces)
    (huniform : Shelf.plans.Uniform (operations.flatMap Operation.types ++ query.types))
    {others : List Operation} {other : Query}
    (hrecasts : query.Recasts replaces other)
    (hothers : Shelf.plans.Uniform (others.flatMap Operation.types ++ other.types)) :
    answer (condition other) (reached naming others) =
      answer (condition query) (reached naming operations) := by
  have hclauses := hrecasts.clauses_eq hpreserves
  rw [Query.clausesBy_build, Query.clausesBy_build] at hclauses
  rw [condition_reached huniform, condition_reached hothers, hclauses]

end Session

/-!
# Fields that are not planned
-/

/-- The field holds a page, it is not supported, or its annotation cannot be used. -/
inductive FieldType.Unplanned (naming : Naming) (type : FieldType) : Prop where
  | page : type.kind = .page -> Unplanned naming type
  | unsupported {reason : String} : type.kind = .unsupported reason -> Unplanned naming type
  | path {raw : String} {fault : Fault} :
      type.kind = .path raw -> Path.parse naming raw = .error fault -> Unplanned naming type
  | subquery {raw : String} {fault : Fault} :
      type.kind = .subquery raw -> Subquery.parse raw = .error fault -> Unplanned naming type
  | nullSubquery {raw : String} :
      type.kind = .subquery raw -> (FieldName.readQualified naming type.name).operator = .null ->
        Unplanned naming type

namespace Step

variable {naming : Naming} {type : FieldType}

theorem planned_of_unplanned
    (h : type.Unplanned naming) :
    planned naming type = .skip := by
  unfold planned ofField
  cases h with
  | page hkind =>
      rw [hkind]
      rfl
  | unsupported hkind =>
      rw [hkind]
      rfl
  | path hkind hparse =>
      rw [hkind]
      dsimp only
      rw [hparse]
      rfl
  | subquery hkind hparse =>
      rw [hkind]
      dsimp only [ofSubquery]
      rw [hparse]
      rfl
  | @nullSubquery raw hkind hnull =>
      rw [hkind]
      dsimp only [ofSubquery]
      cases Subquery.parse raw with
      | error fault => rfl
      | ok spec =>
          dsimp only
          rw [if_pos hnull]
          rfl

theorem unplanned_of_planned
    (h : planned naming type = .skip) :
    type.Unplanned naming := by
  unfold planned ofField at h
  cases hkind : type.kind with
  | page => exact .page hkind
  | unsupported reason => exact .unsupported hkind
  | path raw =>
      rw [hkind] at h
      dsimp only at h
      cases hparse : Path.parse naming raw with
      | error fault => exact .path hkind hparse
      | ok path =>
          rw [hparse] at h
          cases h
  | subquery raw =>
      rw [hkind] at h
      dsimp only [ofSubquery] at h
      cases hparse : Subquery.parse raw with
      | error fault => exact .subquery hkind hparse
      | ok spec =>
          by_cases hnull : (FieldName.readQualified naming type.name).operator = .null
          · exact .nullSubquery hkind hnull
          · rw [hparse] at h
            dsimp only at h
            rw [if_neg hnull] at h
            cases h
  | scalar =>
      rw [hkind] at h
      cases h
  | group connective members =>
      rw [hkind] at h
      cases h
  | condition template =>
      rw [hkind] at h
      cases h
  | flatten =>
      rw [hkind] at h
      cases h

end Step

/-!
# Contents that contribute nothing
-/

theorem Content.contribution_skip
    (plans : Planning) (content : Content) :
    content.contribution plans .skip = .empty := by
  cases content <;> rfl

theorem Clauses.ofValues_of_not_takes
    {column : String} {operator : Operator} {values : List Value}
    (h : ∀ value ∈ values, ¬operator.Takes value) :
    ofValues column operator values = .empty := by
  induction values with
  | nil => rfl
  | cons value values ih =>
      have hvalue := h value List.mem_cons_self
      rw [ofValues, (Operator.condition?_eq_none_iff column).mpr hvalue,
        ih fun other hother => h other (List.mem_cons_of_mem value hother)]
      rfl

namespace Field

/-- The field asks for nothing, it is not planned, or its content does not fit what is planned. -/
inductive Silent (naming : Naming) : Field -> Prop where
  | absent {type : FieldType} : Silent naming (.mk type .absent)
  | unplanned {type : FieldType} {content : Content} :
      type.Unplanned naming -> Silent naming (.mk type content)
  | misfit {type : FieldType} {content : Content} :
      (Step.planned naming type).Misfits content -> Silent naming (.mk type content)
  | values {type : FieldType} {connective : Connective} {column : String} {operator : Operator}
      {values : List Value} :
      Step.planned naming type = .group connective .values column operator ->
        (∀ value ∈ values, ¬operator.Takes value) -> Silent naming (.mk type (.list values))

theorem contribution_of_silent
    {naming : Naming} {field : Field}
    (h : field.Silent naming) :
    field.contribution naming = .empty := by
  cases h with
  | absent => rfl
  | @unplanned type content hunplanned =>
      show content.contribution _ (Step.planned naming type) = _
      rw [Step.planned_of_unplanned hunplanned]
      exact content.contribution_skip _
  | misfit hmisfits => exact Session.contribution_of_misfits hmisfits naming
  | @values type connective column operator values hplanned htakes =>
      show Content.contribution _ (Step.planned naming type) (.list values) = _
      rw [hplanned]
      show Clauses.single ((Clauses.ofValues column operator values).group _) = _
      rw [Clauses.ofValues_of_not_takes htakes]
      rfl

def Drops (naming : Naming) (field : Field) (parts : List Field) : Prop :=
  field.Silent naming ∧ parts = []

theorem preserves_drops
    (naming : Naming) :
    Preserves naming (Drops naming) := by
  rintro field parts ⟨hsilent, rfl⟩
  exact (contribution_of_silent hsilent).symm

end Field

namespace Session

/-!
# Fields are isolated from each other
-/

theorem fields_isolated
    {naming : Naming} {operations : List Operation} {query : Query}
    (huniform : Shelf.plans.Uniform (operations.flatMap Operation.types ++ query.types)) :
    (∀ out, answer (collect query out) (reached naming operations) =
        out ++ .concat (query.fields.map (Field.contribution naming))) ∧
      (∀ field : Field, field.Silent naming -> field.contribution naming = .empty) ∧
        (∀ (others : List Operation) (other : Query), query.Recasts (Field.Drops naming) other ->
          Shelf.plans.Uniform (others.flatMap Operation.types ++ other.types) ->
            answer (condition other) (reached naming others) =
              answer (condition query) (reached naming operations)) ∧
          ∀ type : QueryType, (Plan.build naming type).fields =
            type.fields.map fun field => ⟨field.name, Step.planned naming field⟩ := by
  refine ⟨?_, fun field hsilent => Field.contribution_of_silent hsilent, ?_,
    Plan.fields_build naming⟩
  · intro out
    rw [answer_collect, clauses_reached huniform]
    rfl
  · intro others other hrecasts hothers
    exact condition_eq_of_recasts (Field.preserves_drops naming) huniform hrecasts hothers

def titleField : Field :=
  .mk ⟨"title_like", none, .scalar⟩ (.scalar (.text "a"))

def strayFields (later : List Field) : List Field :=
  [.mk ⟨"route", none, .path "user,,role"⟩ (.scalar (.bool true)),
    .mk ⟨"score_null", none, .subquery "select:id,from:score"⟩ (.scalar (.bool true)),
    titleField,
    .mk ⟨"age_gt", none, .scalar⟩ (.list [.int 1, .int 2]),
    .mk ⟨"rank_start_or", none, .group .or .values⟩ (.list [.int 1, .int 2])] ++ later

def strayQuery (fields : List Field -> List Field) : Query :=
  let inner := Query.mk "InnerQuery" (fields []) none
  .mk "StrayQuery" (fields [.mk ⟨"any_or", none, .group .or .ofQuery⟩ (.query inner)]) none

theorem strayFields_recasts
    {later others : List Field}
    (h : Field.Recasts (Field.Drops {}) later others) :
    Field.Recasts (Field.Drops {}) (strayFields later) (titleField :: others) := by
  have hdrop : ∀ {field : Field} {fields others : List Field}, field.Silent {} ->
      Field.Recasts (Field.Drops {}) fields others ->
        Field.Recasts (Field.Drops {}) (field :: fields) others :=
    fun hsilent hfields => .replace ⟨hsilent, rfl⟩ hfields
  have hroute : Step.planned {} ⟨"route", none, .path "user,,role"⟩ = .skip := by
    decide +kernel
  have hscore : Step.planned {} ⟨"score_null", none, .subquery "select:id,from:score"⟩ =
      .skip := by
    decide +kernel
  have hage : Step.planned {} ⟨"age_gt", none, .scalar⟩ = .compare "age" .gt := by
    decide +kernel
  have hrank : Step.planned {} ⟨"rank_start_or", none, .group .or .values⟩ =
      .group .or .values "rank" .start := by
    decide +kernel
  refine hdrop (.unplanned (Step.unplanned_of_planned hroute)) ?_
  refine hdrop (.unplanned (Step.unplanned_of_planned hscore)) ?_
  refine .keep (.scalar _) (hdrop (.misfit ?_) (hdrop (.values hrank ?_) h))
  · rw [hage]
    refine .list rfl ?_
    intro value hvalue
    cases hvalue
  · intro value hvalue htakes
    rcases htakes.right (by decide) with ⟨text, rfl⟩
    simp at hvalue

theorem fields_isolated_strayQuery :
    let full := strayQuery strayFields
    let bare := strayQuery (fun later => titleField :: later)
    let operations := [Operation.plan full.type]
    Shelf.plans.Uniform (operations.flatMap Operation.types ++ full.types) ∧
      full.Recasts (Field.Drops {}) bare ∧
        Shelf.plans.Uniform (([] : List Operation).flatMap Operation.types ++ bare.types) ∧
          answer (condition full) (reached {} operations) =
              answer (condition bare) (reached {} []) ∧
            answer (condition bare) (reached {} []) =
              ⟨"title LIKE ? AND title LIKE ?", [.text "%a%", .text "%a%"]⟩ := by
  intro full bare operations
  have huniform : Shelf.plans.Uniform (operations.flatMap Operation.types ++ full.types) := by
    unfold Shelf.Uniform
    decide +kernel
  have hothers : Shelf.plans.Uniform
      (([] : List Operation).flatMap Operation.types ++ bare.types) := by
    unfold Shelf.Uniform
    decide +kernel
  have hrecasts : full.Recasts (Field.Drops {}) bare :=
    .mk (strayFields_recasts (.keep (.query (.mk (strayFields_recasts .nil))) .nil))
  have h := (fields_isolated huniform).right.right.left [] bare hrecasts hothers
  exact ⟨huniform, hrecasts, hothers, h.symm, by decide +kernel⟩

end Session
end Criteria
