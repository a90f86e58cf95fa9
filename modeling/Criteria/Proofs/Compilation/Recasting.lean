import Criteria.Proofs.Compilation.Groups

/-!
# Recasting queries

A query is recast by replacing fields, at any depth, by other fields in their place, be it none or
many.  The types of the queries around them change with their fields, and so their names may change
as well.  If every replacement contributes what the replaced field does, so does the recast query.
-/

namespace Criteria

/-!
# Contributions without a plan in between
-/

namespace Step

def planned (naming : Naming) (type : FieldType) : Step :=
  orSkip (ofField naming "" type)

theorem orSkip_ofSubquery
    (naming : Naming) (first second : String) (type : FieldType) (raw : String) :
    orSkip (ofSubquery naming first type raw) = orSkip (ofSubquery naming second type raw) := by
  unfold ofSubquery
  cases Subquery.parse raw with
  | error fault => rfl
  | ok spec =>
      dsimp only
      split
      · rfl
      · rfl

theorem orSkip_ofField
    (naming : Naming) (typeName : String) (type : FieldType) :
    orSkip (ofField naming typeName type) = planned naming type := by
  unfold planned ofField
  cases type.kind with
  | subquery raw => exact orSkip_ofSubquery naming typeName "" type raw
  | _ => rfl

end Step

theorem Plan.fields_build
    (naming : Naming) (type : QueryType) :
    (build naming type).fields =
      type.fields.map fun field => ⟨field.name, Step.planned naming field⟩ :=
  List.map_congr_left fun field _ =>
    congrArg (PlannedField.mk field.name) (Step.orSkip_ofField naming type.name field)

def Field.contribution (naming : Naming) (field : Field) : Clauses :=
  field.content.contribution (Plan.build naming) (Step.planned naming field.type)

def Field.clauses (naming : Naming) (fields : List Field) : Clauses :=
  .concat (fields.map (contribution naming))

theorem Field.contributions_planned
    (naming : Naming) (fields : List Field) :
    contributions (Plan.build naming)
        ((fields.map type).map fun field => ⟨field.name, Step.planned naming field⟩) fields =
      fields.map (contribution naming) := by
  induction fields with
  | nil => rfl
  | cons field fields ih =>
      cases field with
      | mk type content =>
          simp only [List.map_cons, contributions]
          rw [ih]
          rfl

theorem Query.clausesBy_build
    (naming : Naming) (query : Query) :
    query.clausesBy (Plan.build naming) = Field.clauses naming query.fields := by
  cases query with
  | mk typeName fields page =>
      rw [clausesBy, contributions, Plan.fields_build, Field.contributions_planned]
      rfl

namespace Field

theorem clauses_cons
    (naming : Naming) (field : Field) (fields : List Field) :
    clauses naming (field :: fields) = field.contribution naming ++ clauses naming fields :=
  rfl

theorem clauses_append
    (naming : Naming) (fields others : List Field) :
    clauses naming (fields ++ others) = clauses naming fields ++ clauses naming others := by
  unfold clauses Clauses.concat
  rw [List.map_append, List.flatMap_append]
  rfl

end Field

/-!
# Replacing fields
-/

mutual

/-- The queries differ in fields that are replaced, and in the names of their types. -/
inductive Query.Recasts (replaces : Field -> List Field -> Prop) : Query -> Query -> Prop where
  | mk {typeName other : String} {fields others : List Field} {page : Option PageRequest} :
      Field.Recasts replaces fields others ->
        Query.Recasts replaces (.mk typeName fields page) (.mk other others page)

inductive Field.Recasts (replaces : Field -> List Field -> Prop) :
    List Field -> List Field -> Prop where
  | nil : Field.Recasts replaces [] []
  | keep {type : FieldType} {content other : Content} {fields others : List Field} :
      Content.Recasts replaces content other -> Field.Recasts replaces fields others ->
        Field.Recasts replaces (.mk type content :: fields) (.mk type other :: others)
  | replace {field : Field} {parts fields others : List Field} :
      replaces field parts -> Field.Recasts replaces (parts ++ fields) others ->
        Field.Recasts replaces (field :: fields) others

inductive Content.Recasts (replaces : Field -> List Field -> Prop) :
    Content -> Content -> Prop where
  | absent : Content.Recasts replaces .absent .absent
  | scalar (value : Value) : Content.Recasts replaces (.scalar value) (.scalar value)
  | list (values : List Value) : Content.Recasts replaces (.list values) (.list values)
  | query {query other : Query} :
      Query.Recasts replaces query other -> Content.Recasts replaces (.query query) (.query other)
  | queries {queries others : List Query} :
      Query.RecastsAll replaces queries others ->
        Content.Recasts replaces (.queries queries) (.queries others)
  | path {hops others : List HopQuery} :
      HopQuery.Recasts replaces hops others -> Content.Recasts replaces (.path hops) (.path others)

inductive Query.RecastsAll (replaces : Field -> List Field -> Prop) :
    List Query -> List Query -> Prop where
  | nil : Query.RecastsAll replaces [] []
  | cons {query other : Query} {queries others : List Query} :
      Query.Recasts replaces query other -> Query.RecastsAll replaces queries others ->
        Query.RecastsAll replaces (query :: queries) (other :: others)

inductive HopQuery.Recasts (replaces : Field -> List Field -> Prop) :
    List HopQuery -> List HopQuery -> Prop where
  | nil : HopQuery.Recasts replaces [] []
  | cons {index : Nat} {query other : Query} {hops others : List HopQuery} :
      Query.Recasts replaces query other -> HopQuery.Recasts replaces hops others ->
        HopQuery.Recasts replaces (.mk index query :: hops) (.mk index other :: others)

end

theorem Field.Recasts.append
    {replaces : Field -> List Field -> Prop} :
    forall {fields others : List Field}, Field.Recasts replaces fields others ->
    ∀ {more later : List Field}, Field.Recasts replaces more later ->
      Field.Recasts replaces (fields ++ more) (others ++ later)
  | _, _, .nil => fun hmore => hmore
  | _, _, .keep hcontent hfields => fun hmore => .keep hcontent (hfields.append hmore)
  | _, _, .replace hfield hfields => by
      intro hmore
      have hreplaced := hfields.append hmore
      rw [List.append_assoc] at hreplaced
      exact .replace hfield hreplaced

/-!
# What replacements preserve
-/

section

variable {replaces : Field -> List Field -> Prop}
variable {naming : Naming}

/-- What replaces a field contributes what the field does. -/
def Preserves (naming : Naming) (replaces : Field -> List Field -> Prop) : Prop :=
  ∀ {field : Field} {parts : List Field},
    replaces field parts -> Field.clauses naming parts = field.contribution naming

mutual

theorem Query.Recasts.clauses_eq (hpreserves : Preserves naming replaces) :
    forall {query other : Query}, query.Recasts replaces other ->
    other.clausesBy (Plan.build naming) = query.clausesBy (Plan.build naming)
  | _, _, .mk hfields => by
      rw [Query.clausesBy_build, Query.clausesBy_build]
      exact Field.Recasts.clauses_eq hpreserves hfields

theorem Field.Recasts.clauses_eq (hpreserves : Preserves naming replaces) :
    forall {fields others : List Field}, Field.Recasts replaces fields others ->
    Field.clauses naming others = Field.clauses naming fields
  | _, _, .nil => rfl
  | _, _, .keep hcontent hfields => by
      have hhere := Content.Recasts.contribution_eq hpreserves hcontent
      have hothers := Field.Recasts.clauses_eq hpreserves hfields
      rw [Field.clauses_cons, Field.clauses_cons, hothers]
      exact congrArg (fun clauses : Clauses => clauses ++ _) (hhere _)
  | _, _, .replace hfield hfields => by
      rw [Field.Recasts.clauses_eq hpreserves hfields, Field.clauses_append, hpreserves hfield,
        Field.clauses_cons]

theorem Content.Recasts.contribution_eq (hpreserves : Preserves naming replaces) :
    forall {content other : Content}, content.Recasts replaces other ->
    ∀ step : Step, other.contribution (Plan.build naming) step =
      content.contribution (Plan.build naming) step
  | _, _, .absent => fun _ => rfl
  | _, _, .scalar _ => fun _ => rfl
  | _, _, .list _ => fun _ => rfl
  | _, _, .query hquery => by
      intro step
      have hclauses := Query.Recasts.clauses_eq hpreserves hquery
      unfold Query.clausesBy at hclauses
      simp only [Content.contribution, hclauses]
  | _, _, .queries hqueries => by
      intro step
      simp only [Content.contribution, Query.RecastsAll.members_eq hpreserves hqueries]
  | _, _, .path hhops => by
      intro step
      simp only [Content.contribution, HopQuery.Recasts.filters_eq hpreserves hhops]

theorem Query.RecastsAll.members_eq (hpreserves : Preserves naming replaces) :
    forall {queries others : List Query}, Query.RecastsAll replaces queries others ->
    Query.members (Plan.build naming) others = Query.members (Plan.build naming) queries
  | _, _, .nil => rfl
  | _, _, .cons hquery hqueries => by
      have hclauses := Query.Recasts.clauses_eq hpreserves hquery
      unfold Query.clausesBy at hclauses
      rw [Query.members, Query.members, hclauses,
        Query.RecastsAll.members_eq hpreserves hqueries]

theorem HopQuery.Recasts.filters_eq (hpreserves : Preserves naming replaces) :
    forall {hops others : List HopQuery}, HopQuery.Recasts replaces hops others ->
    ∀ path : Path, HopQuery.filters (Plan.build naming) path others =
      HopQuery.filters (Plan.build naming) path hops
  | _, _, .nil => fun _ => rfl
  | _, _, .cons hquery hhops => by
      intro path
      have hclauses := Query.Recasts.clauses_eq hpreserves hquery
      unfold Query.clausesBy at hclauses
      rw [HopQuery.filters, HopQuery.filters, hclauses,
        HopQuery.Recasts.filters_eq hpreserves hhops path]

end

end

end Criteria
