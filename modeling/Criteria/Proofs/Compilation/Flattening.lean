import Criteria.Proofs.Compilation.Locality
import Mathlib.Data.Countable.Basic
import Mathlib.Logic.Equiv.List
import Mathlib.Tactic.DeriveCountable

/-!
# Flattening

A field that embeds a query contributes what the fields of the embedded query do.  So the query in
which they stand in its place, at every depth and in every group, has the same condition.
-/

namespace Criteria

/-!
# Splicing
-/

namespace Field

/-- The fields of an embedded query stand in the place of the field that embeds it.  Where no query
is embedded, nothing of what stands there instead is present. -/
inductive Splices : Field -> List Field -> Prop where
  | query {type : FieldType} {query : Query} :
      type.kind = .flatten -> Splices (.mk type (.query query)) query.fields
  | bare {type : FieldType} {content : Content} {parts : List Field} :
      type.kind = .flatten -> content.form ≠ .query ->
        (∀ part ∈ parts, part.content = .absent) -> Splices (.mk type content) parts

theorem planned_of_flatten
    {naming : Naming} {type : FieldType}
    (h : type.kind = .flatten) :
    Step.planned naming type = .flatten := by
  rw [Step.planned, Step.ofField, h]
  rfl

theorem clauses_of_absent
    {naming : Naming} {fields : List Field}
    (h : ∀ field ∈ fields, field.content = .absent) :
    clauses naming fields = .empty := by
  induction fields with
  | nil => rfl
  | cons field fields ih =>
      have hhere : field.contribution naming = .empty := by
        rw [contribution, h field List.mem_cons_self]
        rfl
      rw [clauses_cons, hhere, ih fun other hother => h other (List.mem_cons_of_mem field hother)]
      rfl

theorem preserves_splices
    (naming : Naming) :
    Preserves naming Splices := by
  intro field parts h
  cases h with
  | @query type query hkind =>
      show clauses naming query.fields = Content.contribution _ (Step.planned naming type) _
      rw [planned_of_flatten hkind, ← Query.clausesBy_build]
      rfl
  | @bare type content parts hkind hform hparts =>
      have hmisfits : content ≠ .absent -> Step.Misfits .flatten content := by
        intro habsent
        refine .form ?_
        cases content with
        | absent => exact absurd rfl habsent
        | query query => exact absurd rfl hform
        | _ => rfl
      show _ = content.contribution _ (Step.planned naming type)
      rw [clauses_of_absent hparts, planned_of_flatten hkind]
      by_cases habsent : content = .absent
      · rw [habsent]
        rfl
      · exact (Session.contribution_of_misfits (hmisfits habsent) naming).symm

end Field

/-!
# Splicing everything
-/

section

variable (nameOf : List FieldType -> String)

mutual

def Query.spliced : Query -> Query
  | .mk _ fields page =>
      let others := Field.spliced fields
      .mk (nameOf (others.map Field.type)) others page

def Query.splicedFields : Query -> List Field
  | .mk _ fields _ => Field.spliced fields

def Field.spliced : List Field -> List Field
  | [] => []
  | .mk type content :: fields =>
      if type.kind = .flatten then
        content.splicedFields ++ Field.spliced fields
      else
        .mk type content.spliced :: Field.spliced fields

def Content.splicedFields : Content -> List Field
  | .query query => query.splicedFields
  | _ => []

def Content.spliced : Content -> Content
  | .query query => .query query.spliced
  | .queries queries => .queries (Query.splicedAll queries)
  | .path hops => .path (HopQuery.spliced hops)
  | content => content

def Query.splicedAll : List Query -> List Query
  | [] => []
  | query :: queries => query.spliced :: Query.splicedAll queries

def HopQuery.spliced : List HopQuery -> List HopQuery
  | [] => []
  | .mk index query :: hops => .mk index query.spliced :: HopQuery.spliced hops

end

/-!
# What is left after splicing
-/

theorem Field.Recasts.bare
    {type : FieldType} {content : Content} {fields others : List Field}
    (hkind : type.kind = .flatten)
    (hform : content.form ≠ .query)
    (h : Field.Recasts Splices fields others) :
    Field.Recasts Splices (.mk type content :: fields) others := by
  have hparts : ∀ part ∈ ([] : List Field), part.content = .absent := by
    intro part hpart
    cases hpart
  exact .replace (.bare hkind hform hparts) h

mutual

theorem Query.recasts_spliced : forall query : Query,
    query.Recasts Field.Splices (query.spliced nameOf)
  | .mk typeName fields page => by
      rw [Query.spliced]
      exact .mk (Field.recasts_spliced fields)

theorem Field.recasts_spliced : forall fields : List Field,
    Field.Recasts Field.Splices fields (Field.spliced nameOf fields)
  | [] => .nil
  | .mk type content :: fields => by
      have hfields := Field.recasts_spliced fields
      rw [Field.spliced]
      split
      next hkind => exact Content.recasts_splicedFields hkind content hfields
      next => exact .keep (Content.recasts_spliced content) hfields

theorem Content.recasts_splicedFields {type : FieldType} (hkind : type.kind = .flatten) :
    forall content : Content, ∀ {fields others : List Field},
    Field.Recasts Field.Splices fields others ->
      Field.Recasts Field.Splices (.mk type content :: fields)
        (content.splicedFields nameOf ++ others)
  | .query (.mk typeName inner page) => by
      intro hfields
      rw [Content.splicedFields, Query.splicedFields]
      exact .replace (.query hkind) ((Field.recasts_spliced inner).append hfields)
  | .absent => fun hfields => hfields.bare hkind nofun
  | .scalar _ => fun hfields => hfields.bare hkind nofun
  | .list _ => fun hfields => hfields.bare hkind nofun
  | .queries _ => fun hfields => hfields.bare hkind nofun
  | .path _ => fun hfields => hfields.bare hkind nofun

theorem Content.recasts_spliced : forall content : Content,
    content.Recasts Field.Splices (content.spliced nameOf)
  | .absent => .absent
  | .scalar value => .scalar value
  | .list values => .list values
  | .query query => by
      rw [Content.spliced]
      exact .query (Query.recasts_spliced query)
  | .queries queries => by
      rw [Content.spliced]
      exact .queries (Query.recasts_splicedAll queries)
  | .path hops => by
      rw [Content.spliced]
      exact .path (HopQuery.recasts_spliced hops)

theorem Query.recasts_splicedAll : forall queries : List Query,
    Query.RecastsAll Field.Splices queries (Query.splicedAll nameOf queries)
  | [] => .nil
  | query :: queries => .cons (Query.recasts_spliced query) (Query.recasts_splicedAll queries)

theorem HopQuery.recasts_spliced : forall hops : List HopQuery,
    HopQuery.Recasts Field.Splices hops (HopQuery.spliced nameOf hops)
  | [] => .nil
  | .mk _ query :: hops => .cons (Query.recasts_spliced query) (HopQuery.recasts_spliced hops)

end

def Query.Settled (query : Query) : Prop :=
  query.typeName = nameOf query.type.fields ∧
    ∀ field ∈ query.fields, field.type.kind ≠ .flatten

structure Field.Settled (fields : List Field) : Prop where
  plain : ∀ field ∈ fields, field.type.kind ≠ .flatten
  trees : ∀ inner ∈ Field.trees fields, inner.Settled nameOf

theorem Field.trees_append
    (fields others : List Field) :
    Field.trees (fields ++ others) = Field.trees fields ++ Field.trees others := by
  induction fields with
  | nil => rfl
  | cons field fields ih =>
      cases field
      simp only [List.cons_append, Field.trees, ih, List.append_assoc]

variable {nameOf}

theorem Field.settled_nil :
    Field.Settled nameOf [] := by
  constructor
  · intro field hfield
    cases hfield
  · intro inner hinner
    cases hinner

theorem Field.Settled.cons
    {type : FieldType} {content : Content} {fields : List Field}
    (hkind : type.kind ≠ .flatten)
    (hcontent : ∀ inner ∈ content.trees, inner.Settled nameOf)
    (hfields : Field.Settled nameOf fields) :
    Field.Settled nameOf (.mk type content :: fields) := by
  constructor
  · intro field hfield
    rcases List.mem_cons.mp hfield with hself | hlater
    · rw [hself]
      exact hkind
    · exact hfields.plain field hlater
  · intro inner hinner
    rcases List.mem_append.mp hinner with hhere | hlater
    · exact hcontent inner hhere
    · exact hfields.trees inner hlater

theorem Field.Settled.append
    {fields others : List Field}
    (hfields : Field.Settled nameOf fields)
    (hothers : Field.Settled nameOf others) :
    Field.Settled nameOf (fields ++ others) := by
  constructor
  · intro field hfield
    rcases List.mem_append.mp hfield with hleft | hright
    · exact hfields.plain field hleft
    · exact hothers.plain field hright
  · intro inner hinner
    rw [Field.trees_append] at hinner
    rcases List.mem_append.mp hinner with hleft | hright
    · exact hfields.trees inner hleft
    · exact hothers.trees inner hright

variable (nameOf)

mutual

theorem Query.settled_spliced : forall query : Query,
    ∀ inner ∈ (query.spliced nameOf).tree, inner.Settled nameOf
  | .mk typeName fields page => by
      have hfields := Field.settled_spliced fields
      intro inner hinner
      rw [Query.spliced, Query.tree] at hinner
      rcases List.mem_cons.mp hinner with hself | hlater
      · rw [hself]
        exact ⟨rfl, hfields.plain⟩
      · exact hfields.trees inner hlater

theorem Query.settled_splicedFields : forall query : Query,
    Field.Settled nameOf (query.splicedFields nameOf)
  | .mk _ fields _ => Field.settled_spliced fields

theorem Field.settled_spliced : forall fields : List Field,
    Field.Settled nameOf (Field.spliced nameOf fields)
  | [] => Field.settled_nil
  | .mk type content :: fields => by
      have hfields := Field.settled_spliced fields
      rw [Field.spliced]
      split
      next => exact (Content.settled_splicedFields content).append hfields
      next hkind => exact hfields.cons hkind (Content.settled_spliced content)

theorem Content.settled_splicedFields : forall content : Content,
    Field.Settled nameOf (content.splicedFields nameOf)
  | .query query => Query.settled_splicedFields query
  | .absent => Field.settled_nil
  | .scalar _ => Field.settled_nil
  | .list _ => Field.settled_nil
  | .queries _ => Field.settled_nil
  | .path _ => Field.settled_nil

theorem Content.settled_spliced : forall content : Content,
    ∀ inner ∈ (content.spliced nameOf).trees, inner.Settled nameOf
  | .query query => Query.settled_spliced query
  | .queries queries => Query.settled_splicedAll queries
  | .path hops => HopQuery.settled_spliced hops
  | .absent => nofun
  | .scalar _ => nofun
  | .list _ => nofun

theorem Query.settled_splicedAll : forall queries : List Query,
    ∀ inner ∈ Query.trees (Query.splicedAll nameOf queries), inner.Settled nameOf
  | [] => nofun
  | query :: queries => by
      intro inner hinner
      rcases List.mem_append.mp hinner with hhere | hlater
      · exact Query.settled_spliced query inner hhere
      · exact Query.settled_splicedAll queries inner hlater

theorem HopQuery.settled_spliced : forall hops : List HopQuery,
    ∀ inner ∈ HopQuery.trees (HopQuery.spliced nameOf hops), inner.Settled nameOf
  | [] => nofun
  | .mk _ query :: hops => by
      intro inner hinner
      rcases List.mem_append.mp hinner with hhere | hlater
      · exact Query.settled_spliced query inner hhere
      · exact HopQuery.settled_spliced hops inner hlater

end

end

/-!
# Names for lists of fields
-/

instance countable_char : Countable Char :=
  (show Function.Injective Char.toNat from fun _ _ => Char.toNat_inj.mp).countable

instance countable_string : Countable String :=
  (show Function.Injective String.toList from fun _ _ => String.toList_inj.mp).countable

deriving instance Countable for Connective, Members, Kind, FieldType

theorem exists_nameOf :
    ∃ nameOf : List FieldType -> String, Function.Injective nameOf := by
  rcases exists_injective_nat (List FieldType) with ⟨number, hnumber⟩
  refine ⟨fun fields => String.ofList (List.replicate (number fields) 'a'), ?_⟩
  intro first second h
  have hlength := congrArg (fun name => name.toList.length) h
  simp only [String.toList_ofList, List.length_replicate] at hlength
  exact hnumber hlength

theorem uniform_of_settled
    {nameOf : List FieldType -> String} {query : Query}
    (hnameOf : Function.Injective nameOf)
    (h : ∀ inner ∈ query.tree, inner.Settled nameOf) :
    Shelf.plans.Uniform query.types := by
  intro first hfirst second hsecond hname
  rcases List.mem_map.mp hfirst with ⟨inner, hinner, rfl⟩
  rcases List.mem_map.mp hsecond with ⟨other, hother, rfl⟩
  have hnames : inner.typeName = other.typeName := hname
  have hfields : inner.type.fields = other.type.fields := by
    apply hnameOf
    rw [← (h inner hinner).left, ← (h other hother).left]
    exact hnames
  exact congrArg₂ QueryType.mk hnames hfields

namespace Session

/-!
# Flattening is transparent
-/

theorem flatten_transparent
    (naming : Naming)
    {operations : List Operation} {query : Query}
    (huniform : Shelf.plans.Uniform (operations.flatMap Operation.types ++ query.types)) :
    (∀ (others : List Operation) (other : Query), query.Recasts Field.Splices other ->
        Shelf.plans.Uniform (others.flatMap Operation.types ++ other.types) ->
          answer (condition other) (reached naming others) =
            answer (condition query) (reached naming operations)) ∧
      ∃ other : Query, query.Recasts Field.Splices other ∧ Shelf.plans.Uniform other.types ∧
        ∀ inner ∈ other.tree, ∀ field ∈ inner.fields, field.type.kind ≠ .flatten := by
  constructor
  · intro others other hrecasts hothers
    exact condition_eq_of_recasts (Field.preserves_splices naming) huniform hrecasts hothers
  · rcases exists_nameOf with ⟨nameOf, hnameOf⟩
    have hsettled := query.settled_spliced nameOf
    refine ⟨query.spliced nameOf, query.recasts_spliced nameOf,
      uniform_of_settled hnameOf hsettled, ?_⟩
    intro inner hinner
    exact (hsettled inner hinner).right

def partField (name : String) (value : Int64) : Field :=
  .mk ⟨name, none, .scalar⟩ (.scalar (.int value))

def embeddingQuery : Query :=
  let embeds := fun name content => Field.mk ⟨name, none, .flatten⟩ content
  let deep := Query.mk "DeepQuery" [partField "a" 1, partField "b" 2] none
  let middle := Query.mk "MiddleQuery" [embeds "deep" (.query deep), partField "c" 3] none
  let group := Query.mk "GroupQuery"
    [embeds "none" .absent, embeds "middle" (.query middle), partField "d" 4] none
  .mk "OuterQuery" [.mk ⟨"any_or", none, .group .or .ofQuery⟩ (.query group)] none

def splicedQuery : Query :=
  let group := Query.mk "FlatQuery"
    [partField "a" 1, partField "b" 2, partField "c" 3, partField "d" 4] none
  .mk "OuterQuery" [.mk ⟨"any_or", none, .group .or .ofQuery⟩ (.query group)] none

theorem flatten_transparent_embeddingQuery :
    let operations := [Operation.condition embeddingQuery]
    Shelf.plans.Uniform (operations.flatMap Operation.types ++ embeddingQuery.types) ∧
      embeddingQuery.Recasts Field.Splices splicedQuery ∧
        Shelf.plans.Uniform
            (([] : List Operation).flatMap Operation.types ++ splicedQuery.types) ∧
          answer (condition splicedQuery) (reached {} []) =
              answer (condition embeddingQuery) (reached {} operations) ∧
            answer (condition embeddingQuery) (reached {} operations) =
              ⟨"(a = ? OR b = ? OR c = ? OR d = ?)", [.int 1, .int 2, .int 3, .int 4]⟩ := by
  intro operations
  have huniform : Shelf.plans.Uniform
      (operations.flatMap Operation.types ++ embeddingQuery.types) := by
    unfold Shelf.Uniform
    decide +kernel
  have hothers : Shelf.plans.Uniform
      (([] : List Operation).flatMap Operation.types ++ splicedQuery.types) := by
    unfold Shelf.Uniform
    decide +kernel
  have hkept : ∀ {fields others : List Field} (name : String) (value : Int64),
      Field.Recasts Field.Splices fields others ->
        Field.Recasts Field.Splices (partField name value :: fields)
          (partField name value :: others) :=
    fun name value => .keep (.scalar _)
  have hgroup := hkept "a" 1 (hkept "b" 2 (hkept "c" 3 (hkept "d" 4 .nil)))
  have hrecasts : embeddingQuery.Recasts Field.Splices splicedQuery :=
    .mk (.keep (.query (.mk (.bare rfl nofun
      (.replace (.query rfl) (.replace (.query rfl) hgroup))))) .nil)
  have h := (flatten_transparent {} huniform).left [] splicedQuery hrecasts hothers
  exact ⟨huniform, hrecasts, hothers, h, by decide +kernel⟩

end Session
end Criteria
