import Criteria.Proofs.Derive.Implementations

/-!
# Families of records

A record may embed others, to any depth.  A field that is neither skipped nor embedded holds one
value, and is reached from the whole value through embedded fields.  These fields, in the order in
which they are declared, make the columns of the derived description, and theirs are the values
that the derived code writes.
-/

namespace Criteria
namespace Derive

open Source

/-!
# Fields that hold one value
-/

/-- A field that holds one value, with the embedded fields that lead to it, outermost first. -/
structure LeafField where
  above : List FieldDeclaration
  field : FieldDeclaration

namespace LeafField

def steps (leaf : LeafField) : List FieldDeclaration :=
  leaf.above ++ [leaf.field]

def path (leaf : LeafField) : List String :=
  leaf.steps.map FieldDeclaration.name

def within (outer : FieldDeclaration) (leaf : LeafField) : LeafField :=
  ⟨outer :: leaf.above, leaf.field⟩

def column (naming : Naming) (leaf : LeafField) : Leaf where
  column := (RowField.explicitColumn leaf.field).getD (naming.column leaf.field.name)
  isIdentity := RowField.isMarked "id" leaf.field

def ofDeclaration (below : TypeExpr -> List LeafField) (field : FieldDeclaration) :
    List LeafField :=
  if RowField.isSkipped field then []
  else if RowField.placementOf field = .embedded then (below field.type).map (within field)
  else [⟨[], field⟩]

theorem steps_within
    (outer : FieldDeclaration) (leaf : LeafField) :
    (leaf.within outer).steps = outer :: leaf.steps :=
  rfl

end LeafField

/-!
# Families
-/

/-- A record with what its embedded fields hold, by their types; a type may also have no columns. -/
inductive Family where
  | empty
  | node (record : RowRecord) (parts : TypeExpr -> Family)

namespace Family

def implementation : Family -> Implementation
  | .empty => ⟨.mk "" "" none [], fun _ => []⟩
  | .node record parts => record.implement fun type => (parts type).implementation

def leafFields : Family -> List LeafField
  | .empty => []
  | .node record parts =>
      record.fields.flatMap (LeafField.ofDeclaration fun type => (parts type).leafFields)

end Family

/-!
# Code that goes through the declared fields
-/

theorem flatMap_filterMap_declared
    {α : Type} (f : RowField -> List α) (fields : List FieldDeclaration) :
    (fields.filterMap RowField.declared?).flatMap f =
      fields.flatMap fun field => (RowField.declared? field).toList.flatMap f := by
  induction fields with
  | nil => rfl
  | cons field fields ih =>
      rw [List.filterMap_cons, List.flatMap_cons]
      cases RowField.declared? field with
      | none => exact ih
      | some row =>
          rw [List.flatMap_cons, ih]
          simp

theorem isIdentity_placementOf
    (field : FieldDeclaration) :
    (RowField.placementOf field == .identity) = RowField.isMarked "id" field := by
  unfold RowField.placementOf
  cases RowField.isMarked "id" field with
  | true => rfl
  | false => cases RowField.isMarked "embed" field <;> rfl

namespace RowRecord

variable {record : RowRecord} {implementation : TypeExpr -> Implementation}
variable {below : TypeExpr -> List LeafField}

theorem columns_declared
    {naming : Naming}
    (hbelow : ∀ type, (implementation type).description.leaves naming =
      (below type).map (LeafField.column naming))
    (field : FieldDeclaration) :
    (RowField.declared? field).toList.flatMap (RowField.columns naming implementation) =
      (LeafField.ofDeclaration below field).map (LeafField.column naming) := by
  unfold RowField.declared? LeafField.ofDeclaration
  split
  next => rfl
  next =>
    rw [Option.toList_some, List.flatMap_singleton]
    split
    next hembedded =>
      rw [RowField.columns_of_embedded naming hembedded, List.map_map]
      exact hbelow field.type
    next hother =>
      rw [RowField.columns_of_not_embedded naming hother]
      simp only [RowField.isIdentity, isIdentity_placementOf]
      rfl

theorem values_declared
    (hbelow : ∀ type contents, (implementation type).write contents =
      (below type).map fun leaf => contents leaf.path)
    (contents : Contents) {field : FieldDeclaration}
    (hfield : field ∈ record.fields) :
    (RowField.declared? field).toList.flatMap (record.values implementation contents) =
      (LeafField.ofDeclaration below field).map fun leaf => contents leaf.path := by
  have hmem : ∀ row, RowField.declared? field = some row -> row ∈ record.definition.fields := by
    intro row hrow
    rw [fields_definition]
    exact List.mem_filterMap.mpr ⟨field, hfield, hrow⟩
  unfold RowField.declared? at hmem ⊢
  unfold LeafField.ofDeclaration
  split
  next => rfl
  next hskipped =>
    rw [Option.toList_some, List.flatMap_singleton]
    split
    next hembedded =>
      rw [values_of_embedded (hmem _ (if_neg hskipped)) hembedded, List.map_map]
      exact hbelow field.type _
    next hother => exact values_of_not_embedded hother contents

/-!
# Fields that identify a row
-/

def identities (record : RowRecord) : List FieldDeclaration :=
  record.fields.filter fun field => !RowField.isSkipped field && RowField.isMarked "id" field

theorem exists_declared_of_mem_identities
    {field : FieldDeclaration}
    (h : field ∈ record.identities) :
    ∃ row, RowField.declared? field = some row := by
  have hskipped : RowField.isSkipped field = false := by
    have hmarks := (List.mem_filter.mp h).right
    simp only [Bool.and_eq_true, Bool.not_eq_true'] at hmarks
    exact hmarks.left
  unfold RowField.declared?
  rw [hskipped]
  exact ⟨_, rfl⟩

theorem filterMap_identities
    (record : RowRecord) :
    record.identities.filterMap RowField.declared? = record.definition.identity?.toList := by
  have hfilter := (EntityDefinition.identities_ofDeclaration record.accepted).left
  rw [← hfilter, fields_definition, identities, List.filterMap_filter, List.filter_filterMap]
  congr 1
  funext field
  unfold RowField.declared?
  cases hskipped : RowField.isSkipped field with
  | true => rfl
  | false =>
      rw [← isIdentity_placementOf field]
      simp [Option.filter, RowField.isIdentity]

theorem identities_eq_nil
    (h : record.definition.identity? = none) :
    record.identities = [] := by
  have hlist := filterMap_identities record
  rw [h, Option.toList_none, List.filterMap_eq_nil_iff] at hlist
  apply List.eq_nil_iff_forall_not_mem.mpr
  intro field hfield
  rcases exists_declared_of_mem_identities hfield with ⟨row, hrow⟩
  rw [hlist field hfield] at hrow
  cases hrow

theorem identities_eq_singleton
    {row : RowField}
    (h : record.definition.identity? = some row) :
    ∃ own, record.identities = [own] ∧ RowField.declared? own = some row := by
  have hlist := filterMap_identities record
  have hdeclared : ∀ field ∈ record.identities, ∃ row, RowField.declared? field = some row := by
    intro field hfield
    exact exists_declared_of_mem_identities hfield
  rw [h, Option.toList_some] at hlist
  cases hidentities : record.identities with
  | nil =>
      rw [hidentities] at hlist
      cases hlist
  | cons own others =>
      rw [hidentities] at hdeclared hlist
      rcases hdeclared own List.mem_cons_self with ⟨first, hfirst⟩
      rw [List.filterMap_cons_some hfirst] at hlist
      rcases List.cons.inj hlist with ⟨hrow, hothers⟩
      refine ⟨own, ?_, by rw [hfirst, hrow]⟩
      cases others with
      | nil => rfl
      | cons other others =>
          have hother : other ∈ own :: other :: others :=
            List.mem_cons_of_mem own List.mem_cons_self
          rcases hdeclared other hother with ⟨second, hsecond⟩
          rw [List.filterMap_cons_some hsecond] at hothers
          cases hothers

theorem identities_cases
    (record : RowRecord) :
    (record.definition.isPart = true ->
        record.identities = [] ∧ record.definition.identity? = none) ∧
      (record.definition.isPart = false ->
        ∃ own, record.identities = [own] ∧
          record.definition.identity? = RowField.declared? own) := by
  have hpart := (EntityDefinition.identities_ofDeclaration record.accepted).right
  constructor
  · intro hisPart
    have hnone := hpart.mp hisPart
    exact ⟨identities_eq_nil hnone, hnone⟩
  · intro hentity
    cases hidentity : record.definition.identity? with
    | none =>
        rw [hpart.mpr hidentity] at hentity
        cases hentity
    | some row =>
        rcases identities_eq_singleton hidentity with ⟨own, hown, hrow⟩
        exact ⟨own, hown, hrow.symm⟩

end RowRecord

namespace Family

/-!
# Families as a whole
-/

theorem leaves_implementation
    (naming : Naming) (family : Family) :
    family.implementation.description.leaves naming =
      family.leafFields.map (LeafField.column naming) := by
  induction family with
  | empty => rfl
  | node record parts ih =>
      rw [implementation, RowRecord.leaves_implement, record.fields_definition,
        flatMap_filterMap_declared, leafFields, List.map_flatMap]
      congr 1
      funext field
      exact RowRecord.columns_declared ih field

theorem write_implementation
    (family : Family) (contents : Contents) :
    family.implementation.write contents =
      family.leafFields.map fun leaf => contents leaf.path := by
  induction family generalizing contents with
  | empty => rfl
  | node record parts ih =>
      rw [implementation, RowRecord.write_implement, record.fields_definition,
        flatMap_filterMap_declared, leafFields, List.map_flatMap, List.flatMap_def,
        List.flatMap_def]
      congr 1
      apply List.map_congr_left
      intro field hfield
      exact RowRecord.values_declared ih contents hfield

theorem lawful_implementation
    (naming : Naming) (family : Family) :
    family.implementation.Lawful naming := by
  intro contents
  rw [write_implementation, leaves_implementation, List.length_map, List.length_map]

theorem not_isSkipped_of_mem_leafFields
    {family : Family} {leaf : LeafField}
    (hleaf : leaf ∈ family.leafFields)
    {field : FieldDeclaration}
    (hfield : field ∈ leaf.steps) :
    RowField.isSkipped field = false := by
  induction family generalizing leaf with
  | empty => cases hleaf
  | node record parts ih =>
      rcases List.mem_flatMap.mp hleaf with ⟨declared, _, hin⟩
      unfold LeafField.ofDeclaration at hin
      split at hin
      next => cases hin
      next hskipped =>
        have hdeclared : RowField.isSkipped declared = false := Bool.eq_false_iff.mpr hskipped
        split at hin
        next =>
          rcases List.mem_map.mp hin with ⟨inner, hinner, rfl⟩
          rw [LeafField.steps_within] at hfield
          rcases List.mem_cons.mp hfield with rfl | hlater
          · exact hdeclared
          · exact ih declared.type hinner hlater
        next =>
          rw [List.mem_singleton] at hin
          subst hin
          rw [List.mem_singleton.mp hfield]
          exact hdeclared

end Family

/-!
# Members of a team

A member embeds a team, which is an entity of its own and embeds a region.
-/

def bareAttribute (name : String) : Attribute :=
  ⟨false, [name], .bare⟩

def listAttribute (name : String) (inner : List Token) : Attribute :=
  ⟨false, [name], .list .round inner⟩

def declaredField (name type : String) (attrs : List Attribute) : FieldDeclaration :=
  ⟨⟨attrs, [], plainType type⟩, name⟩

def declaredRecord (name : String) (attrs : List Attribute) (fields : List FieldDeclaration) :
    Declaration where
  attrs := attrs
  visibility := []
  name := name
  parameters := ⟨[], false, []⟩
  body := .record ⟨fields, true⟩

def regionCode : FieldDeclaration :=
  declaredField "code" "String"
    [listAttribute "column" [.word "name", .mark '=' false, .ofText "region_code"]]

def regionNote : FieldDeclaration :=
  declaredField "note" "String" [listAttribute "column" [.word "skip"]]

def regionRecord : RowRecord where
  place := "app"
  declaration :=
    declaredRecord "Region" [listAttribute "entity" [.word "embeddable"]] [regionCode, regionNote]
  definition := ⟨"Region", none, true, [⟨"code", plainType "String", some "region_code", .column⟩]⟩
  accepted := by rfl
  distinct := by decide

def teamNumber : FieldDeclaration :=
  declaredField "number" "u64" [bareAttribute "id"]

def teamRegion : FieldDeclaration :=
  declaredField "region" "Region" [bareAttribute "embed"]

def teamRecord : RowRecord where
  place := "app"
  declaration := declaredRecord "Team" [] [teamNumber, teamRegion]
  definition :=
    ⟨"Team", none, false,
      [⟨"number", plainType "u64", none, .identity⟩,
        ⟨"region", plainType "Region", none, .embedded⟩]⟩
  accepted := by rfl
  distinct := by decide

def memberTeam : FieldDeclaration :=
  declaredField "team" "Team" [bareAttribute "embed"]

def memberId : FieldDeclaration :=
  declaredField "id" "u64" [bareAttribute "id"]

def memberScore : FieldDeclaration :=
  declaredField "score" "i64" []

def memberRecord : RowRecord where
  place := "app"
  declaration := declaredRecord "Member" [] [memberTeam, memberId, memberScore]
  definition :=
    ⟨"Member", none, false,
      [⟨"team", plainType "Team", none, .embedded⟩, ⟨"id", plainType "u64", none, .identity⟩,
        ⟨"score", plainType "i64", none, .column⟩]⟩
  accepted := by rfl
  distinct := by decide

def memberParts : TypeExpr -> Family
  | .path .here [] (.plain "Team") =>
      .node teamRecord fun
        | .path .here [] (.plain "Region") => .node regionRecord fun _ => .empty
        | _ => .empty
  | _ => .empty

end Derive
end Criteria
