import Criteria.Derive.EntityCode
import Criteria.Entity
import Criteria.Proofs.Derive.Readings

/-!
# What the code of entities does

The code that is derived for a record describes the columns that its values fill and writes these
values.  For an embedded field it calls what is implemented for the field's type: the description
by the type that stands in the entry, the writing by the type of the field that has the name.
-/

namespace Criteria

/-!
# Columns field by field
-/

namespace Entity

theorem fieldLeaves_eq_flatMap
    (naming : Naming) (fields : List EntityField) :
    Entity.fieldLeaves naming fields =
      fields.flatMap fun field => Entity.fieldLeaves naming [field] := by
  induction fields with
  | nil => rfl
  | cons field fields ih =>
      cases field
      rw [List.flatMap_cons, ← ih]
      simp only [Entity.fieldLeaves, List.append_nil]

end Entity

namespace Derive

open Source

/-!
# Declared fields
-/

def declaredFields (declaration : Declaration) : List FieldDeclaration :=
  match recordFields declaration.body with
  | .ok fields => fields
  | .error _ => []

namespace RowField

def settingsOf (field : FieldDeclaration) : List Setting :=
  match settings field.attrs with
  | .ok settings => settings
  | .error _ => []

def isSkipped (field : FieldDeclaration) : Bool :=
  isSet (settingsOf field) "skip"

def isMarked (mark : String) (field : FieldDeclaration) : Bool :=
  field.attrs.any fun attr => attr.isNamed mark

def explicitColumn (field : FieldDeclaration) : Option String :=
  textOf? (settingsOf field) "name"

def placementOf (field : FieldDeclaration) : Placement :=
  if isMarked "id" field then .identity
  else if isMarked "embed" field then .embedded
  else .column

def declared? (field : FieldDeclaration) : Option RowField :=
  if isSkipped field then none
  else some ⟨field.name, field.type, explicitColumn field, placementOf field⟩

theorem placement?_ok
    {field : FieldDeclaration} {placement : Placement}
    (h : placement? field.attrs = .ok placement) :
    placement = placementOf field := by
  unfold placement? at h
  unfold placementOf isMarked
  dsimp only at h
  split at h
  next => cases h
  next hid _ =>
    cases h
    rw [if_pos hid]
  next hid hembed =>
    cases h
    rw [if_neg (by simp [hid]), if_pos hembed]
  next hid hembed =>
    cases h
    rw [if_neg (by simp [hid]), if_neg (by simp [hembed])]

theorem ofDeclaration_ok
    {field : FieldDeclaration} {found : Option RowField}
    (h : ofDeclaration field = .ok found) :
    found = declared? field := by
  unfold ofDeclaration at h
  cases hsettings : settings field.attrs with
  | error rejection =>
      rw [hsettings] at h
      cases h
  | ok own =>
      have hown : settingsOf field = own := by
        unfold settingsOf
        rw [hsettings]
      rw [hsettings] at h
      have hbranch : (if isSet own "skip" then Except.ok none
          else (placement? field.attrs).map fun placement =>
            some ⟨field.name, field.type, textOf? own "name", placement⟩) = Except.ok found := by
        rw [← h]
        show _ = if isSet own "skip" then _ else _
        split
        · rfl
        · cases placement? field.attrs <;> rfl
      unfold declared? isSkipped explicitColumn
      rw [hown]
      split at hbranch
      next hskip =>
        cases hbranch
        exact (if_pos hskip).symm
      next hskip =>
        cases hplacement : placement? field.attrs with
        | error rejection =>
            rw [hplacement] at hbranch
            cases hbranch
        | ok placement =>
            rw [hplacement] at hbranch
            cases hbranch
            rw [if_neg hskip, placement?_ok hplacement]

end RowField

theorem filterMap_of_mapM_ok
    {α β ε : Type} {f : α -> Except ε (Option β)} {g : α -> Option β}
    (hfound : ∀ x found, f x = .ok found -> found = g x)
    {xs : List α} {read : List (Option β)}
    (h : xs.mapM f = .ok read) :
    read.filterMap id = xs.filterMap g := by
  induction xs generalizing read with
  | nil =>
      cases h
      rfl
  | cons x xs ih =>
      rw [List.mapM_cons] at h
      cases hx : f x with
      | error fault =>
          rw [hx] at h
          cases h
      | ok found =>
          cases hxs : xs.mapM f with
          | error fault =>
              rw [hx, hxs] at h
              cases h
          | ok later =>
              rw [hx, hxs] at h
              cases h
              rw [List.filterMap_cons, List.filterMap_cons, ih hxs, hfound x found hx]
              rfl

namespace EntityDefinition

theorem fields_ofDeclaration
    {declaration : Declaration} {definition : EntityDefinition}
    (h : ofDeclaration declaration = .ok definition) :
    definition.fields = (declaredFields declaration).filterMap RowField.declared? ∧
      identityFault? definition.isPart definition.fields = none := by
  unfold ofDeclaration at h
  cases hopen : openRecord "entity" headingKeys declaration with
  | error rejections =>
      rw [hopen] at h
      cases h
  | ok opened =>
      rcases opened with ⟨items, declared⟩
      have hdeclared : declaredFields declaration = declared := by
        unfold declaredFields
        rw [recordFields_of_openRecord hopen]
      rw [hopen] at h
      cases hgeneric : declaration.parameters.list.isEmpty with
      | false => simp [hgeneric, bind, Except.bind] at h
      | true =>
          cases hread : declared.mapM RowField.ofDeclaration with
          | error rejection =>
              have hmap : (Except.error rejection : Except _ (List (Option RowField))).mapError
                  (fun fault => [fault]) = .error [rejection] := rfl
              simp [hgeneric, hread, hmap, bind, Except.bind] at h
          | ok read =>
              have hmap : (Except.ok read : Except Rejection _).mapError
                  (fun fault => [fault]) = .ok read := rfl
              simp only [hgeneric, hread, hmap, bind, Except.bind, Bool.not_true,
                Bool.false_eq_true, if_false] at h
              split at h
              next => cases h
              next hfault =>
                cases h
                constructor
                · rw [hdeclared]
                  exact filterMap_of_mapM_ok (fun _ _ => RowField.ofDeclaration_ok) hread
                · exact hfault

theorem identity?_eq_head?
    {definition : EntityDefinition}
    (h : definition.isPart = false) :
    definition.identity? = (definition.fields.filter RowField.isIdentity).head? := by
  unfold identity? identityIndex?
  rw [h, List.head?_filter, List.find?_eq_bind_findIdx?_getElem?]
  rfl

theorem identities_ofDeclaration
    {declaration : Declaration} {definition : EntityDefinition}
    (h : ofDeclaration declaration = .ok definition) :
    definition.fields.filter RowField.isIdentity = definition.identity?.toList ∧
      (definition.isPart = true ↔ definition.identity? = none) := by
  have hfault := (fields_ofDeclaration h).right
  unfold identityFault? at hfault
  dsimp only at hfault
  cases hpart : definition.isPart with
  | true =>
      have hnone : definition.identity? = none := by
        unfold identity? identityIndex?
        rw [hpart]
        rfl
      have hnil : definition.fields.filter RowField.isIdentity = [] := by
        rw [hpart, if_pos rfl] at hfault
        split at hfault
        next => cases hfault
        next hcount => exact List.eq_nil_of_length_eq_zero (Nat.eq_zero_of_not_pos hcount)
      rw [hnone, hnil]
      exact ⟨rfl, fun _ => rfl, fun _ => rfl⟩
  | false =>
      rw [identity?_eq_head? hpart]
      rw [hpart, if_neg Bool.false_ne_true] at hfault
      split at hfault
      next hcount =>
        rcases List.length_eq_one_iff.mp hcount with ⟨own, hown⟩
        rw [hown]
        exact ⟨rfl, nofun, nofun⟩
      next => cases hfault

end EntityDefinition

/-!
# Carrying derived code out
-/

/-- What a value holds in its fields, by the names that lead to them through embedded values. -/
abbrev Contents :=
  List String -> Value

def Contents.within (contents : Contents) (field : String) : Contents :=
  fun path => contents (field :: path)

/-- What is implemented for a type whose values fill columns: the description of the columns and the
values that are written for them. -/
structure Implementation where
  description : Entity
  write : Contents -> List Value

def Implementation.Lawful (naming : Naming) (implementation : Implementation) : Prop :=
  ∀ contents,
    (implementation.write contents).length = (implementation.description.leaves naming).length

/-- A declared record for which the code of an entity or of a part is derived.  No two fields of a
record have one name. -/
structure RowRecord where
  /-- The full name of the module that declares the record. -/
  place : String
  declaration : Declaration
  definition : EntityDefinition
  accepted : EntityDefinition.ofDeclaration declaration = .ok definition
  distinct : ((declaredFields declaration).map FieldDeclaration.name).Nodup

def ColumnEntry.describe (implementation : TypeExpr -> Implementation) (entry : ColumnEntry) :
    EntityField :=
  .mk entry.name entry.column <|
    match entry.placement with
    | .column => .column
    | .identity => .identity
    | .embedded => .embedded (implementation entry.type).description

namespace RowRecord

def fields (record : RowRecord) : List FieldDeclaration :=
  declaredFields record.declaration

def code (record : RowRecord) : EntityCode :=
  record.definition.code

def typeOf? (record : RowRecord) (name : String) : Option TypeExpr :=
  (record.fields.find? fun field => field.name == name).map fun field => field.type

def perform (record : RowRecord) (implementation : TypeExpr -> Implementation)
    (contents : Contents) : Write -> List Value
  | .value field => [contents [field]]
  | .part field =>
      match record.typeOf? field with
      | some type => (implementation type).write (contents.within field)
      | none => []

def implement (record : RowRecord) (implementation : TypeExpr -> Implementation) :
    Implementation where
  description :=
    .mk (record.place ++ "::" ++ record.code.name) record.code.name record.code.table
      (record.code.entries.map (ColumnEntry.describe implementation))
  write := fun contents => record.code.writes.flatMap (record.perform implementation contents)

def row (record : RowRecord) (implementation : TypeExpr -> Implementation) (contents : Contents) :
    Row where
  values := (record.implement implementation).write contents
  id :=
    match record.code.identity with
    | some source => contents [source.field]
    | none => .null

end RowRecord

/-!
# One field of a row
-/

namespace RowField

variable {implementation : TypeExpr -> Implementation} {row : RowField}

def columns (naming : Naming) (implementation : TypeExpr -> Implementation) (row : RowField) :
    List Leaf :=
  Entity.fieldLeaves naming [row.entry.describe implementation]

theorem columns_of_embedded
    (naming : Naming)
    (hrow : row.placement = .embedded) :
    row.columns naming implementation = (implementation row.type).description.leaves naming := by
  simp only [columns, entry, ColumnEntry.describe, hrow, Entity.fieldLeaves, Entity.roleLeaves,
    List.append_nil]

theorem columns_of_not_embedded
    (naming : Naming)
    (hrow : row.placement ≠ .embedded) :
    row.columns naming implementation =
      [⟨row.column.getD (naming.column row.name), row.isIdentity⟩] := by
  rcases row with ⟨name, type, column, placement⟩
  cases placement with
  | column => rfl
  | identity => rfl
  | embedded => exact absurd rfl hrow

end RowField

namespace RowRecord

variable {record : RowRecord} {implementation : TypeExpr -> Implementation} {row : RowField}

def values (record : RowRecord) (implementation : TypeExpr -> Implementation)
    (contents : Contents) (row : RowField) : List Value :=
  record.perform implementation contents row.write

theorem fields_definition
    (record : RowRecord) :
    record.definition.fields = record.fields.filterMap RowField.declared? :=
  (EntityDefinition.fields_ofDeclaration record.accepted).left

theorem find?_name_of_mem
    {fields : List FieldDeclaration} {field : FieldDeclaration}
    (hdistinct : (fields.map FieldDeclaration.name).Nodup)
    (hfield : field ∈ fields) :
    fields.find? (fun other => other.name == field.name) = some field := by
  induction fields with
  | nil => cases hfield
  | cons other fields ih =>
      rw [List.map_cons, List.nodup_cons] at hdistinct
      rcases List.mem_cons.mp hfield with hself | hlater
      · subst hself
        rw [List.find?_cons_of_pos (by exact beq_self_eq_true field.name)]
      · have hother : other.name ≠ field.name := by
          intro heq
          apply hdistinct.left
          rw [heq]
          exact List.mem_map_of_mem hlater
        rw [List.find?_cons_of_neg (by simpa using hother)]
        exact ih hdistinct.right hlater

theorem typeOf?_of_mem
    (hrow : row ∈ record.definition.fields) :
    record.typeOf? row.name = some row.type := by
  rw [fields_definition] at hrow
  rcases List.mem_filterMap.mp hrow with ⟨field, hfield, hdeclared⟩
  unfold RowField.declared? at hdeclared
  split at hdeclared
  next => cases hdeclared
  next =>
    cases hdeclared
    exact congrArg (Option.map fun field => field.type) (find?_name_of_mem record.distinct hfield)

theorem values_of_embedded
    (hrow : row ∈ record.definition.fields)
    (hembedded : row.placement = .embedded)
    (contents : Contents) :
    record.values implementation contents row =
      (implementation row.type).write (contents.within row.name) := by
  simp only [values, RowField.write, hembedded, perform, typeOf?_of_mem hrow]

theorem values_of_not_embedded
    (hrow : row.placement ≠ .embedded)
    (contents : Contents) :
    record.values implementation contents row = [contents [row.name]] := by
  rcases row with ⟨name, type, column, placement⟩
  cases placement with
  | column => rfl
  | identity => rfl
  | embedded => exact absurd rfl hrow

theorem length_values
    {naming : Naming}
    (hlawful : ∀ type, (implementation type).Lawful naming)
    (contents : Contents)
    (hrow : row ∈ record.definition.fields) :
    (record.values implementation contents row).length =
      (row.columns naming implementation).length := by
  by_cases hembedded : row.placement = .embedded
  · rw [values_of_embedded hrow hembedded, RowField.columns_of_embedded naming hembedded]
    exact hlawful row.type _
  · rw [values_of_not_embedded hembedded, RowField.columns_of_not_embedded naming hembedded]
    rfl

/-!
# All fields of a row
-/

theorem leaves_implement
    (naming : Naming) :
    (record.implement implementation).description.leaves naming =
      record.definition.fields.flatMap (RowField.columns naming implementation) := by
  have hleaves : (record.implement implementation).description.leaves naming =
      Entity.fieldLeaves naming
        ((record.definition.fields.map RowField.entry).map
          (ColumnEntry.describe implementation)) := rfl
  rw [hleaves, Entity.fieldLeaves_eq_flatMap, List.map_map, List.flatMap_map]
  rfl

theorem write_implement
    (contents : Contents) :
    (record.implement implementation).write contents =
      record.definition.fields.flatMap (record.values implementation contents) := by
  have hwrite : (record.implement implementation).write contents =
      (record.definition.fields.map RowField.write).flatMap
        (record.perform implementation contents) := rfl
  rw [hwrite, List.flatMap_map]
  rfl

end RowRecord
end Derive
end Criteria
