import Criteria.Proofs.Derive.Readings

/-!
# Optional lists

An optional list is the type of a condition on many values.  Whether its elements are bound as
arguments decides on the kind of the field: values of a condition or of a group, and for the group
queries otherwise.  The group looks for a list first and reads one.  The condition first asks whether
the whole list is one argument, to which the setting for scalars says yes whatever the type is.
-/

namespace Criteria

namespace Source
namespace TypeExpr

/-!
# Types by their names
-/

theorem inside?_eq_none
    {type : TypeExpr} {name wrapper : String}
    (h : type.isNamed name = true)
    (hwrapper : name ≠ wrapper) :
    type.inside? wrapper = none := by
  cases type with
  | path root parents last =>
      have hlast : last.name = name := Option.some.inj (beq_iff_eq.mp h)
      refine if_neg ?_
      rwa [hlast]
  | reference => rfl
  | parens => rfl
  | trait => rfl
  | other => rfl

theorem unboxed_eq_self
    {type : TypeExpr}
    (h : type.inside? "Box" = none) :
    type.unboxed = type := by
  rw [unboxed]
  split
  next inner hinner =>
    rw [h] at hinner
    cases hinner
  next => rfl

theorem isScalar_of_listInside?
    {type element : TypeExpr}
    (h : type.listInside? = some element) :
    type.isScalar = element.isNamed "u8" := by
  rw [isScalar, h]

theorem isScalar_of_isNamed
    {type : TypeExpr} {name : String}
    (h : type.isNamed name = true)
    (hname : name ∈ scalarNames) :
    type.isScalar = true := by
  have hother : name ≠ "Vec" ∧ name ≠ "Option" ∧ name ≠ "Box" :=
    (by decide : ∀ name ∈ scalarNames, name ≠ "Vec" ∧ name ≠ "Option" ∧ name ≠ "Box") name hname
  have hlist : type.listInside? = none := inside?_eq_none h hother.left
  have hoption : type.optionInside? = none := inside?_eq_none h hother.right.left
  have hbox : type.unboxed = type := unboxed_eq_self (inside?_eq_none h hother.right.right)
  have hlast : type.lastName? = some name := beq_iff_eq.mp h
  rw [isScalar, hlist]
  dsimp only
  split
  next inner hinner =>
    rw [hoption] at hinner
    cases hinner
  next =>
    rw [hbox, hlast]
    exact List.contains_iff_mem.mpr hname

/-- An optional list of the elements. -/
def IsListOf (type element : TypeExpr) : Prop :=
  ∃ inner, type.optionInside? = some inner ∧ inner.listInside? = some element

theorem IsListOf.isFlag
    {type element : TypeExpr}
    (h : type.IsListOf element) :
    type.isFlag = false := by
  rcases h with ⟨inner, hinner, _⟩
  refine Bool.eq_false_iff.mpr fun hflag => ?_
  unfold TypeExpr.isFlag at hflag
  split at hflag
  next name =>
    -- a plain name has nothing inside
    have hnone : (TypeExpr.path .here [] (.plain name)).optionInside? = none := ite_self none
    rw [hnone] at hinner
    cases hinner
  next => cases hflag

end TypeExpr
end Source

namespace Derive

open Source

/-!
# Fields without a role
-/

/-- Nothing but the name and the type says what the field is. -/
structure QuerySettings.Roleless (settings : QuerySettings) (type : TypeExpr) : Prop where
  page : (settings.page || type.isPage) = false
  flatten : settings.flatten = false
  path : settings.path = none
  subquery : settings.subquery = none
  condition : settings.condition = none

namespace QuerySettings

variable {settings : QuerySettings} {type element : TypeExpr}

theorem treatsAsScalar_list
    (hlist : type.listInside? = some element)
    (h : settings.treatsAsScalar element = true) :
    settings.treatsAsScalar type = (settings.scalar || element.isNamed "u8") := by
  unfold treatsAsScalar at h ⊢
  rw [TypeExpr.isScalar_of_listInside? hlist]
  cases hscalar : settings.scalar with
  | true => rfl
  | false =>
      rw [hscalar, Bool.false_or, Bool.and_eq_true] at h
      rw [h.left, Bool.true_and]

theorem not_treatsAsScalar_list
    (hlist : type.listInside? = some element)
    (h : settings.treatsAsScalar element = false) :
    settings.treatsAsScalar type = false := by
  unfold treatsAsScalar at h ⊢
  rw [TypeExpr.isScalar_of_listInside? hlist]
  cases hbytes : element.isNamed "u8" with
  | true => rwa [TypeExpr.isScalar_of_isNamed hbytes (by decide)] at h
  | false =>
      rw [Bool.or_eq_false_iff] at h
      rw [h.left, Bool.and_false]
      rfl

end QuerySettings

namespace Classification

variable {settings : QuerySettings} {name : String} {type element : TypeExpr}

theorem ofField_of_roleless
    (h : settings.Roleless type)
    (name : String) :
    ofField settings name type =
      match connective? name with
      | some connective => ofGroup settings type connective
      | none => plain settings type := by
  unfold ofField
  rw [h.page, h.flatten, h.path, h.subquery, h.condition]
  cases connective? name <;> rfl

theorem kind_ofPath_ne
    (type : TypeExpr) (raw : String) :
    (ofPath type raw).kind ≠ .scalar := by
  intro h
  unfold ofPath at h
  split at h
  next => cases h
  next => split at h <;> cases h

theorem kind_ofSubquery_ne
    (settings : QuerySettings) (type : TypeExpr) (raw : String) :
    (ofSubquery settings type raw).kind ≠ .scalar := by
  intro h
  unfold ofSubquery at h
  split at h
  next => cases h
  next => split at h <;> cases h

theorem kind_ofCondition_ne
    (settings : QuerySettings) (type : TypeExpr) (template : String) :
    (ofCondition settings type template).kind ≠ .scalar := by
  intro h
  unfold ofCondition at h
  dsimp only at h
  split at h <;>
    split at h <;>
      cases h

theorem kind_ofGroup_ne
    (settings : QuerySettings) (type : TypeExpr) (connective : Connective) :
    (ofGroup settings type connective).kind ≠ .scalar := by
  intro h
  unfold ofGroup at h
  split at h
  next => cases h
  next =>
    split at h
    next => split at h <;> cases h
    next => cases h

theorem roleless_of_kind_eq_scalar
    (h : (ofField settings name type).kind = .scalar) :
    settings.Roleless type ∧ connective? name = none := by
  unfold ofField at h
  split at h
  next => cases h
  next hpage =>
    split at h
    next => cases h
    next hflatten =>
      split at h
      next => exact absurd h (kind_ofPath_ne _ _)
      next => exact absurd h (kind_ofSubquery_ne _ _ _)
      next => exact absurd h (kind_ofCondition_ne _ _ _)
      next => exact absurd h (kind_ofGroup_ne _ _ _)
      next hpath hsubquery hcondition hname =>
        exact ⟨⟨Bool.eq_false_iff.mpr hpage, Bool.eq_false_iff.mpr hflatten, hpath, hsubquery,
          hcondition⟩, hname⟩

/-!
# Lists
-/

theorem ofGroup_of_isListOf
    (h : type.IsListOf element)
    (connective : Connective) :
    ofGroup settings type connective =
      if settings.treatsAsScalar element then
        ⟨.group connective .values, some .list⟩
      else
        ⟨.group connective .queries, some .queries⟩ := by
  rcases h with ⟨inner, hinner, hlist⟩
  unfold ofGroup
  rw [hinner]
  dsimp only
  rw [hlist]

theorem plain_of_isListOf
    (h : type.IsListOf element) :
    plain settings type =
      if settings.treatsAsScalar element then
        ⟨.scalar, some (if settings.scalar || element.isNamed "u8" then .scalar else .list)⟩
      else
        unsupported "expected bool, Option<scalar> or Option<Vec<scalar>>" := by
  have hflag := h.isFlag
  rcases h with ⟨inner, hinner, hlist⟩
  unfold plain
  rw [hflag, if_neg Bool.false_ne_true, hinner]
  dsimp only
  rw [hlist]
  dsimp only
  by_cases helement : settings.treatsAsScalar element = true
  · rw [if_pos helement, if_pos helement, QuerySettings.treatsAsScalar_list hlist helement]
    cases settings.scalar || element.isNamed "u8" <;> rfl
  · have hinside := QuerySettings.not_treatsAsScalar_list hlist (Bool.eq_false_iff.mpr helement)
    rw [if_neg helement, if_neg helement, hinside, if_neg Bool.false_ne_true]

theorem ofField_of_isListOf
    (hlist : type.IsListOf element)
    (hroleless : settings.Roleless type)
    (hname : connective? name = none) :
    ofField settings name type =
      if settings.treatsAsScalar element then
        ⟨.scalar, some (if settings.scalar || element.isNamed "u8" then .scalar else .list)⟩
      else
        unsupported "expected bool, Option<scalar> or Option<Vec<scalar>>" := by
  rw [ofField_of_roleless hroleless, hname]
  exact plain_of_isListOf hlist

theorem kind_eq_scalar_iff
    (hlist : type.IsListOf element) :
    (ofField settings name type).kind = .scalar ↔
      settings.Roleless type ∧ connective? name = none ∧
        settings.treatsAsScalar element = true := by
  constructor
  · intro h
    rcases roleless_of_kind_eq_scalar h with ⟨hroleless, hname⟩
    refine ⟨hroleless, hname, Decidable.byContradiction fun helement => ?_⟩
    rw [ofField_of_isListOf hlist hroleless hname, if_neg helement] at h
    cases h
  · rintro ⟨hroleless, hname, helement⟩
    rw [ofField_of_isListOf hlist hroleless hname, if_pos helement]

theorem ofField_group_of_isListOf
    (hlist : type.IsListOf element)
    (h : (ofField settings name type).kind = .scalar)
    {group : String} {connective : Connective}
    (hgroup : connective? group = some connective) :
    ofField settings group type = ⟨.group connective .values, some .list⟩ := by
  rcases (kind_eq_scalar_iff hlist).mp h with ⟨hroleless, _, helement⟩
  rw [ofField_of_roleless hroleless, hgroup]
  dsimp only
  rw [ofGroup_of_isListOf hlist, if_pos helement]

end Classification

/-!
# Declared fields
-/

structure QuerySettings.Accepted (attrs : List Attribute) : Prop where
  faultless : (QuerySettings.read attrs).2 = []
  compatible : (QuerySettings.read attrs).1.conflicts = []
  kept : (QuerySettings.read attrs).1.skip = false

theorem QueryField.ofDeclaration_eq_some_iff
    {field : FieldDeclaration} {own : QueryField} :
    ofDeclaration field = .ok (some own) ↔
      QuerySettings.Accepted field.attrs ∧
        let settings := (QuerySettings.read field.attrs).1
        let found := Classification.ofField settings field.name field.type
        own = ⟨field.name, field.type, settings.column, found.kind, found.access⟩ := by
  unfold ofDeclaration
  dsimp only
  constructor
  · intro h
    split at h
    · cases h
    · next hnone =>
      split at h
      · cases h
      · next hskip =>
        cases h
        rw [Bool.not_eq_true', Bool.not_eq_false, List.isEmpty_iff, List.append_eq_nil_iff] at hnone
        rcases hnone with ⟨hfaults, hconflicts⟩
        exact ⟨⟨List.map_eq_nil_iff.mp hfaults, hconflicts, Bool.eq_false_iff.mpr hskip⟩, rfl⟩
  · rintro ⟨haccepted, rfl⟩
    rw [haccepted.faultless, haccepted.compatible, haccepted.kept]
    rfl

/-- An optional list is a condition if it has no role, its name has no connective, and its elements
are scalars.  It is then read as a list unless the setting for scalars stands on it or it is a list
of bytes.  A group of this type and with these attributes is read as a list in any case. -/
theorem list_read_iff
    {field : FieldDeclaration} {own : QueryField} {element : TypeExpr}
    (hlist : field.type.IsListOf element)
    (hfield : QueryField.ofDeclaration field = .ok (some own)) :
    let settings := (QuerySettings.read field.attrs).1
    (own.kind = .scalar ↔ settings.Roleless field.type ∧
        Classification.connective? field.name = none ∧ settings.treatsAsScalar element = true) ∧
      (own.kind = .scalar ->
        (own.access = some .list ∨ own.access = some .scalar) ∧
          (own.access = some .list ↔ settings.scalar = false ∧ element.isNamed "u8" = false) ∧
            ∀ (group : FieldDeclaration) (connective : Connective), group.attrs = field.attrs ->
              group.type = field.type -> Classification.connective? group.name = some connective ->
                QueryField.ofDeclaration group = .ok (some ⟨group.name, group.type, own.column,
                  .group connective .values, some .list⟩)) := by
  intro settings
  rcases QueryField.ofDeclaration_eq_some_iff.mp hfield with ⟨haccepted, rfl⟩
  refine ⟨Classification.kind_eq_scalar_iff hlist, fun hkind => ?_⟩
  rcases (Classification.kind_eq_scalar_iff hlist).mp hkind with ⟨hroleless, hname, helement⟩
  dsimp only
  rw [Classification.ofField_of_isListOf hlist hroleless hname, if_pos helement]
  refine ⟨?_, ?_, ?_⟩
  · dsimp only
    split
    · exact Or.inr rfl
    · exact Or.inl rfl
  · rw [← Bool.or_eq_false_iff]
    cases settings.scalar || element.isNamed "u8" <;> simp
  · intro group connective hattrs htype hconnective
    apply QueryField.ofDeclaration_eq_some_iff.mpr
    rw [hattrs, htype]
    refine ⟨haccepted, ?_⟩
    dsimp only
    rw [Classification.ofField_group_of_isListOf hlist hkind hconnective]

def optionalList (name : String) : TypeExpr :=
  .path .here [] (.applied "Option" false
    [.type (.path .here [] (.applied "Vec" false [.type (plainType name)] false))] false)

theorem isListOf_optionalList
    (name : String) :
    (optionalList name).IsListOf (plainType name) :=
  ⟨_, rfl, rfl⟩

def listField (name type : String) (inner : List Token) : FieldDeclaration :=
  ⟨⟨[⟨false, ["query"], .list .round inner⟩], [], optionalList type⟩, name⟩

/-- A list of numbers under a column of its own, and the group with the same attribute. -/
theorem list_read_iff_numberIn :
    let column : List Token := [.word "column", .mark '=' false, .ofText "no"]
    let own : QueryField :=
      ⟨"number_in", optionalList "u64", some "no", .scalar, some .list⟩
    QueryField.ofDeclaration (listField "number_in" "u64" column) = .ok (some own) ∧
      own.access = some .list ∧
        QueryField.ofDeclaration (listField "number_or" "u64" column) =
          .ok (some ⟨"number_or", optionalList "u64", some "no", .group .or .values,
            some .list⟩) := by
  intro column own
  let settings : QuerySettings :=
    { skip := false, page := false, flatten := false, scalar := false, nested := false
      path := none, subquery := none, condition := none, column := some "no" }
  have hlist := isListOf_optionalList "u64"
  have hname : Classification.connective? "number_in" = none := by
    decide +kernel
  have hgroupName : Classification.connective? "number_or" = some .or := by
    decide +kernel
  have hnamed : (plainType "u64").isNamed "u64" = true := rfl
  have helement : settings.treatsAsScalar (plainType "u64") = true :=
    TypeExpr.isScalar_of_isNamed hnamed (by decide)
  have hfound : Classification.ofField settings "number_in" (optionalList "u64") =
      ⟨.scalar, some .list⟩ := by
    rw [Classification.ofField_of_isListOf hlist ⟨rfl, rfl, rfl, rfl, rfl⟩ hname,
      if_pos helement]
    rfl
  have hfield : QueryField.ofDeclaration (listField "number_in" "u64" column) =
      .ok (some own) :=
    QueryField.ofDeclaration_eq_some_iff.mpr
      ⟨⟨rfl, rfl, rfl⟩, congrArg (fun found : Classification => QueryField.mk "number_in"
        (optionalList "u64") (some "no") found.kind found.access) hfound.symm⟩
  rcases (list_read_iff hlist hfield).right rfl with ⟨_, haccess, hgroup⟩
  exact ⟨hfield, haccess.mpr ⟨rfl, rfl⟩,
    hgroup (listField "number_or" "u64" column) .or rfl rfl hgroupName⟩

/-- The setting that makes the elements scalars makes one scalar of the list, and not of the group. -/
theorem list_read_as_scalar_statusIn :
    let type := optionalList "Status"
    type.IsListOf (plainType "Status") ∧ (plainType "Status").isNamed "u8" = false ∧
      QueryField.ofDeclaration (listField "status_in" "Status" [.word "scalar"]) =
        .ok (some ⟨"status_in", type, none, .scalar, some .scalar⟩) ∧
          QueryField.ofDeclaration (listField "status_or" "Status" [.word "scalar"]) =
            .ok (some ⟨"status_or", type, none, .group .or .values, some .list⟩) :=
  ⟨isListOf_optionalList "Status", rfl, rfl, rfl⟩

end Derive
end Criteria
