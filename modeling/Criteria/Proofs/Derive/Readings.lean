import Criteria.Derive.QueryCode
import Criteria.Proofs.Compilation.Demands
import Criteria.Proofs.Compilation.Locality

/-!
# Readings of derived query types

The table that is derived for a query type and the function that reads its fields are made from the
same fields.  A field is read in a way that gives contents of the forms that its kind handles, so that
none of them is reported as such: a field is only ever reported for values that its operator refuses.
-/

namespace Criteria

open Derive
open Session (after answer report contentClauses)

/-!
# What is read
-/

/-- The contents that a function of the library gives for a field, whatever the field holds. -/
def Content.ReadBy (function : String) (content : Content) : Prop :=
  match function with
  | "scalar" => ∃ (α : Type) (_ : Bindable α) (x : Option α), content = .ofScalar x
  | "list" => ∃ (α : Type) (_ : Bindable α) (xs : Option (List α)), content = .ofList xs
  | "flag" => ∃ flag : Bool, content = .ofFlag flag
  | "nested" => ∃ query : Option Query, content = .ofQuery query
  | "embedded" => ∃ query : Query, content = .query query
  | "nested_list" => ∃ queries : Option (List Query), content = .ofQueries queries
  | "path" => ∃ hops : Option (List HopQuery), content = .ofHops hops
  | _ => False

namespace Derive

def Access.form : Access -> Content.Form
  | .scalar => .scalar
  | .flag => .scalar
  | .list => .list
  | .query => .query
  | .embedded => .query
  | .queries => .queries
  | .hops => .path

theorem Access.form_of_readBy
    {access : Access} {content : Content}
    (h : content.ReadBy (accessFunction access).1) :
    content.form = .absent ∨ content.form = access.form := by
  cases access with
  | scalar =>
      rcases h with ⟨α, _, x, rfl⟩
      cases x with
      | none => exact Or.inl rfl
      | some x => exact Or.inr rfl
  | list =>
      rcases h with ⟨α, _, xs, rfl⟩
      cases xs with
      | none => exact Or.inl rfl
      | some xs => exact Or.inr rfl
  | flag =>
      rcases h with ⟨flag, rfl⟩
      cases flag with
      | false => exact Or.inl rfl
      | true => exact Or.inr rfl
  | query =>
      rcases h with ⟨query, rfl⟩
      cases query with
      | none => exact Or.inl rfl
      | some query => exact Or.inr rfl
  | embedded =>
      rcases h with ⟨query, rfl⟩
      exact Or.inr rfl
  | queries =>
      rcases h with ⟨queries, rfl⟩
      cases queries with
      | none => exact Or.inl rfl
      | some queries => exact Or.inr rfl
  | hops =>
      rcases h with ⟨hops, rfl⟩
      cases hops with
      | none => exact Or.inl rfl
      | some hops => exact Or.inr rfl

end Derive

/-!
# Kinds and the ways in which they are read
-/

namespace Kind

def isRead : Kind -> Bool
  | .page => false
  | .unsupported _ => false
  | _ => true

inductive ReadAs : Kind -> Access -> Prop where
  | scalar : ReadAs .scalar .scalar
  | list : ReadAs .scalar .list
  | flag : ReadAs .scalar .flag
  | group (connective : Connective) : ReadAs (.group connective .ofQuery) .query
  | groupQueries (connective : Connective) : ReadAs (.group connective .queries) .queries
  | groupValues (connective : Connective) : ReadAs (.group connective .values) .list
  | path (raw : String) : ReadAs (.path raw) .query
  | pathHops (raw : String) : ReadAs (.path raw) .hops
  | pathFlag (raw : String) : ReadAs (.path raw) .flag
  | subquery (raw : String) : ReadAs (.subquery raw) .query
  | subqueryScalar (raw : String) : ReadAs (.subquery raw) .scalar
  | subqueryFlag (raw : String) : ReadAs (.subquery raw) .flag
  | condition (template : String) : ReadAs (.condition template) .scalar
  | conditionFlag (template : String) : ReadAs (.condition template) .flag
  | flatten : ReadAs .flatten .query
  | embedded : ReadAs .flatten .embedded

theorem ReadAs.isRead
    {kind : Kind} {access : Access}
    (h : kind.ReadAs access) :
    kind.isRead = true := by
  cases h <;> rfl

end Kind

namespace Step

theorem handles_of_plans
    {kind : Kind} {step : Step} {access : Access}
    (hplans : Plans kind step)
    (h : kind.ReadAs access) :
    step.handles access.form = true := by
  cases hplans <;>
    cases h <;>
      rfl

theorem handles_absent
    (step : Step) :
    step.handles .absent = true := by
  cases step <;> rfl

theorem handles_of_readAs
    {type : FieldType} {access : Access}
    (h : type.kind.ReadAs access)
    (naming : Naming) (typeName : String)
    {content : Content}
    (hcontent : content.ReadBy (accessFunction access).1) :
    (orSkip (ofField naming typeName type)).handles content.form = true := by
  rcases Access.form_of_readBy hcontent with habsent | hpresent
  · rw [habsent]
    exact handles_absent _
  · rw [hpresent]
    cases hstep : ofField naming typeName type with
    | error fault => rfl
    | ok step =>
        have hpage : type.kind ≠ .page := by
          intro hkind
          have hread := h.isRead
          rw [hkind] at hread
          cases hread
        exact handles_of_plans (plans_ofField hstep hpage) h

end Step

namespace Derive

/-!
# Classifications
-/

namespace Classification

inductive Fits : Classification -> Prop where
  | bare {kind : Kind} : kind.isRead = false -> Fits ⟨kind, none⟩
  | read {kind : Kind} {access : Access} : kind.ReadAs access -> Fits ⟨kind, some access⟩

theorem Fits.access_eq_none
    {kind : Kind} {access? : Option Access}
    (h : Fits ⟨kind, access?⟩)
    (hkind : kind.isRead = false) :
    access? = none := by
  cases h with
  | bare => rfl
  | read hread =>
      rw [hread.isRead] at hkind
      cases hkind

theorem Fits.exists_access
    {kind : Kind} {access? : Option Access}
    (h : Fits ⟨kind, access?⟩)
    (hkind : kind.isRead = true) :
    ∃ access, access? = some access ∧ kind.ReadAs access := by
  cases h with
  | bare hbare =>
      rw [hbare] at hkind
      cases hkind
  | @read kind access hread => exact ⟨access, rfl, hread⟩

theorem fits_unsupported
    (reason : String) :
    (unsupported reason).Fits :=
  .bare rfl

theorem fits_ofPath
    (type : Source.TypeExpr) (raw : String) :
    (ofPath type raw).Fits := by
  unfold ofPath
  split
  next inner _ =>
    split
    · exact .read (.pathHops raw)
    · exact .read (.path raw)
  next =>
    split
    · exact .read (.pathFlag raw)
    · exact fits_unsupported _

theorem fits_ofSubquery
    (settings : QuerySettings) (type : Source.TypeExpr) (raw : String) :
    (ofSubquery settings type raw).Fits := by
  unfold ofSubquery
  split
  next inner _ =>
    split
    · exact .read (.subqueryScalar raw)
    · exact .read (.subquery raw)
  next =>
    split
    · exact .read (.subqueryFlag raw)
    · exact fits_unsupported _

theorem fits_ofCondition
    (settings : QuerySettings) (type : Source.TypeExpr) (template : String) :
    (ofCondition settings type template).Fits := by
  unfold ofCondition
  dsimp only
  split
  next inner _ =>
    split
    · exact .read (.condition template)
    · exact fits_unsupported _
  next =>
    split
    · exact .read (.conditionFlag template)
    · exact fits_unsupported _

theorem fits_ofGroup
    (settings : QuerySettings) (type : Source.TypeExpr) (connective : Connective) :
    (ofGroup settings type connective).Fits := by
  unfold ofGroup
  split
  next => exact fits_unsupported _
  next inner _ =>
    split
    next element _ =>
      split
      · exact .read (.groupValues connective)
      · exact .read (.groupQueries connective)
    next => exact .read (.group connective)

theorem fits_plain
    (settings : QuerySettings) (type : Source.TypeExpr) :
    (plain settings type).Fits := by
  unfold plain
  dsimp only
  split
  next => exact .read .flag
  next =>
    split
    next => exact fits_unsupported _
    next inner _ =>
      split
      next => exact .read .scalar
      next =>
        split
        next element _ =>
          split
          · exact .read .list
          · exact fits_unsupported _
        next => exact fits_unsupported _

theorem fits_ofField
    (settings : QuerySettings) (name : String) (type : Source.TypeExpr) :
    (ofField settings name type).Fits := by
  unfold ofField
  split
  next => exact .bare rfl
  next =>
    split
    next =>
      split
      · exact .read .flatten
      · exact .read .embedded
    next =>
      split
      next => exact fits_ofPath type _
      next => exact fits_ofSubquery settings type _
      next => exact fits_ofCondition settings type _
      next => exact fits_ofGroup settings type _
      next => exact fits_plain settings type

end Classification

/-!
# Fields of definitions
-/

def isSkipped (field : Source.FieldDeclaration) : Bool :=
  (QuerySettings.read field.attrs).1.skip

theorem QueryField.ofDeclaration_ok
    {field : Source.FieldDeclaration} {found : Option QueryField}
    (h : ofDeclaration field = .ok found) :
    match found with
    | none => isSkipped field = true
    | some own => isSkipped field = false ∧ own.name = field.name ∧
        (Classification.mk own.kind own.access).Fits := by
  unfold ofDeclaration at h
  dsimp only at h
  split at h
  · cases h
  · split at h
    next hskip =>
      cases h
      exact hskip
    next hskip =>
      cases h
      exact ⟨Bool.eq_false_iff.mpr hskip, rfl, Classification.fits_ofField _ _ _⟩

theorem QueryField.ofDeclaration_error
    {field : Source.FieldDeclaration} {rejections : List Rejection}
    (h : ofDeclaration field = .error rejections) :
    rejections ≠ [] := by
  unfold ofDeclaration at h
  dsimp only at h
  split at h
  next hrejections =>
    cases h
    intro hnil
    rw [hnil] at hrejections
    cases hrejections
  next => split at h <;> cases h

theorem recordFields_of_openRecord
    {name : String} {keys : List HeadingKey} {declaration : Source.Declaration}
    {items : List (Except WrongHeading HeadingItem)} {declared : List Source.FieldDeclaration}
    (h : openRecord name keys declaration = .ok (items, declared)) :
    recordFields declaration.body = .ok declared := by
  unfold openRecord at h
  dsimp only at h
  split at h
  next => cases h
  next fields hfields =>
    split at h
    · cases h
      exact hfields
    · cases h

namespace QueryDefinition

theorem fields_ofDeclaration
    {declaration : Source.Declaration} {definition : QueryDefinition}
    (h : ofDeclaration declaration = .ok definition) :
    ∃ declared, recordFields declaration.body = .ok declared ∧
      definition.fields = (declared.map QueryField.ofDeclaration).filterMap fieldOf? ∧
        ∀ field ∈ declared, ∃ found, QueryField.ofDeclaration field = .ok found := by
  unfold ofDeclaration at h
  cases hopen : openRecord "query" [] declaration with
  | error rejections =>
      rw [hopen] at h
      cases h
  | ok opened =>
      rcases opened with ⟨items, declared⟩
      let read := declared.map QueryField.ofDeclaration
      let fields := read.filterMap fieldOf?
      let rejections := read.flatMap rejectionsOf ++
        if 1 < (fields.filter QueryField.isPage).length then [.manyPages] else []
      rw [hopen] at h
      have hok : (if rejections.isEmpty then
          Except.ok ⟨declaration.name, declaration.parameters, fields⟩
        else Except.error rejections) = Except.ok definition := h
      by_cases hnone : rejections.isEmpty = true
      · rw [if_pos hnone] at hok
        cases hok
        refine ⟨declared, recordFields_of_openRecord hopen, rfl, ?_⟩
        intro field hfield
        cases hread : QueryField.ofDeclaration field with
        | ok found => exact ⟨found, rfl⟩
        | error own =>
            refine absurd ?_ (QueryField.ofDeclaration_error hread)
            have hnil := (List.append_eq_nil_iff.mp (List.isEmpty_iff.mp hnone)).left
            have hown := List.flatMap_eq_nil_iff.mp hnil _ (List.mem_map_of_mem hfield)
            rw [hread] at hown
            exact hown
      · rw [if_neg hnone] at hok
        cases hok

theorem names_filterMap
    {declared : List Source.FieldDeclaration}
    (h : ∀ field ∈ declared, ∃ found, QueryField.ofDeclaration field = .ok found) :
    let fields := (declared.map QueryField.ofDeclaration).filterMap fieldOf?
    fields.map QueryField.name =
        (declared.filter fun field => !isSkipped field).map Source.FieldDeclaration.name ∧
      ∀ own ∈ fields, (Classification.mk own.kind own.access).Fits := by
  induction declared with
  | nil => exact ⟨rfl, nofun⟩
  | cons field declared ih =>
      rcases h field List.mem_cons_self with ⟨found, hfound⟩
      rcases ih fun other hother => h other (List.mem_cons_of_mem field hother) with
        ⟨hnames, hfits⟩
      have hown := QueryField.ofDeclaration_ok hfound
      rw [List.map_cons, hfound]
      cases found with
      | none =>
          refine ⟨?_, hfits⟩
          rw [List.filter_cons_of_neg (by simpa using hown)]
          exact hnames
      | some own =>
          rcases hown with ⟨hskip, hname, hfit⟩
          constructor
          · rw [List.filter_cons_of_pos (by simpa using hskip), List.map_cons, ← hname]
            exact congrArg (List.cons own.name) hnames
          · intro other hother
            rcases List.mem_cons.mp hother with hself | hlater
            · rw [hself]
              exact hfit
            · exact hfits other hlater

end QueryDefinition

/-!
# Cases of the reading function
-/

theorem le_index_of_mem_armsFrom
    {start : Nat} {fields : List QueryField} {arm : Arm}
    (h : arm ∈ armsFrom start fields) :
    start ≤ arm.index := by
  induction fields generalizing start with
  | nil => cases h
  | cons field fields ih =>
      rcases List.mem_append.mp h with hown | hlater
      · rcases Option.map_eq_some_iff.mp (Option.mem_toList.mp hown) with ⟨access, _, harm⟩
        exact Nat.le_of_eq (congrArg Arm.index harm)
      · exact Nat.le_of_succ_le (ih hlater)

theorem filter_armsFrom
    (start offset : Nat) (fields : List QueryField) :
    (armsFrom start fields).filter (fun arm => arm.index == start + offset) =
      (fields[offset]?.bind fun field =>
        field.access.map fun access => ⟨start + offset, access, field.name⟩).toList := by
  induction fields generalizing start offset with
  | nil => rfl
  | cons field fields ih =>
      rw [armsFrom, List.filter_append]
      cases offset with
      | zero =>
          -- the cases of later fields have greater numbers
          have hlater : (armsFrom (start + 1) fields).filter (fun arm => arm.index == start + 0) =
              [] := by
            rw [List.filter_eq_nil_iff]
            intro arm harm
            have hle := le_index_of_mem_armsFrom harm
            simp
            omega
          rw [hlater, List.append_nil]
          cases haccess : field.access <;>
            simp [haccess]
      | succ offset =>
          have hown : (field.access.map fun access => Arm.mk start access field.name).toList.filter
              (fun arm => arm.index == start + (offset + 1)) = [] := by
            cases field.access <;>
              simp
          rw [hown, List.nil_append, show start + (offset + 1) = start + 1 + offset by omega, ih,
            List.getElem?_cons_succ]

def QueryCode.armsAt (code : QueryCode) (index : Nat) : List Arm :=
  code.arms.filter fun arm => arm.index == index

theorem QueryDefinition.armsAt_code
    (definition : QueryDefinition) (index : Nat) :
    definition.code.armsAt index =
      (definition.fields[index]?.bind fun field =>
        field.access.map fun access => ⟨index, access, field.name⟩).toList := by
  have hfilter := filter_armsFrom 0 index definition.fields
  rw [Nat.zero_add] at hfilter
  exact hfilter

def plainType (name : String) : Source.TypeExpr :=
  .path .here [] (.plain name)

def optionalType (name : String) : Source.TypeExpr :=
  .path .here [] (.applied "Option" false [.type (plainType name)] false)

def probeDeclaration : Source.Declaration :=
  let field := fun (name : String) (inner : List Source.Token) (type : Source.TypeExpr) =>
    Source.FieldDeclaration.mk ⟨[⟨false, ["query"], .list .round inner⟩], [], type⟩ name
  { attrs := []
    visibility := []
    name := "ProbeQuery"
    parameters := ⟨[], false, []⟩
    body := .record
      { items :=
          [ field "hidden" [.word "skip"] (plainType "u8")
          , field "active_eq" [] (plainType "bool")
          , field "base" [.word "flatten"] (optionalType "BaseQuery")
          , field "page" [] (optionalType "PageQuery")
          , field "role" [.word "path", .mark '=' false, .ofText "user,role"] (plainType "bool")
          , field "odd" [] (plainType "u8") ]
        trailing := true } }

def probeDefinition : QueryDefinition :=
  { name := "ProbeQuery"
    parameters := ⟨[], false, []⟩
    fields :=
      [ ⟨"active_eq", plainType "bool", none, .scalar, some .flag⟩
      , ⟨"base", optionalType "BaseQuery", none, .flatten, some .query⟩
      , ⟨"page", optionalType "PageQuery", none, .page, none⟩
      , ⟨"role", plainType "bool", none, .path "user,role", some .flag⟩
      , ⟨"odd", plainType "u8", none,
          .unsupported "expected bool, Option<scalar> or Option<Vec<scalar>>", none⟩ ] }

end Derive
end Criteria
