import Criteria.Derive.Heading
import Criteria.Derive.Setting
import Criteria.Query

/-!
# Definitions of query types

A record defines a query type.  The kind of a field follows from its settings, its name and its
type, in this order, and with the kind the way in which the field's value is read.
-/

namespace Criteria
namespace Derive

open Source

/-!
# Fields
-/

inductive Access where
  | scalar
  | list
  | flag
  | query
  | embedded
  | queries
  | hops
deriving DecidableEq, Repr

structure QueryField where
  name : String
  type : TypeExpr
  column : Option String
  kind : Kind
  access : Option Access

structure QuerySettings where
  skip : Bool
  page : Bool
  flatten : Bool
  scalar : Bool
  nested : Bool
  path : Option String
  subquery : Option String
  condition : Option String
  column : Option String
deriving DecidableEq, Repr

namespace QuerySettings

def grammar : Grammar :=
  { keys :=
      [ ("skip", .alone), ("page", .alone), ("flatten", .alone), ("scalar", .alone)
      , ("nested", .alone), ("path", .text), ("subquery", .text), ("condition", .text)
      , ("column", .text) ]
    unknown := .queryKey }

def ofSettings (settings : List Setting) : QuerySettings :=
  { skip := isSet settings "skip"
    page := isSet settings "page"
    flatten := isSet settings "flatten"
    scalar := isSet settings "scalar"
    nested := isSet settings "nested"
    path := textOf? settings "path"
    subquery := textOf? settings "subquery"
    condition := textOf? settings "condition"
    column := textOf? settings "column" }

def read (attrs : List Attribute) : QuerySettings × List WrongSetting :=
  let own := attrs.filter fun attr => attr.isNamed "query"
  let parts := own.map (Setting.ofAttribute grammar "query")
  (ofSettings (parts.flatMap Prod.fst), parts.filterMap Prod.snd)

def roleCount (settings : QuerySettings) : Nat :=
  [ settings.page, settings.flatten, settings.path.isSome, settings.subquery.isSome
  , settings.condition.isSome ].count true

def conflicts (settings : QuerySettings) : List Rejection :=
  (if 1 < settings.roleCount then [.manyRoles] else []) ++
    if settings.scalar && settings.nested then [.scalarAndNested] else []

def treatsAsScalar (settings : QuerySettings) (type : TypeExpr) : Bool :=
  settings.scalar || (!settings.nested && type.isScalar)

end QuerySettings

/-!
# Kinds
-/

structure Classification where
  kind : Kind
  access : Option Access
deriving DecidableEq, Repr

namespace Classification

def unsupported (reason : String) : Classification :=
  ⟨.unsupported reason, none⟩

def ofPath (type : TypeExpr) (raw : String) : Classification :=
  match type.optionInside? with
  | some inner => ⟨.path raw, some (if inner.isHops then .hops else .query)⟩
  | none =>
      if type.isFlag then
        ⟨.path raw, some .flag⟩
      else
        unsupported "path fields must be bool, Option<PathQuery> or Option<query>"

def ofSubquery (settings : QuerySettings) (type : TypeExpr) (raw : String) : Classification :=
  match type.optionInside? with
  | some inner =>
      ⟨.subquery raw, some (if settings.treatsAsScalar inner then .scalar else .query)⟩
  | none =>
      if type.isFlag then
        ⟨.subquery raw, some .flag⟩
      else
        unsupported "subquery fields must be bool or Option<query>"

def ofCondition (settings : QuerySettings) (type : TypeExpr) (template : String) :
    Classification :=
  let refused := unsupported "condition fields must be bool or Option<scalar>"
  match type.optionInside? with
  | some inner =>
      if settings.treatsAsScalar inner then ⟨.condition template, some .scalar⟩ else refused
  | none => if type.isFlag then ⟨.condition template, some .flag⟩ else refused

def connective? (name : String) : Option Connective :=
  if (Text.dropEnd? "_or".toList name.toList).isSome then some .or
  else if (Text.dropEnd? "_and".toList name.toList).isSome then some .and
  else none

def ofGroup (settings : QuerySettings) (type : TypeExpr) (connective : Connective) :
    Classification :=
  match type.optionInside? with
  | none => unsupported "group fields must be Option<query> or Option<Vec<_>>"
  | some inner =>
      match inner.listInside? with
      | some element =>
          if settings.treatsAsScalar element then
            ⟨.group connective .values, some .list⟩
          else
            ⟨.group connective .queries, some .queries⟩
      | none => ⟨.group connective .ofQuery, some .query⟩

def plain (settings : QuerySettings) (type : TypeExpr) : Classification :=
  let refused := unsupported "expected bool, Option<scalar> or Option<Vec<scalar>>"
  if type.isFlag then
    ⟨.scalar, some .flag⟩
  else
    match type.optionInside? with
    | none => refused
    | some inner =>
        if settings.treatsAsScalar inner then
          ⟨.scalar, some .scalar⟩
        else
          match inner.listInside? with
          | some element =>
              if settings.treatsAsScalar element then ⟨.scalar, some .list⟩ else refused
          | none => refused

def ofField (settings : QuerySettings) (name : String) (type : TypeExpr) : Classification :=
  if settings.page || type.isPage then
    ⟨.page, none⟩
  else if settings.flatten then
    ⟨.flatten, some (if type.optionInside?.isSome then .query else .embedded)⟩
  else
    match settings.path, settings.subquery, settings.condition, connective? name with
    | some raw, _, _, _ => ofPath type raw
    | none, some raw, _, _ => ofSubquery settings type raw
    | none, none, some template, _ => ofCondition settings type template
    | none, none, none, some connective => ofGroup settings type connective
    | none, none, none, none => plain settings type

end Classification

namespace QueryField

def ofDeclaration (field : FieldDeclaration) : Except (List Rejection) (Option QueryField) :=
  let (settings, faults) := QuerySettings.read field.attrs
  let rejections := faults.map Rejection.setting ++ settings.conflicts
  if !rejections.isEmpty then
    .error rejections
  else if settings.skip then
    .ok none
  else
    let found := Classification.ofField settings field.name field.type
    .ok (some ⟨field.name, field.type, settings.column, found.kind, found.access⟩)

def isPage (field : QueryField) : Bool :=
  field.kind == .page

def entry (field : QueryField) : FieldType :=
  ⟨field.name, field.column, field.kind⟩

end QueryField

/-!
# Definitions
-/

structure QueryDefinition where
  name : String
  parameters : Parameters
  fields : List QueryField

namespace QueryDefinition

def pageField? (definition : QueryDefinition) : Option QueryField :=
  definition.fields.find? QueryField.isPage

def rejectionsOf : Except (List Rejection) (Option QueryField) -> List Rejection
  | .error rejections => rejections
  | .ok _ => []

def fieldOf? : Except (List Rejection) (Option QueryField) -> Option QueryField
  | .error _ => none
  | .ok field => field

/-- The definition that a declaration makes, or all that is wrong with its fields. -/
def ofDeclaration (declaration : Declaration) : Except (List Rejection) QueryDefinition := do
  let (_, declared) ← openRecord "query" [] declaration
  let read := declared.map QueryField.ofDeclaration
  let fields := read.filterMap fieldOf?
  let manyPages := if 1 < (fields.filter QueryField.isPage).length then [.manyPages] else []
  let rejections := read.flatMap rejectionsOf ++ manyPages
  if rejections.isEmpty then
    return ⟨declaration.name, declaration.parameters, fields⟩
  else
    .error rejections

end QueryDefinition
end Derive
end Criteria
