import Criteria.Derive.Heading
import Criteria.Derive.Setting

/-!
# Definitions of entities

A record without parameters defines an entity, or a part that entities embed.  An entity has one
field that identifies a row; a part has none.
-/

namespace Criteria
namespace Derive

open Source

/-!
# Fields
-/

inductive Placement where
  | column
  | identity
  | embedded
deriving DecidableEq, Repr

structure RowField where
  name : String
  type : TypeExpr
  column : Option String
  placement : Placement

namespace RowField

def grammar : Grammar :=
  { keys := [("name", .text), ("skip", .alone)]
    unknown := .columnKey }

/-- The settings of a field, up to the first fault.  An attribute without a list sets nothing. -/
def settings (attrs : List Attribute) : Except Rejection (List Setting) := do
  let own := attrs.filter fun attr => attr.isNamed "column"
  let parts ← own.mapM fun attr =>
    match attr.form with
    | .list _ inner =>
        match Setting.listFrom grammar inner.length inner with
        | (_, some fault) => .error (Rejection.setting fault)
        | (settings, none) => .ok settings
    | _ => .ok []
  return parts.flatten

def placement? (attrs : List Attribute) : Except Rejection Placement :=
  let has := fun name => attrs.any fun attr => attr.isNamed name
  match has "id", has "embed" with
  | true, true => .error .identityEmbedded
  | true, false => .ok .identity
  | false, true => .ok .embedded
  | false, false => .ok .column

def ofDeclaration (field : FieldDeclaration) : Except Rejection (Option RowField) := do
  let settings ← settings field.attrs
  if isSet settings "skip" then
    return none
  else
    let placement ← placement? field.attrs
    return some ⟨field.name, field.type, textOf? settings "name", placement⟩

def isIdentity (field : RowField) : Bool :=
  field.placement == .identity

end RowField

/-!
# Definitions
-/

structure EntityDefinition where
  name : String
  table : Option String
  isPart : Bool
  fields : List RowField

namespace EntityDefinition

def identityIndex? (definition : EntityDefinition) : Option Nat :=
  if definition.isPart then none else definition.fields.findIdx? RowField.isIdentity

def identity? (definition : EntityDefinition) : Option RowField :=
  definition.identityIndex?.bind fun index => definition.fields[index]?

def identityFault? (isPart : Bool) (fields : List RowField) : Option Rejection :=
  let identities := (fields.filter RowField.isIdentity).length
  if isPart then
    if 0 < identities then some .identityInPart else none
  else
    if identities = 1 then none else some .identities

def headingKeys : List HeadingKey :=
  [textKey "table", truthKey "embeddable"]

def okOf? {α : Type} : Except WrongHeading α -> Option α
  | .ok x => some x
  | .error _ => none

/-- The definition that a declaration makes, or the first thing that is wrong with it. -/
def ofDeclaration (declaration : Declaration) : Except (List Rejection) EntityDefinition := do
  let (items, declared) ← openRecord "entity" headingKeys declaration
  if !declaration.parameters.list.isEmpty then
    .error [.generic]
  let read ← (declared.mapM RowField.ofDeclaration).mapError fun rejection => [rejection]
  let fields := read.filterMap id
  let table := (entryOf? "table" items).bind fun entry => okOf? (entry.textFor "table")
  let isPart :=
    ((entryOf? "embeddable" items).bind fun entry =>
      okOf? (entry.truthFor "embeddable")).getD false
  match identityFault? isPart fields with
  | some rejection => .error [rejection]
  | none => return ⟨declaration.name, table, isPart, fields⟩

end EntityDefinition
end Derive
end Criteria
