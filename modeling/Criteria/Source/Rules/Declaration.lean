import Criteria.Source.Rules.Parameter

/-!
# Rules for declarations of types

A structure has fields with names, fields without or none, a choice has variants, and a union has
fields with names.
-/

namespace Criteria
namespace Source
namespace Rules

open Scan

/-!
# Fields
-/

/-- A field with a name.  One whose name is left open may have its own fields for a type. -/
def field (rules : Rules) : Scan FieldDeclaration := do
  let attrs ← rules.attrs
  let visibility ← visibility
  let isOpen ← sees (Ahead.word "_")
  let name ← if isOpen then anyWord else name
  let _ ← sign [':']
  let before ← get
  let hasFields :=
    Ahead.word "struct" before ||
      (Ahead.word "union" before && Ahead.group .curly (before.drop 1))
  if isOpen && hasFields then
    let _ ← anyWord
    let _ ← rules.fields
    return ⟨⟨attrs, visibility, .other (← takenSince before)⟩, name⟩
  else
    return ⟨⟨attrs, visibility, ← rules.type true⟩, name⟩

def fieldsForm (rules : Rules) : Scan (Listed FieldDeclaration) :=
  group .curly (commaList rules.field)

def tupleFields (rules : Rules) : Scan (Listed FieldType) :=
  group .round (commaList (do
    let attrs ← rules.attrs
    let visibility ← visibility
    return ⟨attrs, visibility, ← rules.type true⟩))

/-- A variant of a choice.  What makes it public says nothing. -/
def variant (rules : Rules) : Scan (List Token) := do
  let attrs ← rules.attrTokens
  let _ ← visibility
  let name ← name
  let tokens ← get
  let fields ←
    if Ahead.group .curly tokens then
      pure (recordTokens (← rules.fields))
    else if Ahead.group .round tokens then
      pure (tupleTokens (← rules.tupleFields))
    else
      pure []
  let equals ← sign? ['=']
  let value ← if equals.isEmpty then pure [] else pure (← rules.expression true).tokens
  return attrs ++ .word name :: fields ++ equals ++ value

/-!
# Bodies
-/

/-- What follows the parameters of a structure: its fields, and the clause with further bounds
before fields with names and after fields without. -/
def structureBody (rules : Rules) : Scan (List Token × Body) := do
  let isBound ← sees (Ahead.word "where")
  let condition ← rules.condition
  if ← sees (Ahead.group .curly) then
    return (condition, .record (← rules.fields))
  else if !isBound && (← sees (Ahead.group .round)) then
    let fields ← rules.tupleFields
    let condition ← rules.condition
    let _ ← sign [';']
    return (condition, .tuple fields)
  else
    let _ ← sign [';']
    return (condition, .unit)

def choiceBody (rules : Rules) : Scan (List Token × Body) := do
  let condition ← rules.condition
  return (condition, .choice (← group .curly (commaList rules.variant)))

def unionBody (rules : Rules) : Scan (List Token × Body) := do
  let condition ← rules.condition
  return (condition, .union (← rules.fields))

/-!
# Declarations
-/

def declaration (rules : Rules) : Scan Declaration := do
  let attrs ← rules.attrs
  let visibility ← visibility
  let body ←
    match ← anyWord with
    | "struct" => pure rules.structureBody
    | "enum" => pure rules.choiceBody
    | "union" => pure rules.unionBody
    | _ => want ["`struct`", "`enum`", "`union`"]
  let name ← name
  let parameters ← rules.parameterList
  let (condition, body) ← body
  return ⟨attrs, visibility, name, ⟨parameters.items, parameters.trailing, condition⟩, body⟩

end Rules
end Source
end Criteria
