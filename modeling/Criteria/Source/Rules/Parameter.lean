import Criteria.Source.Rules.Type

/-!
# Rules for parameters

The parameters of a declaration between angle brackets, and the clause with further bounds.
-/

namespace Criteria
namespace Source
namespace Rules

open Scan

/-!
# Parameters
-/

def endsLifetimeBounds (tokens : List Token) : Bool :=
  Ahead.signs [[','], ['>']] tokens

def lifetimeParameter (attrs : List Attribute) : Scan Parameter := do
  match ← lifetime with
  | [.lifetime text] =>
      if ← takesSign [':'] then
        let bounds ← plusList endsLifetimeBounds lifetime
        return .lifetime attrs text (bounds.tokens '+')
      else
        return .lifetime attrs text []
  | _ => want ["lifetime"]

def typeParameter (rules : Rules) (attrs : List Attribute) : Scan Parameter := do
  let name ← name
  let bounds ←
    if ← takesSign [':'] then
      rules.boundList (Ahead.signs [[','], ['>'], ['=']])
    else
      pure []
  let default ← if ← takesSign ['='] then pure (← rules.type true).tokens else pure []
  return .type attrs name bounds default

def constantParameter (rules : Rules) (attrs : List Attribute) : Scan Parameter := do
  let _ ← keyword "const"
  let name ← name
  let _ ← sign [':']
  let type ← rules.type true
  let default ← if ← takesSign ['='] then rules.constant else pure []
  return .constant attrs name type default

def parameterForm (rules : Rules) (unnamed : Bool) : Scan Parameter := do
  let attrs ← rules.attrs
  let tokens ← get
  if Ahead.lifetime tokens then
    lifetimeParameter attrs
  else if Ahead.name tokens then
    rules.typeParameter attrs
  else if Ahead.word "const" tokens then
    rules.constantParameter attrs
  else if unnamed && Ahead.word "_" tokens then
    return .type attrs (← anyWord) [] []
  else
    want ["lifetime", "identifier", "`const`"]

def parameterList (rules : Rules) : Scan (Listed Parameter) := do
  if ← takesSign ['<'] then
    let found ← listOf (Ahead.sign ['>']) [','] (rules.parameterForm true)
    let _ ← sign ['>']
    return found
  else
    return ⟨[], false⟩

/-!
# Further bounds
-/

def endsBoundsOfLifetime (tokens : List Token) : Bool :=
  tokens.isEmpty || Ahead.group .curly tokens || Ahead.signs [[','], [';'], [':'], ['=']] tokens

def endsPredicate (tokens : List Token) : Bool :=
  endsBoundsOfLifetime tokens && !Ahead.sign [':', ':'] tokens

def predicate (rules : Rules) : Scan (List Token) := do
  let tokens ← get
  if Ahead.lifetime tokens && Ahead.sign [':'] (tokens.drop 1) then
    let subject ← lifetime
    let colon ← sign [':']
    return subject ++ colon ++ (← plusList endsBoundsOfLifetime lifetime).tokens '+'
  else
    let binders ← rules.binders
    let subject := (← rules.type true).tokens
    let colon ← sign [':']
    return binders ++ subject ++ colon ++ (← rules.boundList endsPredicate)

/-- The clause with further bounds, if there is one; without bounds it says nothing. -/
def condition (rules : Rules) : Scan (List Token) := do
  let keyword ← keyword? "where"
  if keyword.isEmpty then
    return []
  else if ← sees beginsParameters then
    refuse .parametersOfClause
  else
    let (found, _) ← iterate (fun (found, isOver) => do
      if isOver || (← sees endsPredicate) then
        return none
      else
        let next := found ++ (← rules.predicate)
        let comma ← sign? [',']
        return some (next ++ comma, comma.isEmpty)) ([], false)
    return if found.isEmpty then [] else keyword ++ found

end Rules
end Source
end Criteria
