import Criteria.Source.Rules.Function

/-!
# Rules for members

What stands inside a trait, an implementation or a block of foreign declarations.  A member that
is written in a way of no use there is kept as it is written.
-/

namespace Criteria
namespace Source
namespace Rules

open Scan

/-- A thing with its attributes, or, if it is not `plain`, all of it as it is written. -/
def settled (before attrs : List Token) (plain : Bool) (found : List Token) :
    Scan (List Token) :=
  if plain then return attrs ++ found else takenSince before

/-!
# Constants
-/

structure ConstantMember where
  tokens : List Token
  hasValue : Bool
  isGeneral : Bool

def constantMember (rules : Rules) : Scan ConstantMember := do
  let keyword ← keyword "const"
  let name ← if ← sees (Ahead.word "_") then anyWord else name
  let hasParameters ← sees (Ahead.sign ['<'])
  let _ ← rules.parameterList
  let colon ← sign [':']
  let type := (← rules.type true).tokens
  let equals ← sign? ['=']
  let value ← if equals.isEmpty then pure [] else pure (← rules.expression true).tokens
  let hasCondition ← sees (Ahead.word "where")
  let _ ← rules.condition
  let ending ← sign [';']
  let tokens := keyword ++ .word name :: colon ++ type ++ equals ++ value ++ ending
  return ⟨tokens, !equals.isEmpty, hasParameters || hasCondition⟩

/-!
# Types
-/

structure TypeMember where
  head : List Token
  isBounded : Bool
  bounds : List Token
  definition : List Token
  condition : List Token

inductive ConditionPlace where
  | early
  | late
  | either
deriving DecidableEq, Repr

def endsTypeBounds (tokens : List Token) : Bool :=
  Ahead.word "where" tokens || Ahead.signs [['='], [';']] tokens

def typeMember (rules : Rules) (place : ConditionPlace) : Scan TypeMember := do
  let keyword ← keyword "type"
  let name ← name
  let parameters ← rules.parameterList
  let isBounded ← takesSign [':']
  let bounds ← if isBounded then rules.boundList endsTypeBounds else pure []
  let isEarly := place != .late && (← sees (Ahead.word "where"))
  let early ← if isEarly then rules.condition else pure []
  let equals ← sign? ['=']
  let type ← if equals.isEmpty then pure [] else pure (← rules.type true).tokens
  let late ← if place != .early && !isEarly then rules.condition else pure []
  let _ ← sign [';']
  let declared := Parameters.declared ⟨parameters.items, parameters.trailing, []⟩
  return ⟨keyword ++ .word name :: declared, isBounded, bounds, equals ++ type, early ++ late⟩

/-!
# Macros
-/

def beginsMacroMember (tokens : List Token) : Bool :=
  Ahead.nameOrPlace tokens || Ahead.sign [':', ':'] tokens

/-- A macro in place of a declaration, which may be `named` for what it declares.  It needs a
semicolon unless it has curly brackets. -/
def macroMember (named : Bool) : Scan (List Token) := do
  let (isGlobal, words) ← placePath
  let mark ← sign ['!']
  let hasName := fun tokens => named && (Ahead.name tokens || Ahead.word "try" tokens)
  let name ← if ← sees hasName then pure [.word (← anyWord)] else pure []
  let body ← anyGroup
  let ending ← if lastDelimiter body = .curly then pure [] else sign [';']
  return placeTokens isGlobal words ++ mark ++ name ++ body ++ ending

/-!
# Members of traits
-/

def memberBeginnings : List String :=
  [ "`fn`", "`const`", "`type`", "identifier", "`self`", "`super`", "`crate`", "`::`" ]

def traitMember (rules : Rules) : Scan (List Token) := do
  let before ← get
  let attrs ← rules.attrTokens
  let words := (← visibility) ++ (← keyword? "default")
  let tokens ← get
  let settled := fun (plain : Bool) => settled before attrs (words.isEmpty && plain)
  if beginsSignature tokens then
    let head := (← rules.signature false).2
    let body ← if ← sees (Ahead.group .curly) then rules.attributedBlock else sign [';']
    settled true (head ++ body)
  else if Ahead.word "const" tokens then
    let found ← rules.constantMember
    settled (!found.isGeneral) found.tokens
  else if Ahead.word "type" tokens then
    let found ← rules.typeMember .late
    let bounds := Parameter.bounded found.bounds
    settled true
      (found.head ++ bounds ++ found.definition ++ found.condition ++ [.mark ';' false])
  else if words.isEmpty && beginsMacroMember tokens then
    settled true (← macroMember false)
  else
    want memberBeginnings

/-!
# Members of implementations
-/

def implementationMember (rules : Rules) : Scan (List Token) := do
  let before ← get
  let attrs ← rules.attrTokens
  let visibility ← visibility
  let isDefault := fun tokens =>
    Ahead.word "default" tokens && !Ahead.sign ['!'] (tokens.drop 1)
  let word ← if ← sees isDefault then keyword "default" else pure []
  let words := visibility ++ word
  let tokens ← get
  if beginsSignature tokens then
    let head := (← rules.signature false).2
    if ← takesSign [';'] then
      takenSince before
    else
      return attrs ++ words ++ head ++ (← rules.attributedBlock)
  else if Ahead.word "const" tokens then
    let found ← rules.constantMember
    settled before attrs (found.hasValue && !found.isGeneral) (words ++ found.tokens)
  else if Ahead.word "type" tokens then
    let found ← rules.typeMember .late
    settled before attrs (!found.isBounded && !found.definition.isEmpty)
      (words ++ found.head ++ found.definition ++ found.condition ++ [.mark ';' false])
  else if words.isEmpty && beginsMacroMember tokens then
    return attrs ++ (← macroMember false)
  else
    want memberBeginnings

/-!
# Foreign members
-/

def beginsForeignValue (tokens : List Token) : Bool :=
  Ahead.word "static" tokens ||
    (Ahead.words ["unsafe", "safe"] tokens && Ahead.word "static" (tokens.drop 1))

def foreignValue (rules : Rules) : Scan (Bool × List Token) := do
  let isUnchecked ← takesWord "unsafe"
  let isSafe ← if isUnchecked then pure false else takesWord "safe"
  let words := (← keyword "static") ++ (← keyword? "mut")
  let name ← name
  let colon ← sign [':']
  let type := (← rules.type true).tokens
  let hasValue ← takesSign ['=']
  if hasValue then
    let _ ← rules.expression true
  let ending ← sign [';']
  let plain := !isUnchecked && !isSafe && !hasValue
  return (plain, words ++ .word name :: colon ++ type ++ ending)

def foreignMember (rules : Rules) : Scan (List Token) := do
  let before ← get
  let attrs ← rules.attrTokens
  let visibility ← visibility
  let tokens ← get
  if beginsSignature tokens || beginsSafeSignature tokens then
    let (isSafe, head) ← rules.signature true
    if ← sees (Ahead.group .curly) then
      let _ ← rules.attributedBlock
      takenSince before
    else
      let ending ← sign [';']
      settled before attrs (!isSafe) (visibility ++ head ++ ending)
  else if beginsForeignValue tokens then
    let (plain, found) ← rules.foreignValue
    settled before attrs plain (visibility ++ found)
  else if Ahead.word "type" tokens then
    let found ← rules.typeMember .either
    settled before attrs (!found.isBounded && found.definition.isEmpty)
      (visibility ++ found.head ++ found.condition ++ [.mark ';' false])
  else if visibility.isEmpty && beginsMacroMember tokens then
    return attrs ++ (← macroMember false)
  else
    want memberBeginnings

/-!
# Bodies
-/

def memberBlock (rules : Rules) (member : Scan (List Token)) : Scan (List Token) := do
  let inner ← group .curly do
    let attrs ← rules.innerAttrs
    let members ← many (fun tokens => !tokens.isEmpty) member
    return attrs ++ members.flatten
  return [Token.braces inner]

end Rules
end Source
end Criteria
