import Criteria.Source.Rules.Declaration
import Criteria.Source.Rules.Import
import Criteria.Source.Rules.Member

/-!
# Rules for items

The declarations that may stand between statements.  One that is written in a way of no use is
kept as it is written.
-/

namespace Criteria
namespace Source
namespace Rules

open Scan

/-!
# Names from elsewhere
-/

def libraryItem : Scan (List Token) := do
  let words := (← keyword "extern") ++ (← keyword "crate")
  let name ← if ← sees (Ahead.word "self") then anyWord else name
  let word ← keyword? "as"
  let rename ←
    if word.isEmpty then pure []
    else if ← sees (Ahead.word "_") then keyword "_"
    else pure [.word (← Scan.name)]
  return words ++ .word name :: word ++ rename ++ (← sign [';'])

def foreignItem (rules : Rules) : Scan (List Token) := do
  let unchecked ← keyword? "unsafe"
  let convention ← convention
  return unchecked ++ convention ++ (← rules.memberBlock rules.foreignMember)

/-!
# Values
-/

def staticItem (rules : Rules) : Scan (Bool × List Token) := do
  let words := (← keyword "static") ++ (← keyword? "mut")
  let name ← name
  let colon ← if ← sees (Ahead.sign ['=']) then pure [] else sign [':']
  let type ← if colon.isEmpty then pure [] else pure (← rules.type true).tokens
  let isOpen := !colon.isEmpty && (← sees (Ahead.sign [';']))
  let equals ← if isOpen then pure [] else sign ['=']
  let value ← if isOpen then pure [] else pure (← rules.expression true).tokens
  let ending ← sign [';']
  let tokens := words ++ .word name :: colon ++ type ++ equals ++ value ++ ending
  return (!colon.isEmpty && !isOpen, tokens)

/-!
# Modules and macros
-/

def moduleItem (rules : Rules) : Scan (List Token) := do
  let words := (← keyword? "unsafe") ++ (← keyword "mod")
  let name ← if ← sees (Ahead.word "try") then anyWord else name
  let body ←
    if ← sees (Ahead.sign [';']) then sign [';']
    else if ← sees (Ahead.group .curly) then rules.memberBlock rules.item
    else want ["`;`", "curly braces"]
  return words ++ .word name :: body

def macroItem : Scan Unit := do
  let _ ← keyword "macro"
  let _ ← name
  if ← sees (Ahead.group .round) then
    let _ ← anyGroup
  if ← sees (Ahead.group .curly) then
    let _ ← anyGroup
  else
    want ["curly braces"]

/-!
# Traits
-/

def endsTraits (tokens : List Token) : Bool :=
  Ahead.word "where" tokens || Ahead.group .curly tokens

def traitBody (rules : Rules) : Scan (List Token) := do
  let bounds ← if ← takesSign [':'] then rules.boundList endsTraits else pure []
  let condition ← rules.condition
  return Parameter.bounded bounds ++ condition ++ (← rules.memberBlock rules.traitMember)

def endsAlias (tokens : List Token) : Bool :=
  Ahead.word "where" tokens || Ahead.sign [';'] tokens

def aliasBody (rules : Rules) : Scan (List Token) := do
  let equals ← sign ['=']
  let bounds := boundTokens (← plusList endsAlias (rules.bound false false))
  let condition ← rules.condition
  return equals ++ bounds ++ condition ++ (← sign [';'])

def traitItem (rules : Rules) : Scan (List Token) := do
  let words := (← keyword? "unsafe") ++ (← keyword? "auto")
  let keyword ← keyword "trait"
  let name ← name
  let parameters ← rules.parameterList
  let declared := Parameters.declared ⟨parameters.items, parameters.trailing, []⟩
  let isAlias := words.isEmpty && (← sees (Ahead.sign ['=']))
  let body ← if isAlias then rules.aliasBody else rules.traitBody
  return words ++ keyword ++ .word name :: declared ++ body

/-!
# Implementations
-/

def isPlainPath : TypeExpr -> Bool
  | .path (.inType _) _ _ => false
  | .path .. => true
  | _ => false

def implemented (rules : Rules) : Scan (Bool × List Token) := do
  let before ← get
  let isNegative :=
    Ahead.sign ['!'] before && !Ahead.group .curly (before.drop 1)
  let polarity ← if isNegative then sign ['!'] else pure []
  let first ← rules.type true
  let word ← keyword? "for"
  if !word.isEmpty then
    let target := (← rules.type true).tokens
    return (isPlainPath first, polarity ++ first.tokens ++ word ++ target)
  else if isNegative then
    return (true, ← takenSince before)
  else
    return (true, first.tokens)

def implementationConstancy : Scan Bool := do
  let tokens ← get
  if Ahead.sign ['?'] tokens && Ahead.word "const" (tokens.drop 1) then
    let _ ← sign ['?']
    takesWord "const"
  else
    takesWord "const"

def implementationItem (rules : Rules) : Scan (Bool × List Token) := do
  let words := (← keyword? "default") ++ (← keyword? "unsafe") ++ (← keyword "impl")
  let parameters ←
    if ← sees beginsParameters then rules.parameterList else pure ⟨[], false⟩
  let isConstant ← implementationConstancy
  let (plain, subject) ← rules.implemented
  let condition ← rules.condition
  let body ← rules.memberBlock rules.implementationMember
  let declared := Parameters.declared ⟨parameters.items, parameters.trailing, []⟩
  return (plain && !isConstant, words ++ declared ++ subject ++ condition ++ body)

/-!
# All items
-/

/-- What begins an item; where it does not begin, these are missing. -/
def itemBeginnings : List String :=
  [ "`fn`", "`extern`", "`use`", "`static`", "`const`", "`unsafe`", "`mod`", "`type`", "`struct`"
  , "`enum`", "`union`", "`trait`", "`auto`", "`impl`", "`default`", "`macro`", "identifier"
  , "`self`", "`super`", "`crate`", "`::`" ]

def beginsTrait (tokens : List Token) : Bool :=
  Ahead.word "trait" tokens ||
    (Ahead.word "auto" tokens && Ahead.word "trait" (tokens.drop 1))

def beginsImplementation (tokens : List Token) : Bool :=
  Ahead.word "impl" tokens ||
    (Ahead.word "default" tokens && !Ahead.sign ['!'] (tokens.drop 1))

def beginsDeclaration (tokens : List Token) : Bool :=
  Ahead.words ["struct", "enum"] tokens ||
    (Ahead.word "union" tokens && Ahead.name (tokens.drop 1))

def bareItem (rules : Rules) : Scan (Bool × List Token) := do
  let start ← get
  let visibility ← visibility
  let tokens ← get
  let second := tokens.drop 1
  let isUnchecked := Ahead.word "unsafe" tokens
  if beginsSignature tokens then
    let head := (← rules.signature false).2
    if ← takesSign [';'] then
      return (false, [])
    else
      return (true, visibility ++ head ++ (← rules.attributedBlock))
  else if Ahead.word "extern" tokens && Ahead.word "crate" second then
    return (true, visibility ++ (← libraryItem))
  else if Ahead.word "extern" tokens || (isUnchecked && Ahead.word "extern" second) then
    set start
    return (true, ← rules.foreignItem)
  else if Ahead.word "use" tokens then
    match ← rules.useItem visibility with
    | some found => return (true, found)
    | none => return (false, [])
  else if Ahead.word "static" tokens then
    let (plain, found) ← rules.staticItem
    return (plain, visibility ++ found)
  else if Ahead.word "const" tokens then
    let found ← rules.constantMember
    return (found.hasValue && !found.isGeneral, visibility ++ found.tokens)
  else if Ahead.word "mod" tokens || (isUnchecked && Ahead.word "mod" second) then
    return (true, visibility ++ (← rules.moduleItem))
  else if Ahead.word "type" tokens then
    let found ← rules.typeMember .early
    let ending := found.condition ++ found.definition ++ [.mark ';' false]
    let plain := !found.isBounded && !found.definition.isEmpty
    return (plain, visibility ++ found.head ++ ending)
  else if beginsDeclaration tokens then
    return (true, visibility ++ (← rules.declaration).tokens)
  else if beginsTrait tokens || (isUnchecked && beginsTrait second) then
    return (true, visibility ++ (← rules.traitItem))
  else if beginsImplementation tokens || (isUnchecked && Ahead.word "impl" second) then
    let (plain, found) ← rules.implementationItem
    return (plain && visibility.isEmpty, found)
  else if Ahead.word "macro" tokens then
    macroItem
    return (false, [])
  else if visibility.isEmpty && !isUnchecked && beginsMacroMember tokens then
    return (true, ← macroMember true)
  else
    want itemBeginnings

def itemForm (rules : Rules) : Scan (List Token) := do
  let before ← get
  let attrs ← rules.attrTokens
  let (plain, found) ← rules.bareItem
  settled before attrs plain found

end Rules
end Source
end Criteria
