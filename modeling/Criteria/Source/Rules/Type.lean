import Criteria.Source.Rules.Bound

/-!
# Rules for types

The forms of types one by one.  Some of them may go on as a sum of bounds if a flag is set.
-/

namespace Criteria
namespace Source
namespace Rules

open Scan

/-!
# Parentheses
-/

def sumRest (rules : Rules) (first : List Token) : Scan (Listed Bound) :=
  plusRest (fun _ => true) (rules.bound false false) ⟨.trait, first⟩

def ofSum (first : TypeExpr) (bounds : Listed Bound) : TypeExpr :=
  match bounds with
  | ⟨[_], false⟩ => first
  | bounds => .other (boundTokens bounds)

def enclosedTrait? : TypeExpr -> Option (List Token)
  | .path (.inType _) _ _ => none
  | .path root parents last => some (TypeExpr.path root parents last).tokens
  | .trait _ tokens => some tokens
  | _ => none

def parenthesized (rules : Rules) (plus : Bool) (inner : List Token) : Scan TypeExpr := do
  if inner.isEmpty then
    let _ ← anyGroup
    return .other [Token.parens []]
  else if Ahead.lifetime inner then
    return .parens (.other (← group .round (rules.objectBounds true)))
  else if Ahead.sign ['?'] inner then
    let found := (← group .round (rules.traitBound false)).getD []
    return ofSum (.trait true found) (← rules.sumRest [.parens found])
  else
    let found ← group .round (do
      let first ← rules.type true
      if ← sees (Ahead.sign [',']) then
        return Except.error (← commaRest (rules.type true) first)
      else
        return Except.ok first)
    match found with
    | .error types =>
        return .other [Token.parens ((types.map TypeExpr.tokens).tokens ',')]
    | .ok first =>
        match enclosedTrait? first with
        | some tokens =>
            if plus && (← sees (Ahead.sign ['+'])) then
              return .other (boundTokens (← rules.sumRest [.parens tokens]))
            else
              return .parens first
        | none => return .parens first

/-!
# Functions
-/

def convention : Scan (List Token) := do
  let found ← keyword? "extern"
  if !found.isEmpty && (← sees Ahead.text) then
    return found ++ (← literal)
  else
    return found

def beginsParameterName (tokens : List Token) : Bool :=
  Ahead.name tokens || Ahead.word "_" tokens

def beginsVariadic (tokens : List Token) : Bool :=
  Ahead.sign ['.', '.', '.'] tokens ||
    (beginsParameterName tokens && Ahead.sign [':'] (tokens.drop 1) &&
      Ahead.sign ['.', '.', '.'] (tokens.drop 2))

def variadic : Scan (List Token) := do
  let name ←
    if ← sees beginsParameterName then
      pure (.word (← anyWord) :: (← sign [':']))
    else
      pure []
  return name ++ (← sign ['.', '.', '.']) ++ (← sign? [','])

def functionArgument (rules : Rules) (isFirst : Bool) : Scan (List Token) := do
  let before ← get
  let isMutable :=
    isFirst && Ahead.word "mut" before && Ahead.word "self" (before.drop 1)
  if isMutable then
    let _ ← keyword "mut"
  let tokens ← get
  let isNamed :=
    (beginsParameterName tokens || (isFirst && Ahead.word "self" tokens)) &&
      Ahead.sign [':'] (tokens.drop 1) && !Ahead.sign [':', ':'] (tokens.drop 1)
  if isNamed then
    let name ← anyWord
    let _ ← sign [':']
    let type ← rules.type true
    if isMutable then
      takenSince before
    else
      return .word name :: .mark ':' false :: type.tokens
  else if isMutable then
    let _ ← keyword "self"
    takenSince before
  else
    return (← rules.type true).tokens

def functionArguments (rules : Rules) : Scan (List Token) := do
  let (found, _) ← iterate (fun (found, isOver) => do
    if isOver || (← atEnd) then
      return none
    let attrs ← rules.attrTokens
    if ← sees beginsVariadic then
      return some (found ++ attrs ++ (← variadic), true)
    let argument ← rules.functionArgument found.isEmpty
    if ← atEnd then
      return some (found ++ attrs ++ argument, true)
    return some (found ++ attrs ++ argument ++ (← sign [',']), false)) ([], false)
  return found

def functionType (rules : Rules) (binders : List Token) : Scan TypeExpr := do
  let unchecked ← keyword? "unsafe"
  let convention ← convention
  let keyword ← keyword "fn"
  let arguments ← group .round rules.functionArguments
  let result ← rules.result false
  return .other
    (binders ++ unchecked ++ convention ++ keyword ++ Token.parens arguments :: result)

/-!
# Paths
-/

def pathType (rules : Rules) (plus : Bool) (binders : List Token) : Scan TypeExpr := do
  let path ← rules.anyPath false
  match path with
  | .path (.inType _) _ _ => return path
  | _ => pure ()
  if path.isUnapplied && (← sees beginsMacroBody) then
    return .other (path.tokens ++ (← macroBody))
  let goesOn := plus && (← sees (Ahead.sign ['+']))
  if binders.isEmpty && !goesOn then
    return path
  let first := binders ++ path.tokens
  if plus then
    let bounds ← plusRest beginsBound (rules.bound false false) ⟨.trait, first⟩
    return ofSum (.trait false first) bounds
  else
    return .trait false first

/-!
# Other forms
-/

def sequence (rules : Rules) : Scan TypeExpr := do
  let inside ← group .square (do
    let element ← rules.type true
    let separator ← sign? [';']
    if separator.isEmpty then
      return element.tokens
    else
      return element.tokens ++ separator ++ (← rules.expression true).tokens)
  return .other [Token.brackets inside]

def pointer (rules : Rules) : Scan TypeExpr := do
  let star ← sign ['*']
  if !(← sees (Ahead.words ["const", "mut"])) then
    want ["`const`", "`mut`"]
  let access ← anyWord
  return .other (star ++ .word access :: (← rules.type false).tokens)

def referenceType (rules : Rules) : Scan TypeExpr := do
  let _ ← sign ['&']
  let lifetime ←
    match ← get with
    | .lifetime text :: rest => do
        set rest
        pure (some text)
    | _ => pure none
  let isMutable ← takesWord "mut"
  return .reference lifetime isMutable (← rules.type false)

def objectType (rules : Rules) (plus : Bool) : Scan TypeExpr := do
  let before ← get
  let keyword ← keyword "dyn"
  let isStarred ← takesSign ['*']
  let bounds ← rules.objectBounds plus
  if isStarred then
    return .other (← takenSince before)
  else
    return .other (keyword ++ bounds)

def beginsBuiltin (tokens : List Token) : Bool :=
  Ahead.word "builtin" tokens && Ahead.sign ['#'] (tokens.drop 1)

def builtin : Scan Unit := do
  let _ ← keyword "builtin"
  let _ ← sign ['#']
  let _ ← name
  group .round (set ([] : List Token))

def beginsFunction : List Token -> Bool :=
  Ahead.words ["fn", "unsafe", "extern"]

def beginsPath (tokens : List Token) : Bool :=
  beginsPlace tokens || Ahead.signs [[':', ':'], ['<']] tokens

def typeBeginnings : List String :=
  [ "`for`", "parentheses", "`fn`", "`unsafe`", "`extern`", "identifier", "`::`", "`<`", "`dyn`"
  , "square brackets", "`*`", "`&`", "`!`", "`impl`", "`_`", "lifetime" ]

def typeForm (rules : Rules) (plus : Bool) : Scan TypeExpr := do
  let before ← get
  let binders ← rules.binders
  let tokens ← get
  if !binders.isEmpty && !beginsFunction tokens && !beginsPlace tokens then
    want ["identifier", "`fn`", "`unsafe`", "`extern`"]
  match tokens with
  | .group .round inner :: _ => rules.parenthesized plus inner
  | .group .square _ :: _ => rules.sequence
  | _ =>
      if beginsFunction tokens then
        rules.functionType binders
      else if beginsBuiltin tokens then
        builtin
        return .other (← takenSince before)
      else if beginsPath tokens then
        rules.pathType plus binders
      else if Ahead.word "dyn" tokens then
        rules.objectType plus
      else if Ahead.sign ['*'] tokens then
        rules.pointer
      else if Ahead.sign ['&'] tokens then
        rules.referenceType
      else if Ahead.sign ['!'] tokens then
        return .other (← sign ['!'])
      else if Ahead.word "impl" tokens then
        return .other ((← keyword "impl") ++ (← rules.opaqueBounds plus))
      else if Ahead.word "_" tokens then
        return .other (← keyword "_")
      else if Ahead.lifetime tokens then
        return .other (← rules.objectBounds true)
      else
        want typeBeginnings

end Rules
end Source
end Criteria
