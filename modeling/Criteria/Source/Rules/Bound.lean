import Criteria.Source.Rules.Path

/-!
# Rules for bounds

A bound is a lifetime, a trait, or a list of what a type captures.  A trait may be optional,
constant, quantified over lifetimes and written like a function.
-/

namespace Criteria
namespace Source
namespace Rules

open Scan

/-!
# Quantified traits
-/

def binders (rules : Rules) : Scan (List Token) := do
  if ← sees (Ahead.word "for") then
    let _ ← keyword "for"
    let _ ← sign ['<']
    let found ← listOf (Ahead.sign ['>']) [','] rules.parameter
    let _ ← sign ['>']
    let names := found.map fun parameter => parameter.binder ++ parameter.default
    return .word "for" :: .mark '<' false :: (names.tokens ',' ++ [.mark '>' false])
  else
    return []

def result (rules : Rules) (plus : Bool) : Scan (List Token) := do
  let arrow ← sign? ['-', '>']
  if arrow.isEmpty then
    return []
  else
    return arrow ++ (← rules.type plus).tokens

def callArguments (rules : Rules) : Scan (List Token) := do
  let _ ← sign? [':', ':']
  let types ← group .round (commaList (rules.type true))
  return .parens ((types.map TypeExpr.tokens).tokens ',') :: (← rules.result false)

def beginsCall (tokens : List Token) : Bool :=
  Ahead.group .round tokens ||
    (Ahead.sign [':', ':'] tokens && Ahead.group .round (tokens.drop 2))

/-- The path of a trait, which may be written like a function.  Empty arguments give way to those
of a function. -/
def traitPath (rules : Rules) : Scan (List Token) := do
  let path ← rules.path false
  if !(← sees beginsCall) then
    return path.tokens
  match path with
  | .path _ _ (.plain _) => return path.tokens ++ (← rules.callArguments)
  | .path root parents (.applied name _ [] _) =>
      return (TypeExpr.path root parents (.plain name)).tokens ++ (← rules.callArguments)
  | _ => return path.tokens

/-!
# Traits
-/

def constancy (constants : Bool) : Scan Bool := do
  if ← sees (Ahead.group .square) then
    let _ ← group .square (keyword "const")
    if constants then return true else refuse .conditionalHere
  else if ← takesWord "const" then
    if constants then return true else refuse .constantHere
  else
    return false

/-- A trait, none if it is constant and thus kept as it is written. -/
def traitBound (rules : Rules) (constants : Bool) : Scan (Option (List Token)) := do
  let outer ← rules.binders
  let isConstant ← constancy constants
  let optional ← sign? ['?']
  let inner ← if outer.isEmpty && !optional.isEmpty then rules.binders else pure []
  let path ← rules.traitPath
  if !optional.isEmpty && !(outer ++ inner).isEmpty then
    refuse .quantifiedOption
  else if isConstant then
    return none
  else
    return some (optional ++ outer ++ inner ++ path)

/-!
# Captures
-/

def captured : Scan ListItem := do
  let tokens ← get
  if Ahead.lifetime tokens then
    return ⟨true, ← lifetime⟩
  else if Ahead.name tokens || Ahead.word "Self" tokens then
    return ⟨false, [.word (← anyWord)]⟩
  else
    want ["lifetime", "identifier", "`>`"]

def capture : Scan (List Token) := do
  let _ ← keyword "use"
  let _ ← sign ['<']
  let found ← listOf (Ahead.sign ['>']) [','] captured
  let _ ← sign ['>']
  return .word "use" :: ListItem.angled found.trailing found.items

/-!
# Bounds
-/

def boundForm (rules : Rules) (captures constants : Bool) : Scan Bound := do
  let before ← get
  if Ahead.lifetime before then
    return ⟨.lifetime, ← lifetime⟩
  else if Ahead.word "use" before then
    let found ← capture
    if captures then return ⟨.capture, found⟩ else refuse .captureHere
  else
    let isEnclosed := Ahead.group .round before
    let found ←
      if isEnclosed then
        group .round (rules.traitBound constants)
      else
        rules.traitBound constants
    match found with
    | none => return ⟨.verbatim, ← takenSince before⟩
    | some tokens => return ⟨.trait, if isEnclosed then [.parens tokens] else tokens⟩

def beginsBound (tokens : List Token) : Bool :=
  Ahead.anyWord tokens || Ahead.signs [[':', ':'], ['?']] tokens || Ahead.lifetime tokens ||
    Ahead.group .round tokens

def boundTokens (bounds : Listed Bound) : List Token :=
  (bounds.map Bound.tokens).tokens '+'

/-- Bounds where at least one has to stand; further ones only if `plus` is set. -/
def boundSum (rules : Rules) (plus captures constants : Bool) : Scan (Listed Bound) := do
  let first ← rules.bound captures constants
  if plus then
    plusRest (fun tokens => beginsBound tokens || (constants && Ahead.group .square tokens))
      (rules.bound captures constants) first
  else
    return ⟨[first], false⟩

def boundList (rules : Rules) (ends : List Token -> Bool) : Scan (List Token) :=
  return boundTokens (← plusList ends (rules.bound false true))

def hasTrait (bounds : Listed Bound) : Bool :=
  bounds.items.any fun bound => bound.form == .trait || bound.form == .verbatim

def objectBounds (rules : Rules) (plus : Bool) : Scan (List Token) := do
  let bounds ← rules.boundSum plus false false
  if hasTrait bounds then return boundTokens bounds else refuse .noTraitInObject

def opaqueBounds (rules : Rules) (plus : Bool) : Scan (List Token) := do
  let bounds ← rules.boundSum plus true true
  if hasTrait bounds then return boundTokens bounds else refuse .noTraitInOpaque

end Rules
end Source
end Criteria
