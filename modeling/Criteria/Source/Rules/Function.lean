import Criteria.Source.Rules.Statement

/-!
# Rules for functions

What a function takes and gives back, before its body.
-/

namespace Criteria
namespace Source
namespace Rules

open Scan

/-!
# Receivers
-/

def receiver (rules : Rules) : Scan (List Token) := do
  let reference ← sign? ['&']
  let lifetime ← if reference.isEmpty then pure [] else lifetime?
  let access ← keyword? "mut"
  let self ← keyword "self"
  let colon ← if reference.isEmpty then sign? [':'] else pure []
  let type ← if colon.isEmpty then pure [] else pure (← rules.type true).tokens
  return reference ++ lifetime ++ access ++ self ++ colon ++ type

/-!
# Arguments
-/

inductive ArgumentKind where
  | receiver
  | typed
  | variadic
deriving DecidableEq, Repr

def functionInput (rules : Rules) : Scan (ArgumentKind × List Token) := do
  match ← trial? rules.receiver with
  | some (tokens, rest) =>
      set rest
      return (.receiver, tokens)
  | none =>
      let tokens ← get
      if Ahead.sign ['.', '.', '.'] tokens then
        return (.variadic, ← sign ['.', '.', '.'])
      else if Ahead.name tokens && Ahead.sign ['<'] (tokens.drop 1) then
        return (.typed, .word "_" :: .mark ':' false :: (← rules.type true).tokens)
      else
        let pattern := (← rules.pattern).tokens
        let colon ← sign [':']
        let dots ← sign? ['.', '.', '.']
        if dots.isEmpty then
          return (.typed, pattern ++ colon ++ (← rules.type true).tokens)
        else
          return (.variadic, pattern ++ colon ++ dots)

/-- The arguments of a function; only the first one may be a receiver, and nothing follows the
variadic ones. -/
def functionInputs (rules : Rules) : Scan (List Token) := do
  let (found, _) ← iterate (fun (found, isOver) => do
    if isOver || (← atEnd) then
      return none
    let attrs ← rules.attrTokens
    let (kind, tokens) ← rules.functionInput
    if kind = .receiver && !found.isEmpty then
      refuse .secondReceiver
    let next := found ++ attrs ++ tokens
    if ← atEnd then
      return some (next, true)
    else
      return some (next ++ (← sign [',']), kind == .variadic)) ([], false)
  return found

/-!
# Signatures
-/

def pastWord (word : String) (tokens : List Token) : List Token :=
  if Ahead.word word tokens then tokens.drop 1 else tokens

def pastConvention (tokens : List Token) : List Token :=
  if Ahead.word "extern" tokens && Ahead.text (tokens.drop 1) then
    tokens.drop 2
  else
    pastWord "extern" tokens

def beginsSignature (tokens : List Token) : Bool :=
  let rest := pastWord "async" (pastWord "const" tokens)
  Ahead.word "fn" (pastConvention (pastWord "unsafe" rest))

def beginsSafeSignature (tokens : List Token) : Bool :=
  let rest := pastWord "async" (pastWord "const" tokens)
  Ahead.word "safe" rest && Ahead.word "fn" (pastConvention (rest.drop 1))

def signature (rules : Rules) (safety : Bool) : Scan (Bool × List Token) := do
  let words := (← keyword? "const") ++ (← keyword? "async")
  let unchecked ← keyword? "unsafe"
  let isSafe ← if safety && unchecked.isEmpty then takesWord "safe" else pure false
  let convention ← convention
  let keyword ← keyword "fn"
  let name ← name
  let parameters ← rules.parameterList
  let inputs ← group .round rules.functionInputs
  let result ← rules.result true
  let condition ← rules.condition
  let declared := Parameters.declared ⟨parameters.items, parameters.trailing, condition⟩
  let tokens :=
    words ++ unchecked ++ convention ++ keyword ++ .word name :: declared ++
      [Token.parens inputs] ++ result ++ condition
  return (isSafe, tokens)

end Rules
end Source
end Criteria
