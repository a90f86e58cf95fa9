import Criteria.Source.Rules.Attribute

/-!
# Rules for paths

The parts of paths with their arguments, and paths that begin in a type.
-/

namespace Criteria
namespace Source
namespace Rules

open Scan

/-!
# Blocks
-/

def block (rules : Rules) : Scan (List Token) :=
  return [Token.braces (← group .curly rules.statements)]

def attributedBlock (rules : Rules) : Scan (List Token) :=
  return [Token.braces (← group .curly (do
    return (← rules.innerAttrs) ++ (← rules.statements)))]

/-!
# Arguments
-/

def beginsConstant (tokens : List Token) : Bool :=
  Ahead.literal tokens || Ahead.group .curly tokens

def constant (rules : Rules) : Scan (List Token) := do
  let tokens ← get
  if Ahead.literal tokens then
    literal
  else if Ahead.name tokens then
    return [.word (← name)]
  else if Ahead.group .curly tokens then
    rules.attributedBlock
  else
    want []

def endsBounds : List Token -> Bool :=
  Ahead.signs [[','], ['>']]

def argumentBounds (rules : Rules) : Scan (List Token) := do
  return ((← plusList endsBounds (rules.bound false true)).map Bound.tokens).tokens '+'

def argument (rules : Rules) : Scan Argument := do
  let tokens ← get
  match tokens with
  | .lifetime text :: rest =>
      if !Ahead.sign ['+'] rest then
        set rest
        return .lifetime text
  | _ => pure ()
  if beginsConstant tokens then
    return .other (← rules.constant)
  let found ← rules.type true
  match found with
  | .path .here [] _ =>
      if ← takesSign ['='] then
        let value ←
          if ← sees beginsConstant then rules.constant
          else pure (← rules.type true).tokens
        return .other (found.tokens ++ .mark '=' false :: value)
      else if ← takesSign [':'] then
        return .other (found.tokens ++ .mark ':' false :: (← rules.argumentBounds))
      else
        return .type found
  | found => return .type found

def arguments (rules : Rules) : Scan (Listed Argument) := do
  let _ ← sign ['<']
  let found ← listOf (Ahead.sign ['>']) [','] rules.argument
  let _ ← sign ['>']
  return found

/-!
# Parts of paths
-/

/-- Whether arguments come next.  In an expression they have to be announced. -/
def beginsArguments (inExpression : Bool) (tokens : List Token) : Bool :=
  (!inExpression && Ahead.sign ['<'] tokens &&
      !Ahead.signs [['<', '='], ['<', '<', '=']] tokens) ||
    (Ahead.sign [':', ':'] tokens && Ahead.sign ['<'] (tokens.drop 2))

def segment (rules : Rules) (inExpression : Bool) : Scan Segment := do
  if ← sees (Ahead.words ["super", "self", "crate", "try"]) then
    return .plain (← anyWord)
  let name ← if ← sees (Ahead.word "Self") then anyWord else name
  if ← sees (beginsArguments inExpression) then
    let announced ← takesSign [':', ':']
    let found ← rules.arguments
    return .applied name announced found.items found.trailing
  else
    return .plain name

def segmentsWhile (rules : Rules) (goesOn : List Token -> Bool) (inExpression : Bool) :
    Scan (List Segment × Segment) := do
  let first ← rules.segment inExpression
  let rest ← many goesOn (do
    let _ ← sign [':', ':']
    rules.segment inExpression)
  match rest.getLast? with
  | some last => return (first :: rest.dropLast, last)
  | none => return ([], first)

/-- A path that begins here or at the root.  A parenthesis after two colons is no part of it. -/
def path (rules : Rules) (inExpression : Bool) : Scan TypeExpr := do
  let root := if ← takesSign [':', ':'] then PathRoot.global else .here
  let (parents, last) ← rules.segmentsWhile
    (fun tokens => Ahead.sign [':', ':'] tokens && !Ahead.group .round (tokens.drop 2))
    inExpression
  return .path root parents last

def pathInType (rules : Rules) (inExpression : Bool) : Scan TypeExpr := do
  let _ ← sign ['<']
  let self ← rules.type true
  let trait ←
    if ← takesWord "as" then
      pure (.word "as" :: (← rules.path false).tokens)
    else
      pure []
  let _ ← sign ['>']
  let _ ← sign [':', ':']
  let (parents, last) ← rules.segmentsWhile (Ahead.sign [':', ':']) inExpression
  return .path (.inType (self.tokens ++ trait)) parents last

def anyPath (rules : Rules) (inExpression : Bool) : Scan TypeExpr := do
  if ← sees (Ahead.sign ['<']) then
    rules.pathInType inExpression
  else
    rules.path inExpression

/-!
# Whether parameters come next
-/

/-- After a word that parameters may follow, a list of parameters and a path in a type begin
alike; a list is preferred where both are possible. -/
def beginsParameters (tokens : List Token) : Bool :=
  let second := tokens.drop 1
  let third := tokens.drop 2
  Ahead.sign ['<'] tokens &&
    (Ahead.sign ['>'] second || Ahead.sign ['#'] second || Ahead.word "const" second ||
      ((Ahead.lifetime second || Ahead.name second) &&
        (Ahead.signs [['>'], [','], ['=']] third ||
          (Ahead.sign [':'] third && !Ahead.sign [':', ':'] third))))

end Rules

/-!
# Plain words
-/

namespace TypeExpr

def isUnapplied : TypeExpr -> Bool
  | .path (.inType _) _ _ => false
  | .path _ parents last => (parents ++ [last]).all fun
      | .plain _ => true
      | .applied .. => false
  | _ => false

end TypeExpr
end Source
end Criteria
