import Criteria.Source.Rules.Path

/-!
# Rules for operators

What follows a first operand.  An operator takes to its right all that binds more tightly; of two
that bind alike the left one comes first, but assignments are worked out from the right.
-/

namespace Criteria
namespace Source
namespace Rules

open Scan

/-!
# What comes next
-/

def nextOperator? (tokens : List Token) : Option (List Char × Precedence) :=
  operatorSigns.find? fun operator => Ahead.sign operator.1 tokens

def beginsAssignment (tokens : List Token) : Bool :=
  Ahead.sign ['='] tokens && !Ahead.sign ['=', '>'] tokens

def nextPrecedence (tokens : List Token) : Precedence :=
  match nextOperator? tokens with
  | some operator => operator.2
  | none =>
      if beginsAssignment tokens then .assignment
      else if Ahead.sign ['.', '.'] tokens then .range
      else if Ahead.word "as" tokens then .cast
      else .jump

def beginsAccess (tokens : List Token) : Bool :=
  Ahead.sign ['.'] tokens && !Ahead.sign ['.', '.'] tokens

/-!
# Right operands
-/

def rightOperand (rules : Rules) (records : Bool) (precedence : Precedence) :
    Scan Expression := do
  iterate (fun found => do
    let tokens ← get
    let next := nextPrecedence tokens
    if precedence.rank < next.rank || (next = .assignment && precedence = .assignment) then
      let found ← rules.operators records next found
      return if (← get).length < tokens.length then some found else none
    else
      return none) (← rules.operand records)

/-!
# Ranges
-/

def rangeDots : Scan (List Token × Bool) := do
  if ← sees (Ahead.sign ['.', '.', '=']) then
    return (← sign ['.', '.', '='], true)
  else if ← sees (Ahead.sign ['.', '.', '.']) then
    want ["`..`", "`..=`"]
  else
    return (← sign ['.', '.'], false)

def endsOpenRange (records : Bool) (tokens : List Token) : Bool :=
  tokens.isEmpty || Ahead.word "as" tokens || (!records && Ahead.group .curly tokens) ||
    beginsAccess tokens ||
    Ahead.signs
      [ [','], [';'], ['?'], ['=', '>'], ['='], ['+'], ['/'], ['%'], ['^'], ['>'], ['<', '=']
      , ['!', '='], ['-', '='], ['*', '='], ['&', '='], ['|', '='], ['<', '<', '='] ]
      tokens

def rangeEnd (rules : Rules) (records : Bool) : Scan (List Token) := do
  let (dots, isClosed) ← rangeDots
  if !isClosed && (← sees (endsOpenRange records)) then
    return dots
  else
    return dots ++ (← rules.rightOperand records .range).tokens

/-!
# Casts
-/

def afterCast? (tokens : List Token) : Option String :=
  let second := tokens.drop 1
  let third := tokens.drop 2
  if beginsAccess tokens then
    if Ahead.word "await" second then
      some "`.await`"
    else if Ahead.name second &&
        (Ahead.group .round third || Ahead.sign [':', ':'] third) then
      some "a method call"
    else
      some "a field access"
  else if Ahead.sign ['?'] tokens then
    some "`?`"
  else if Ahead.group .square tokens then
    some "indexing"
  else if Ahead.group .round tokens then
    some "a function call"
  else
    none

def castTo (rules : Rules) : Scan (List Token) := do
  let word ← keyword "as"
  let type ← rules.type false
  match afterCast? (← get) with
  | some what => refuse (.castFollowed what)
  | none => return word ++ type.tokens

/-!
# Operators
-/

/-- The first operand with one operator after it, if one follows that binds tightly enough. -/
def operatorStep (rules : Rules) (records : Bool) (base : Precedence) (first : Expression) :
    Scan (Option Expression) := do
  let tokens ← get
  let joined := fun (form : ExpressionForm) (rest : List Token) =>
    some (Expression.mk form (first.tokens ++ rest) first.leadsVerbatim)
  let allows := fun (precedence : Precedence) => decide (base.rank ≤ precedence.rank)
  if first.form = .range then
    return none
  match nextOperator? tokens with
  | some (symbols, precedence) =>
      if !allows precedence then
        return none
      else if precedence = .comparison && first.form = .binary .comparison then
        refuse .chainedComparison
      else
        let operator ← sign symbols
        let right ← rules.rightOperand records precedence
        return joined (.binary precedence) (operator ++ right.tokens)
  | none =>
      if allows .assignment && beginsAssignment tokens then
        let operator ← sign ['=']
        let right ← rules.rightOperand records .assignment
        return joined .assignment (operator ++ right.tokens)
      else if allows .range && Ahead.sign ['.', '.'] tokens then
        return some (.of .range (first.tokens ++ (← rules.rangeEnd records)))
      else if allows .cast && Ahead.word "as" tokens then
        return joined .cast (← rules.castTo)
      else
        return none

def operatorsForm (rules : Rules) (records : Bool) (base : Precedence) (first : Expression) :
    Scan Expression :=
  iterate (rules.operatorStep records base) first

def expressionForm (rules : Rules) (records : Bool) : Scan Expression := do
  rules.operators records .jump (← rules.operand records)

end Rules
end Source
end Criteria
