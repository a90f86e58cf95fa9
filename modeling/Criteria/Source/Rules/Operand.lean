import Criteria.Source.Rules.Atom
import Criteria.Source.Token.Literal
import Criteria.Text.Cut

/-!
# Rules for operands

What stands between two operators: an atom with signs before it, and with calls, fields and
places after it.
-/

namespace Criteria
namespace Source
namespace Rules

open Scan

/-!
# What follows an operand
-/

def places (parts : List (List Char)) : Scan (List Token) := do
  match parts with
  | [] => return []
  | part :: rest =>
      match Literal.integer? part with
      | some (.literal _ (.integer number ending), []) =>
          return .mark '.' false :: (← place number ending) :: (← places rest)
      | _ => complain (.wanted ["integer literal"] false)

def accessed (rules : Rules) : Scan (ExpressionForm × List Token) := do
  if ← sees (Ahead.word "await") then
    return (.await, ← keyword "await")
  let isName ← sees Ahead.name
  let member ← member
  if !isName then
    return (.field, [member])
  let arguments ←
    if ← sees (Ahead.sign [':', ':']) then
      let colons ← sign [':', ':']
      let found ← rules.arguments
      pure (colons ++ ListItem.angled found.trailing (Argument.items found.items))
    else
      pure []
  if !arguments.isEmpty || (← sees (Ahead.group .round)) then
    return (.methodCall, member :: arguments ++ (← rules.callList))
  else
    return (.field, [member])

/-- What follows a point.  Two places with a point between them look like one number. -/
def access (rules : Rules) : Scan (ExpressionForm × List Token) := do
  let point ← sign ['.']
  match ← get with
  | .literal text .decimal :: rest =>
      set rest
      let parts := Text.split '.' text.toList
      if parts.getLast? == some [] then
        let places ← places parts.dropLast
        let (form, tokens) ← rules.accessed
        return (form, places ++ point ++ tokens)
      else
        return (.field, ← places parts)
  | _ =>
      let (form, tokens) ← rules.accessed
      return (form, point ++ tokens)

def operandStep (rules : Rules) (first : Expression) : Scan (Option Expression) := do
  let tokens ← get
  let isRange := first.form == .range
  if Ahead.group .round tokens then
    return some (.of .call (first.tokens ++ (← rules.callList)))
  else if beginsAccess tokens && !isRange then
    let (form, rest) ← rules.access
    return some (.of form (first.tokens ++ rest))
  else if Ahead.group .square tokens then
    let index ← group .square (rules.expression true)
    return some (.of .index (first.tokens ++ [Token.brackets index.tokens]))
  else if Ahead.sign ['?'] tokens && !isRange then
    return some (.of .attempt (first.tokens ++ (← sign ['?'])))
  else
    return none

def operandsAfter (rules : Rules) (first : Expression) : Scan Expression :=
  iterate rules.operandStep first

/-!
# Signs before an operand
-/

def referenceOperand (rules : Rules) (records : Bool) : Scan Expression := do
  let sign ← sign ['&']
  let tokens ← get
  if Ahead.word "raw" tokens && Ahead.words ["mut", "const"] (tokens.drop 1) then
    let raw ← keyword "raw"
    let access := [.word (← anyWord)]
    return .of .address (sign ++ raw ++ access ++ (← rules.operand records).tokens)
  else
    let access ← keyword? "mut"
    return .of .reference (sign ++ access ++ (← rules.operand records).tokens)

def attributed (attrs : List Token) (expression : Expression) : Expression :=
  if attrs.isEmpty || expression.leadsVerbatim then
    expression
  else if expression.form = .range then
    { expression with tokens := attrs ++ [Token.parens expression.tokens] }
  else
    { expression with tokens := attrs ++ expression.tokens }

def operandForm (rules : Rules) (records : Bool) : Scan Expression := do
  let before ← get
  let attrs ← rules.attrTokens
  let tokens ← get
  if Ahead.sign ['&'] tokens then
    return attributed attrs (← rules.referenceOperand records)
  else if Ahead.signs [['*'], ['!'], ['-']] tokens then
    let sign := tokens.take 1 |>.map fun
      | .mark symbol _ => Token.mark symbol false
      | token => token
    set (tokens.drop 1)
    return attributed attrs
      (.of .prefixed (sign ++ (← rules.operand records).tokens))
  else
    let found ← rules.operandsAfter (← rules.atom records)
    if found.form = .verbatim then
      return .of .verbatim (← takenSince before)
    else if found.form = .range && !attrs.isEmpty then
      refuse .attributedRange
    else
      return attributed attrs found

/-!
# Where a statement may begin
-/

def beginsBlock (tokens : List Token) : Bool :=
  Ahead.words ["if", "while", "loop", "match", "unsafe"] tokens ||
    (Ahead.word "for" tokens && !beginsQuantified tokens) ||
    (Ahead.words ["try", "const"] tokens && Ahead.group .curly (tokens.drop 1)) ||
    Ahead.group .curly tokens || Ahead.lifetime tokens

/-- An expression where a statement may begin.  After a block it goes on only with a point or a
question mark. -/
def leadingForm (rules : Rules) : Scan Expression := do
  let attrs ← rules.attrTokens
  let first ← if ← sees beginsBlock then rules.atom true else rules.operand true
  if !first.form.endsItself then
    rules.operators true .jump (attributed attrs first)
  else if ← sees (fun tokens => beginsAccess tokens || Ahead.sign ['?'] tokens) then
    rules.operators true .jump (attributed attrs (← rules.operandsAfter first))
  else
    return attributed attrs first

end Rules
end Source
end Criteria
