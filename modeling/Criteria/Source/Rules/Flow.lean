import Criteria.Source.Rules.Operator
import Criteria.Source.Rules.Pattern

/-!
# Rules for control flow

Expressions that leave a block, choose between blocks or repeat them, and the blocks themselves.
-/

namespace Criteria
namespace Source
namespace Rules

open Scan

/-!
# What can begin an expression
-/

def beginsExpression (tokens : List Token) : Bool :=
  (Ahead.anyWord tokens && !Ahead.word "as" tokens) || Ahead.anyGroup tokens ||
    Ahead.literal tokens || Ahead.lifetime tokens ||
    (Ahead.sign ['!'] tokens && !Ahead.sign ['!', '='] tokens) ||
    (Ahead.sign ['-'] tokens && !Ahead.signs [['-', '='], ['-', '>']] tokens) ||
    (Ahead.sign ['*'] tokens && !Ahead.sign ['*', '='] tokens) ||
    (Ahead.sign ['|'] tokens && !Ahead.sign ['|', '='] tokens) ||
    (Ahead.sign ['&'] tokens && !Ahead.sign ['&', '='] tokens) ||
    (Ahead.sign ['<'] tokens && !Ahead.signs [['<', '='], ['<', '<', '=']] tokens) ||
    Ahead.signs [['.', '.'], [':', ':'], ['#']] tokens

/-!
# Leaving
-/

def leaveOperand (rules : Rules) (records : Bool) : Scan Expression := do
  let word ← keyword "break"
  let tokens ← get
  if Ahead.lifetime tokens && Ahead.sign [':'] (tokens.drop 1) then
    let _ ← rules.expression true
    refuse .unbracketedLabel
  else
    let label ← lifetime?
    let hasValue := fun tokens =>
      beginsExpression tokens && (records || !Ahead.group .curly tokens)
    let value ← if ← sees hasValue then pure (← rules.expression true).tokens else pure []
    return .of .leave (word ++ label ++ value)

def valuedOperand (rules : Rules) (word : String) (form : ExpressionForm) : Scan Expression := do
  let word ← keyword word
  let value ←
    if ← sees beginsExpression then pure (← rules.expression true).tokens else pure []
  return .of form (word ++ value)

def becomeOperand (rules : Rules) : Scan Expression := do
  let before ← get
  let _ ← keyword "become"
  let _ ← rules.expression true
  return .of .verbatim (← takenSince before)

/-!
# Conditions and loops
-/

def conditionOperand (rules : Rules) (records : Bool) : Scan Expression := do
  let word ← keyword "let"
  let pattern := (← rules.alternatives).tokens
  let equals ← sign ['=']
  let value ← rules.operators records .comparison (← rules.operand records)
  return .of .condition (word ++ pattern ++ equals ++ value.tokens)

def conditionalCase (rules : Rules) : Scan (List Token) := do
  let word ← keyword "if"
  let condition := (← rules.expression false).tokens
  return word ++ condition ++ (← rules.block) ++ (← keyword? "else")

def conditionalOperand (rules : Rules) : Scan Expression := do
  let first ← rules.conditionalCase
  let tokens ← iterate (fun (found : List Token) => do
    if found.getLast? matches some (.word "else") then
      if ← sees (Ahead.word "if") then
        return some (found ++ (← rules.conditionalCase))
      else if ← sees (Ahead.group .curly) then
        return some (found ++ (← rules.block))
      else
        want ["`if`", "curly braces"]
    else
      return none) first
  return .of .conditional tokens

def whileOperand (rules : Rules) : Scan Expression := do
  let word ← keyword "while"
  let condition := (← rules.expression false).tokens
  return .of .whileLoop (word ++ condition ++ (← rules.attributedBlock))

def forOperand (rules : Rules) : Scan Expression := do
  let word ← keyword "for"
  let pattern := (← rules.alternatives).tokens
  let separator ← keyword "in"
  let values := (← rules.expression false).tokens
  return .of .forLoop (word ++ pattern ++ separator ++ values ++ (← rules.attributedBlock))

def loopOperand (rules : Rules) : Scan Expression :=
  return .of .loop ((← keyword "loop") ++ (← rules.attributedBlock))

/-- A case of a choice.  A comma has to follow an expression that does not end itself, unless the
case is the last one. -/
def choiceCase (rules : Rules) : Scan (List Token) := do
  let attrs ← rules.attrTokens
  let pattern := (← rules.alternatives).tokens
  let word ← keyword? "if"
  let guard ← if word.isEmpty then pure [] else pure (← rules.expression true).tokens
  let arrow ← sign ['=', '>']
  let body ← rules.leading
  let comma ←
    if body.form.endsItself || (← atEnd) then sign? [','] else sign [',']
  return attrs ++ pattern ++ word ++ guard ++ arrow ++ body.tokens ++ comma

def choiceOperand (rules : Rules) : Scan Expression := do
  let word ← keyword "match"
  let value := (← rules.expression false).tokens
  let cases ← group .curly do
    let attrs ← rules.innerAttrs
    let cases ← many (fun tokens => !tokens.isEmpty) rules.choiceCase
    return attrs ++ cases.flatten
  return .of .choice (word ++ value ++ [Token.braces cases])

/-!
# Blocks
-/

def blockOperand (rules : Rules) : Scan Expression :=
  return .of .block (← rules.attributedBlock)

def wordBlock (rules : Rules) (word : String) (form : ExpressionForm) : Scan Expression :=
  return .of form ((← keyword word) ++ (← rules.attributedBlock))

def attemptBlock (rules : Rules) : Scan Expression :=
  return .of .attemptBlock ((← keyword "try") ++ (← rules.block))

def asyncBlock (rules : Rules) : Scan Expression :=
  return .of .asyncBlock
    ((← keyword "async") ++ (← keyword? "move") ++ (← rules.block))

def labelledOperand (rules : Rules) : Scan Expression := do
  let label := (← lifetime) ++ (← sign [':'])
  let tokens ← get
  let operand ←
    if Ahead.word "while" tokens then rules.whileOperand
    else if Ahead.word "for" tokens then rules.forOperand
    else if Ahead.word "loop" tokens then rules.loopOperand
    else if Ahead.group .curly tokens then rules.blockOperand
    else want ["loop or block expression"]
  return .of operand.form (label ++ operand.tokens)

end Rules
end Source
end Criteria
