import Criteria.Source.Rules.Flow

/-!
# Rules for atoms

Operands with nothing before and after them: literals, lists, paths, closures and all that begins
with a word of its own.
-/

namespace Criteria
namespace Source
namespace Rules

open Scan

/-!
# What comes next
-/

/-- After `for` a list of parameters begins a closure, and a pattern a loop. -/
def beginsQuantified (tokens : List Token) : Bool :=
  Ahead.word "for" tokens && beginsParameters (tokens.drop 1)

def beginsClosure (tokens : List Token) : Bool :=
  let second := tokens.drop 1
  Ahead.sign ['|'] tokens || Ahead.words ["move", "static"] tokens || beginsQuantified tokens ||
    (Ahead.word "const" tokens && !Ahead.group .curly second) ||
    (Ahead.word "async" tokens && (Ahead.sign ['|'] second || Ahead.word "move" second))

def beginsAsyncBlock (tokens : List Token) : Bool :=
  let second := tokens.drop 1
  Ahead.word "async" tokens &&
    (Ahead.group .curly second ||
      (Ahead.word "move" second && Ahead.group .curly (tokens.drop 2)))

def beginsAttemptBlock (tokens : List Token) : Bool :=
  Ahead.word "try" tokens && Ahead.group .curly (tokens.drop 1)

def beginsPathOperand (tokens : List Token) : Bool :=
  beginsPath tokens ||
    (Ahead.word "try" tokens && Ahead.signs [['!'], [':', ':']] (tokens.drop 1))

/-!
# Lists of expressions
-/

def expressionTokens (expressions : Listed Expression) : List Token :=
  (expressions.map Expression.tokens).tokens ','

def callList (rules : Rules) : Scan (List Token) := do
  let found ← group .round (commaList (rules.expression true))
  return [.parens (expressionTokens found)]

def parenthesizedOperand (rules : Rules) : Scan Expression :=
  group .round do
    if ← atEnd then
      return .of .tuple [Token.parens []]
    else
      let first ← rules.expression true
      if ← atEnd then
        return .of .parens [Token.parens first.tokens]
      else
        let found ← commaRest (rules.expression true) first
        return .of .tuple [Token.parens (expressionTokens found)]

def arrayOperand (rules : Rules) : Scan Expression :=
  group .square do
    if ← atEnd then
      return .of .array [Token.brackets []]
    else
      let first ← rules.expression true
      if (← atEnd) || (← sees (Ahead.sign [','])) then
        let found ← commaRest (rules.expression true) first
        return .of .array [Token.brackets (expressionTokens found)]
      else if ← sees (Ahead.sign [';']) then
        let separator ← sign [';']
        let count := (← rules.expression true).tokens
        return .of .repetition [Token.brackets (first.tokens ++ separator ++ count)]
      else
        want ["`,`", "`;`"]

/-!
# Paths
-/

/-- A field of a record with its value; a name alone is its own value. -/
def fieldValue (rules : Rules) : Scan (List Token) := do
  let attrs ← rules.attrTokens
  let isName ← sees Ahead.name
  let member ← member
  if !isName || (← sees (Ahead.sign [':'])) then
    let colon ← sign [':']
    return attrs ++ member :: colon ++ (← rules.expression true).tokens
  else
    return attrs ++ [member]

def fieldValues (rules : Rules) : Scan (List Token) := do
  let (found, _) ← iterate (fun (found, isOver) => do
    if isOver || (← atEnd) then
      return none
    else if ← sees (Ahead.sign ['.', '.']) then
      let dots ← sign ['.', '.']
      let rest ← if ← atEnd then pure [] else pure (← rules.expression true).tokens
      return some (found ++ dots ++ rest, true)
    else
      let field ← rules.fieldValue
      if ← atEnd then
        return some (found ++ field, true)
      else
        return some (found ++ field ++ (← sign [',']), false)) ([], false)
  return found

def pathOperand (rules : Rules) (records : Bool) : Scan Expression := do
  let path ← rules.anyPath true
  if path.isUnapplied && (← sees beginsMacroBody) then
    let body ← macroBody
    return .of (.macroCall (lastDelimiter body)) (path.tokens ++ body)
  else if records && (← sees (Ahead.group .curly)) then
    return .of .record (path.tokens ++ [Token.braces (← group .curly rules.fieldValues)])
  else
    return .of .path path.tokens

/-!
# Closures
-/

def closureArgument (rules : Rules) : Scan (List Token) := do
  let attrs ← rules.attrTokens
  let pattern ← rules.pattern
  if ← sees (Ahead.sign [':']) then
    let colon ← sign [':']
    return attrs ++ pattern.tokens ++ colon ++ (← rules.type true).tokens
  else if pattern.form = .verbatim then
    return pattern.tokens
  else
    return attrs ++ pattern.tokens

def closureOperand (rules : Rules) (records : Bool) : Scan Expression := do
  let binders ← rules.binders
  let words :=
    (← keyword? "const") ++ (← keyword? "static") ++ (← keyword? "async") ++
      (← keyword? "move")
  let opening ← sign ['|']
  let arguments ← listOf (Ahead.sign ['|']) [','] rules.closureArgument
  let closing ← sign ['|']
  let head := binders ++ words ++ opening ++ arguments.tokens ',' ++ closing
  if ← sees (Ahead.sign ['-', '>']) then
    let result ← rules.result true
    return .of .closure (head ++ result ++ (← rules.block))
  else
    return .of .closure (head ++ (← rules.expression records).tokens)

/-!
# All forms
-/

def atom (rules : Rules) (records : Bool) : Scan Expression := do
  let tokens ← get
  if Ahead.literal tokens then
    return .ofLiteral (← literal)
  else if beginsAsyncBlock tokens then
    rules.asyncBlock
  else if beginsAttemptBlock tokens then
    rules.attemptBlock
  else if beginsClosure tokens then
    rules.closureOperand records
  else if beginsBuiltin tokens then
    builtin
    return .of .verbatim (← takenSince tokens)
  else if beginsPathOperand tokens then
    rules.pathOperand records
  else if Ahead.group .round tokens then
    rules.parenthesizedOperand
  else if Ahead.word "break" tokens then
    rules.leaveOperand records
  else if Ahead.word "continue" tokens then
    return .of .resume ((← keyword "continue") ++ (← lifetime?))
  else if Ahead.word "return" tokens then
    rules.valuedOperand "return" .result
  else if Ahead.word "become" tokens then
    rules.becomeOperand
  else if Ahead.group .square tokens then
    rules.arrayOperand
  else if Ahead.word "let" tokens then
    rules.conditionOperand records
  else if Ahead.word "if" tokens then
    rules.conditionalOperand
  else if Ahead.word "while" tokens then
    rules.whileOperand
  else if Ahead.word "for" tokens then
    rules.forOperand
  else if Ahead.word "loop" tokens then
    rules.loopOperand
  else if Ahead.word "match" tokens then
    rules.choiceOperand
  else if Ahead.word "yield" tokens then
    rules.valuedOperand "yield" .yielded
  else if Ahead.word "unsafe" tokens then
    rules.wordBlock "unsafe" .uncheckedBlock
  else if Ahead.word "const" tokens then
    rules.wordBlock "const" .constantBlock
  else if Ahead.group .curly tokens then
    rules.blockOperand
  else if Ahead.sign ['.', '.'] tokens then
    return .of .range (← rules.rangeEnd records)
  else if Ahead.word "_" tokens then
    return .of .hole (← keyword "_")
  else if Ahead.lifetime tokens then
    rules.labelledOperand
  else
    want ["an expression"]

end Rules
end Source
end Criteria
