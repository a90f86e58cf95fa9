import Criteria.Source.Rules.Operand

/-!
# Rules for statements

A block holds declarations, names that are given a value, macros and expressions.
-/

namespace Criteria
namespace Source
namespace Rules

open Scan

/-!
# Macros
-/

inductive MacroUse where
  | item
  | statement (tokens : List Token)

def continuesMacro (tokens : List Token) : Bool :=
  beginsAccess tokens || Ahead.sign ['?'] tokens

def macroUse? (tokens : List Token) : Option MacroUse :=
  match (placePath.run tokens).toOption with
  | none => none
  | some ((isGlobal, words), rest) =>
      let second := rest.drop 1
      if !Ahead.sign ['!'] rest then
        none
      else if Ahead.name second || Ahead.word "try" second then
        some .item
      else if Ahead.group .curly second && !continuesMacro (rest.drop 2) then
        some (.statement (placeTokens isGlobal words ++ .mark '!' false :: second.take 1))
      else
        none

/-!
# Declarations
-/

def wordBeginsItem (word : String) (second third : List Token) : Bool :=
  match word with
  | "pub" | "extern" | "use" | "fn" | "mod" | "type" | "struct" | "enum" | "trait" | "impl"
  | "macro" => true
  | "crate" => !Ahead.sign [':', ':'] second
  | "static" => Ahead.word "mut" second || Ahead.name second
  | "const" =>
      !(Ahead.group .curly second || Ahead.words ["static", "move"] second ||
        Ahead.sign ['|'] second ||
        (Ahead.word "async" second && !Ahead.words ["unsafe", "extern", "fn"] third))
  | "unsafe" => !Ahead.group .curly second
  | "async" => Ahead.words ["unsafe", "extern", "fn"] second
  | "union" => Ahead.name second
  | "auto" => Ahead.word "trait" second
  | "default" => Ahead.words ["unsafe", "impl"] second
  | _ => false

def beginsItem : List Token -> Bool
  | .word word :: rest => wordBeginsItem word rest (rest.drop 1)
  | _ => false

/-!
# Statements
-/

def initialValue (rules : Rules) : Scan (List Token) := do
  let equals ← sign? ['=']
  if equals.isEmpty then
    return []
  let value ← rules.expression true
  if !value.endsCurly && (← sees (Ahead.word "else")) then
    return equals ++ value.tokens ++ (← keyword "else") ++ (← rules.block)
  else
    return equals ++ value.tokens

def binding (rules : Rules) : Scan (List Token) := do
  let word ← keyword "let"
  let pattern := (← rules.pattern).tokens
  let colon ← sign? [':']
  let type ← if colon.isEmpty then pure [] else pure (← rules.type true).tokens
  let value ← rules.initialValue
  return word ++ pattern ++ colon ++ type ++ value ++ (← sign [';'])

def statement (rules : Rules) : Scan (List Token × Bool) := do
  let before ← get
  let attrs ← rules.attrTokens
  let tokens ← get
  match macroUse? tokens with
  | some .item =>
      set before
      return (← rules.item, false)
  | some (.statement found) =>
      let _ ← placePath
      let _ ← macroBody
      return (attrs ++ found ++ (← sign? [';']), false)
  | none =>
      if Ahead.word "let" tokens then
        return (attrs ++ (← rules.binding), false)
      else if beginsItem tokens then
        set before
        return (← rules.item, false)
      else
        let found ← rules.leading
        let ending ← sign? [';']
        let isOpen := ending.isEmpty && found.form.needsSemicolon
        return ((attributed attrs found).tokens ++ ending, isOpen)

/-- The statements up to the end of a block.  Semicolons alone are statements too. -/
def statementsForm (rules : Rules) : Scan (List Token) :=
  iterate (fun found => do
    if ← sees (Ahead.sign [';']) then
      return some (found ++ (← sign [';']))
    else if ← atEnd then
      return none
    else
      let (tokens, isOpen) ← rules.statement
      if isOpen && !(← atEnd) then
        refuse .unseparatedStatement
      else
        return some (found ++ tokens)) []

end Rules
end Source
end Criteria
