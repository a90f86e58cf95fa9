import Criteria.Source.Rules

/-!
# Rules for attributes

Attributes before a thing and at its beginning, the words that make a thing public, and the body
of a macro.
-/

namespace Criteria
namespace Source
namespace Rules

open Scan

/-!
# Plain paths
-/

def beginsPlace (tokens : List Token) : Bool :=
  Ahead.nameOrPlace tokens || Ahead.word "Self" tokens

def placePath : Scan (Bool × List String) := do
  let isGlobal ← takesSign [':', ':']
  if !(← sees beginsPlace) then
    let _ ← name
  let (found, isOver) ← iterate (fun (found, isOver) => do
    if isOver then
      return none
    else if ← sees beginsPlace then
      let found := (← anyWord) :: found
      return some (found, !(← takesSign [':', ':']))
    else
      return none) ([], false)
  if isOver then
    return (isGlobal, found.reverse)
  else
    want ["path segment after `::`"]

def placeTokens (isGlobal : Bool) (words : List String) : List Token :=
  (if isGlobal then Token.colons else []) ++
    Token.colons.intercalate (words.map fun word => [.word word])

/-!
# Macros
-/

def beginsMacroBody (tokens : List Token) : Bool :=
  Ahead.sign ['!'] tokens && !Ahead.sign ['!', '='] tokens

def macroBody : Scan (List Token) :=
  return (← sign ['!']) ++ (← anyGroup)

def lastDelimiter (tokens : List Token) : Delimiter :=
  match tokens.getLast? with
  | some (.group delimiter _) => delimiter
  | _ => .round

/-!
# Attributes
-/

def attributeValue (rules : Rules) : Scan Expression := do
  match ← trial? literal with
  | some (tokens, []) =>
      set ([] : List Token)
      return .ofLiteral tokens
  | _ =>
      let tokens ← get
      if Ahead.sign ['#'] tokens && Ahead.group .square (tokens.drop 1) then
        refuse .attributeInAttribute
      else
        rules.expression true

def attributeInside (rules : Rules) : Scan Attribute := do
  let (isGlobal, path) ←
    if ← sees (Ahead.word "unsafe") then
      pure (false, [← anyWord])
    else
      placePath
  match ← get with
  | .group delimiter inner :: rest =>
      set rest
      return ⟨isGlobal, path, .list delimiter inner⟩
  | _ =>
      if ← takesSign ['='] then
        return ⟨isGlobal, path, .value (← rules.attributeValue).tokens⟩
      else
        return ⟨isGlobal, path, .bare⟩

def attr (rules : Rules) : Scan Attribute := do
  let _ ← sign ['#']
  group .square rules.attributeInside

def attrs (rules : Rules) : Scan (List Attribute) :=
  many (Ahead.sign ['#']) rules.attr

def attrTokens (rules : Rules) : Scan (List Token) :=
  return (← rules.attrs).flatMap Attribute.tokens

def beginsInnerAttr (tokens : List Token) : Bool :=
  Ahead.sign ['#'] tokens && Ahead.sign ['!'] (tokens.drop 1)

def innerAttrs (rules : Rules) : Scan (List Token) := do
  let found ← many beginsInnerAttr do
    let _ ← sign ['#']
    let _ ← sign ['!']
    group .square rules.attributeInside
  return found.flatMap Attribute.innerTokens

/-!
# Visibility
-/

def visibility : Scan (List Token) := do
  if !(← sees (Ahead.word "pub")) then
    return []
  let isPublic ← keyword "pub"
  match ← get with
  | .group .round [.word place] :: rest =>
      if isPlace place then
        set rest
        return isPublic ++ [Token.parens [.word place]]
      else if place == "in" then
        want ["identifier"]
      else
        return isPublic
  | .group .round (.word "in" :: _) :: _ =>
      let (isGlobal, words) ← group .round (do
        let _ ← keyword "in"
        placePath)
      return isPublic ++ [Token.parens (.word "in" :: placeTokens isGlobal words)]
  | _ => return isPublic

end Rules
end Source
end Criteria
