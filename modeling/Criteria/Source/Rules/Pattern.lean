import Criteria.Source.Rules.Parameter

/-!
# Rules for patterns

A pattern is a name, a value, a range of values, or it takes a record, a tuple or a list apart.
-/

namespace Criteria
namespace Source
namespace Rules

open Scan

/-!
# Alternatives
-/

def beginsAlternative (tokens : List Token) : Bool :=
  Ahead.sign ['|'] tokens && !Ahead.signs [['|', '|'], ['|', '=']] tokens

def alternatives (rules : Rules) : Scan Pattern := do
  let stroke ← sign? ['|']
  let first ← rules.pattern
  let rest ← many beginsAlternative do
    let stroke ← sign ['|']
    return stroke ++ (← rules.pattern).tokens
  if stroke.isEmpty && rest.isEmpty then
    return first
  else
    return ⟨.other, stroke ++ first.tokens ++ rest.flatten⟩

/-!
# Ranges
-/

def endsRange (tokens : List Token) : Bool :=
  tokens.isEmpty || Ahead.word "if" tokens ||
    Ahead.signs [['|'], ['='], [','], [';']] tokens ||
    (Ahead.sign [':'] tokens && !Ahead.sign [':', ':'] tokens)

def constantBlock (rules : Rules) : Scan (List Token) :=
  return (← keyword "const") ++ (← rules.attributedBlock)

def rangeBound (rules : Rules) : Scan (List Token) := do
  let tokens ← get
  if Ahead.literal tokens then
    literal
  else if beginsPath tokens then
    return (← rules.anyPath true).tokens
  else if Ahead.word "const" tokens then
    rules.constantBlock
  else
    want
      [ "literal", "identifier", "`::`", "`<`", "`self`", "`Self`", "`super`", "`crate`"
      , "`const`" ]

/-- The dots of a range, and whether its end belongs to it.  Three dots are an old way to say
so. -/
def patternDots : Scan (List Token × Bool) := do
  if ← sees (Ahead.sign ['.', '.', '=']) then
    return (← sign ['.', '.', '='], true)
  else if ← sees (Ahead.sign ['.', '.', '.']) then
    let _ ← sign ['.', '.', '.']
    return (Token.sign ['.', '.', '='], true)
  else
    return (← sign ['.', '.'], false)

def rangeFrom (rules : Rules) (start : List Token) : Scan Pattern := do
  let (dots, isClosed) ← patternDots
  if !(← sees endsRange) then
    return ⟨.other, start ++ dots ++ (← rules.rangeBound)⟩
  else if isClosed then
    want ["range upper bound"]
  else
    return ⟨.openRange, start ++ dots⟩

def rangeTo (rules : Rules) : Scan Pattern := do
  let isClosed ← sees (Ahead.sign ['.', '.', '='])
  let dots ← if isClosed then sign ['.', '.', '='] else sign ['.', '.']
  if !(← sees endsRange) then
    return ⟨.openRange, dots ++ (← rules.rangeBound)⟩
  else if isClosed then
    want ["range upper bound"]
  else
    return ⟨.other, dots⟩

def valuePattern (rules : Rules) : Scan Pattern := do
  let start ← rules.rangeBound
  if ← sees (Ahead.sign ['.', '.']) then
    rules.rangeFrom start
  else
    return ⟨.other, start⟩

/-!
# Records and tuples
-/

/-- A place in a tuple, which is written without letters and without zeros before it. -/
def place (number : Nat) (ending : String) : Scan Token :=
  if !ending.isEmpty then refuse .endingOfPlace
  else if number < 4294967296 then return .ofNumber number
  else refuse .largePlace

def member : Scan Token := do
  match ← get with
  | .literal _ (.integer number ending) :: rest =>
      set rest
      place number ending
  | tokens =>
      if Ahead.name tokens then return .word (← name) else want ["identifier or integer"]

def fieldPattern (rules : Rules) : Scan (List Token) := do
  let before ← get
  let box ← keyword? "box"
  let marks := (← keyword? "ref") ++ (← keyword? "mut")
  if box.isEmpty && marks.isEmpty then
    let isName ← sees Ahead.name
    let member ← member
    if !isName || (← sees (Ahead.sign [':'])) then
      let colon ← sign [':']
      return member :: colon ++ (← rules.alternatives).tokens
    else
      return [member]
  else
    let name ← name
    if box.isEmpty then
      return marks ++ [.word name]
    else
      takenSince before

def fieldPatterns (rules : Rules) : Scan (List Token) := do
  let (found, _) ← iterate (fun (found, isOver) => do
    if isOver || (← atEnd) then
      return none
    let attrs ← rules.attrTokens
    if ← sees (Ahead.sign ['.', '.']) then
      return some (found ++ attrs ++ (← sign ['.', '.']), true)
    let field ← rules.fieldPattern
    if ← atEnd then
      return some (found ++ attrs ++ field, true)
    return some (found ++ attrs ++ field ++ (← sign [',']), false)) ([], false)
  return found

def patternList (rules : Rules) : Scan (Listed Pattern) :=
  commaList rules.alternatives

def patternTokens (patterns : Listed Pattern) : List Token :=
  (patterns.map Pattern.tokens).tokens ','

def pathPattern (rules : Rules) : Scan Pattern := do
  let path ← rules.anyPath true
  if path.isUnapplied && (← sees beginsMacroBody) then
    return ⟨.other, path.tokens ++ (← macroBody)⟩
  else if ← sees (Ahead.group .curly) then
    return ⟨.other, path.tokens ++ [Token.braces (← group .curly rules.fieldPatterns)]⟩
  else if ← sees (Ahead.group .round) then
    let inner := patternTokens (← group .round rules.patternList)
    return ⟨.other, path.tokens ++ [Token.parens inner]⟩
  else if ← sees (Ahead.sign ['.', '.']) then
    rules.rangeFrom path.tokens
  else
    return ⟨.other, path.tokens⟩

/-- A list, in which a range with one bound needs brackets of its own. -/
def slicePattern (rules : Rules) : Scan Pattern := do
  let item : Scan Pattern := do
    let found ← rules.alternatives
    if found.form = .openRange then refuse .openRangeInSlice else return found
  return ⟨.other, [Token.brackets (patternTokens (← group .square (commaList item)))]⟩

/-!
# All forms
-/

def namePattern (rules : Rules) : Scan Pattern := do
  let marks := (← keyword? "ref") ++ (← keyword? "mut")
  let name ← if ← sees (Ahead.word "self") then anyWord else name
  let at_ ← sign? ['@']
  let inner ← if at_.isEmpty then pure [] else pure (← rules.pattern).tokens
  return ⟨.other, marks ++ .word name :: at_ ++ inner⟩

def beginsPathPattern (tokens : List Token) : Bool :=
  let second := tokens.drop 1
  (Ahead.name tokens &&
      (Ahead.signs [[':', ':'], ['!'], ['.', '.']] second || Ahead.group .curly second ||
        Ahead.group .round second)) ||
    (Ahead.word "self" tokens && Ahead.sign [':', ':'] second) ||
    Ahead.signs [[':', ':'], ['<']] tokens || Ahead.words ["Self", "super", "crate"] tokens

def patternForm (rules : Rules) : Scan Pattern := do
  let before ← get
  if beginsPathPattern before then
    rules.pathPattern
  else if Ahead.word "_" before then
    return ⟨.other, ← keyword "_"⟩
  else if Ahead.word "box" before then
    let _ ← keyword "box"
    let _ ← rules.pattern
    return ⟨.verbatim, ← takenSince before⟩
  else if Ahead.sign ['-'] before || Ahead.literal before || Ahead.word "const" before then
    rules.valuePattern
  else if Ahead.words ["ref", "mut", "self"] before || Ahead.name before then
    rules.namePattern
  else if Ahead.sign ['&'] before then
    let marks := (← sign ['&']) ++ (← keyword? "mut")
    return ⟨.other, marks ++ (← rules.pattern).tokens⟩
  else if Ahead.group .round before then
    return ⟨.other, [Token.parens (patternTokens (← group .round rules.patternList))]⟩
  else if Ahead.group .square before then
    rules.slicePattern
  else if Ahead.sign ['.', '.'] before && !Ahead.sign ['.', '.', '.'] before then
    rules.rangeTo
  else
    want
      [ "identifier", "`::`", "`<`", "`_`", "literal", "`const`", "`ref`", "`mut`", "`&`"
      , "parentheses", "square brackets", "`..`" ]

end Rules
end Source
end Criteria
