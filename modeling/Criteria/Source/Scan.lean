import Criteria.Source.Complaint
import Criteria.Source.Identifier
import Criteria.Source.Listed

/-!
# Scanning tokens

A scan takes tokens from the beginning of a list, or complains where they do not fit.  What
follows the tokens that it takes is left to the next scan.  What comes next decides what is read;
a complaint is final.
-/

namespace Criteria
namespace Source

/-!
# What comes next
-/

namespace Ahead

/-- Whether the tokens begin with a sign; only what comes before the last symbol must be joined
to its successor. -/
def sign : List Char -> List Token -> Bool
  | [], _ => true
  | [c], .mark symbol _ :: _ => symbol == c
  | c :: d :: cs, .mark symbol true :: rest => symbol == c && sign (d :: cs) rest
  | _, _ => false

def signs (all : List (List Char)) (tokens : List Token) : Bool :=
  all.any fun chars => sign chars tokens

def anyWord : List Token -> Bool
  | .word _ :: _ => true
  | _ => false

def word (text : String) : List Token -> Bool
  | .word found :: _ => found == text
  | _ => false

def words (all : List String) (tokens : List Token) : Bool :=
  all.any fun text => word text tokens

def name : List Token -> Bool
  | .word found :: _ => isName found
  | _ => false

def nameOrPlace : List Token -> Bool
  | .word found :: _ => isName found || isPlace found
  | _ => false

def lifetime : List Token -> Bool
  | .lifetime _ :: _ => true
  | _ => false

def group (delimiter : Delimiter) : List Token -> Bool
  | .group found _ :: _ => found == delimiter
  | _ => false

def anyGroup : List Token -> Bool
  | .group _ _ :: _ => true
  | _ => false

def literal : List Token -> Bool
  | .literal _ _ :: _ => true
  | .word text :: _ => text == "true" || text == "false"
  | .mark '-' _ :: .literal _ (.integer _ _) :: _ => true
  | .mark '-' _ :: .literal _ .decimal :: _ => true
  | _ => false

def text : List Token -> Bool
  | .literal _ (.string _) :: _ => true
  | _ => false

end Ahead

/-!
# Scans
-/

abbrev Scan (α : Type) : Type :=
  StateT (List Token) (Except Complaint) α

namespace Scan

def complain {α : Type} (complaint : Complaint) : Scan α :=
  throw complaint

def want {α : Type} (things : List String) : Scan α := do
  complain (.wanted things (← get).isEmpty)

def refuse {α : Type} (refusal : Refusal) : Scan α :=
  complain (.refused refusal)

def atEnd : Scan Bool := do
  return (← get).isEmpty

def sees (holds : List Token -> Bool) : Scan Bool := do
  return holds (← get)

/-!
# Taking tokens
-/

def sign (symbols : List Char) : Scan (List Token) := do
  if ← sees (Ahead.sign symbols) then
    modify (List.drop symbols.length)
    return Token.sign symbols
  else
    complain (.sign symbols)

def sign? (symbols : List Char) : Scan (List Token) := do
  if ← sees (Ahead.sign symbols) then sign symbols else return []

def takesSign (symbols : List Char) : Scan Bool := do
  return !(← sign? symbols).isEmpty

def keyword (text : String) : Scan (List Token) := do
  match ← get with
  | .word found :: rest =>
      if found == text then
        set rest
        return [.word text]
      else
        want ["`" ++ text ++ "`"]
  | _ => want ["`" ++ text ++ "`"]

def keyword? (text : String) : Scan (List Token) := do
  if ← sees (Ahead.word text) then keyword text else return []

def takesWord (text : String) : Scan Bool := do
  return !(← keyword? text).isEmpty

def anyWord : Scan String := do
  match ← get with
  | .word text :: rest =>
      set rest
      return text
  | _ => want ["ident"]

def name : Scan String := do
  match ← get with
  | .word text :: rest =>
      if isName text then
        set rest
        return text
      else
        complain (.keyword text)
  | _ => want ["identifier"]

def lifetime : Scan (List Token) := do
  match ← get with
  | .lifetime text :: rest =>
      set rest
      return [.lifetime text]
  | _ => want ["lifetime"]

def lifetime? : Scan (List Token) := do
  if ← sees Ahead.lifetime then lifetime else return []

def literal : Scan (List Token) := do
  match ← get with
  | .literal text kind :: rest =>
      set rest
      return [.literal text kind]
  | .word text :: rest =>
      if text == "true" || text == "false" then
        set rest
        return [.word text]
      else
        want ["literal"]
  | .mark '-' _ :: .literal text kind :: rest =>
      if ← sees Ahead.literal then
        set rest
        return [.mark '-' false, .literal text kind]
      else
        want ["literal"]
  | _ => want ["literal"]

def anyGroup : Scan (List Token) := do
  match ← get with
  | .group delimiter inner :: rest =>
      set rest
      return [.group delimiter inner]
  | _ => want ["delimiter"]

def takenSince (before : List Token) : Scan (List Token) := do
  return before.take (before.length - (← get).length)

/-- What a scan would find, and what would be left; nothing is taken. -/
def trial? {α : Type} (scan : Scan α) : Scan (Option (α × List Token)) := do
  return (scan.run (← get)).toOption

/-!
# Groups
-/

def groupName : Delimiter -> String
  | .round => "parentheses"
  | .square => "square brackets"
  | .curly => "curly braces"

def whole {α : Type} (delimiter : Delimiter) (scan : Scan α) (tokens : List Token) :
    Except Complaint α := do
  let (result, rest) ← scan.run tokens
  if rest.isEmpty then return result else throw (.left delimiter)

def whole? {α : Type} (scan : Scan α) (tokens : List Token) : Option α :=
  (whole .round scan tokens).toOption

def group {α : Type} (delimiter : Delimiter) (inside : Scan α) : Scan α := do
  match ← get with
  | .group found inner :: rest =>
      if found = delimiter then
        set rest
        whole delimiter inside inner
      else
        want [groupName delimiter]
  | _ => want [groupName delimiter]

/-!
# Repeating
-/

def iterate {α : Type} (step : α -> Scan (Option α)) (start : α) : Scan α := do
  run ((← get).length + 1) start
where
  run (steps : Nat) (current : α) : Scan α :=
    match steps with
    | 0 => want []
    | steps + 1 => do
        match ← step current with
        | none => return current
        | some next => run steps next

def many {α : Type} (begins : List Token -> Bool) (item : Scan α) : Scan (List α) :=
  List.reverse <$> iterate (fun found => do
    if ← sees begins then
      return some ((← item) :: found)
    else
      return none) []

/-- Items with signs between them up to where `ends` holds; the last one may have a sign too. -/
def listOf {α : Type} (ends : List Token -> Bool) (separator : List Char) (item : Scan α) :
    Scan (Listed α) := do
  let (found, trailing, _) ← iterate (fun (found, _, isOver) => do
    if isOver || (← sees ends) then
      return none
    let next := (← item) :: found
    if ← sees ends then
      return some (next, false, true)
    let _ ← sign separator
    return some (next, true, false)) ([], false, false)
  return ⟨found.reverse, trailing⟩

def commaList {α : Type} (item : Scan α) : Scan (Listed α) :=
  listOf List.isEmpty [','] item

def commaRest {α : Type} (item : Scan α) (first : α) : Scan (Listed α) := do
  if ← atEnd then
    return ⟨[first], false⟩
  let _ ← sign [',']
  let rest ← commaList item
  return ⟨first :: rest.items, rest.items.isEmpty || rest.trailing⟩

def plusRest {α : Type} (begins : List Token -> Bool) (item : Scan α) (first : α) :
    Scan (Listed α) := do
  let (found, trailing) ← iterate (fun (found, isOver) => do
    if isOver then
      return none
    else if !(← takesSign ['+']) then
      return none
    else if ← sees begins then
      return some ((← item) :: found, false)
    else
      return some (found, true)) ([first], false)
  return ⟨found.reverse, trailing⟩

def plusList {α : Type} (ends : List Token -> Bool) (item : Scan α) : Scan (Listed α) := do
  if ← sees ends then
    return ⟨[], false⟩
  else
    plusRest (fun tokens => !ends tokens) item (← item)

end Scan

end Source
end Criteria
