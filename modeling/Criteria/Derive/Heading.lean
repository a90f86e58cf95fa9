import Criteria.Derive.Rejection
import Criteria.Source.Grammar
import Criteria.Text.Cut

/-!
# Headings

The attributes of a whole declaration that carry settings for what is derived from it, and the
fields that it declares.  Headings are read before all else, and all their faults are collected.
-/

namespace Criteria
namespace Derive

open Source

/-!
# Items
-/

inductive Entry where
  | word
  | list (inner : List Token)
  | value (form : ExpressionForm)

inductive HeadingItem where
  | literal
  | entry (key : String) (entry : Entry)

namespace HeadingItem

/-- Whether a literal comes first.  A truth value that is set equal to something is a key. -/
def beginsLiteral (tokens : List Token) : Bool :=
  Ahead.literal tokens &&
    !(Ahead.words ["true", "false"] tokens && Ahead.sign ['='] (tokens.drop 1))

def beginsKey (tokens : List Token) : Bool :=
  Ahead.anyWord tokens ||
    (Ahead.sign [':', ':'] tokens && Ahead.anyWord (tokens.drop 2))

def key : Scan String := do
  let _ ← Scan.sign? [':', ':']
  let first ← Scan.anyWord
  let rest ← Scan.many (Ahead.sign [':', ':']) do
    let _ ← Scan.sign [':', ':']
    if ← Scan.sees Ahead.anyWord then Scan.anyWord else Scan.want ["path segment"]
  return Text.joinWith "::" (first :: rest)

/-- What follows a key.  A literal with nothing after it is taken as it is. -/
def entryOf (rules : Rules) : Scan Entry := do
  match ← get with
  | .group _ inner :: rest =>
      set rest
      return .list inner
  | _ =>
      if !(← Scan.takesSign ['=']) then
        return .word
      match ← Scan.trial? Scan.literal with
      | some (tokens, []) =>
          set ([] : List Token)
          return .value (Expression.ofLiteral tokens).form
      | _ => return .value (← rules.expression true).form

def scan (rules : Rules) : Scan HeadingItem := do
  let tokens ← get
  if beginsLiteral tokens then
    let _ ← Scan.literal
    return .literal
  else if beginsKey tokens then
    let key ← key
    return .entry key (← entryOf rules)
  else
    Scan.want ["identifier or literal"]

def ofTokens (tokens : List Token) : Except Complaint (List HeadingItem) := do
  return (← (Scan.commaList (scan (Rules.within tokens))).run' tokens).items

def listOf (name : String) : AttributeForm -> Except WrongHeading (List HeadingItem)
  | .bare => .ok []
  | .value _ => .error (.value name)
  | .list _ inner => (ofTokens inner).mapError .unread

end HeadingItem

/-!
# Entries
-/

namespace Entry

def wrongList (inner : List Token) (key : String) : WrongHeading :=
  match HeadingItem.ofTokens inner with
  | .error complaint => .unreadList complaint key
  | .ok _ => .form "list" key

def textFor (key : String) : Entry -> Except WrongHeading String
  | .value (.literal (.string text)) => .ok text
  | .value form => .error (.type form key)
  | .word => .error (.form "word" key)
  | .list inner => .error (wrongList inner key)

def truthFor (key : String) : Entry -> Except WrongHeading Bool
  | .word => .ok true
  | .value (.truth truth) => .ok truth
  | .value (.literal (.string text)) =>
      if text == "true" then .ok true
      else if text == "false" then .ok false
      else .error (.unknown text key)
  | .value form => .error (.type form key)
  | .list inner => .error (wrongList inner key)

end Entry

/-!
# Headings
-/

def headingItems (name : String) (attrs : List Attribute) :
    List (Except WrongHeading HeadingItem) :=
  (attrs.filter fun attr => attr.path == [name]).flatMap fun attr =>
    match HeadingItem.listOf name attr.form with
    | .error fault => [.error fault]
    | .ok items => items.map .ok

def entryOf? (key : String) (items : List (Except WrongHeading HeadingItem)) : Option Entry :=
  items.findSome? fun
    | .ok (.entry found entry) => if found = key then some entry else none
    | _ => none

structure HeadingKey where
  name : String
  fault? : Entry -> Option WrongHeading

def faultOf? {α : Type} : Except WrongHeading α -> Option WrongHeading
  | .error fault => some fault
  | .ok _ => none

def textKey (name : String) : HeadingKey :=
  ⟨name, fun entry => faultOf? (entry.textFor name)⟩

def truthKey (name : String) : HeadingKey :=
  ⟨name, fun entry => faultOf? (entry.truthFor name)⟩

/-- The faults of a heading in order.  Of a key only the first entry is looked at, and every
further one is a fault; what is no key is passed over. -/
def headingFaults (keys : List HeadingKey) (seen : List String) :
    List (Except WrongHeading HeadingItem) -> List WrongHeading
  | [] => []
  | .error fault :: items => fault :: headingFaults keys seen items
  | .ok .literal :: items => .literal :: headingFaults keys seen items
  | .ok (.entry name entry) :: items =>
      match keys.find? fun key => key.name == name with
      | none => headingFaults keys seen items
      | some key =>
          if seen.contains name then
            .repeated name :: headingFaults keys seen items
          else
            (key.fault? entry).toList ++ headingFaults keys (name :: seen) items

/-!
# Fields
-/

def recordFields : Body -> Except WrongShape (List FieldDeclaration)
  | .record fields => .ok fields.items
  | .choice _ => .error .choice
  | .union _ => .error .union
  | .unit => .error .unit
  | .tuple fields => .error (if fields.items.length = 1 then .single else .tuple)

/-- The items of a declaration's heading and its fields, or what is wrong with the heading and
then with the shape. -/
def openRecord (name : String) (keys : List HeadingKey) (declaration : Declaration) :
    Except (List Rejection)
      (List (Except WrongHeading HeadingItem) × List FieldDeclaration) :=
  let items := headingItems name declaration.attrs
  let faults := (headingFaults keys [] items).map Rejection.heading
  match recordFields declaration.body with
  | .error shape => .error (faults ++ [.shape shape])
  | .ok fields => if faults.isEmpty then .ok (items, fields) else .error faults

end Derive
end Criteria
