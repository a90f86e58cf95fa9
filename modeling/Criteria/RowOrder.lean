import Criteria.Fault
import Criteria.Naming
import Criteria.Text.Blank

/-!
# Sort orders

A sort text is a list of keys between semicolons; a key is a field, and optionally a comma and a
direction.  Blanks around the parts and blank keys do not count.  A strict reader stops at the
first bad key, a lenient one leaves the bad keys out and reports them.
-/

namespace Criteria

open Text

inductive Direction where
  | ascending
  | descending
deriving DecidableEq, Repr

namespace Direction

def keyword : Direction -> String
  | .ascending => "ASC"
  | .descending => "DESC"

def standard : Direction :=
  .ascending

def ofToken? (token : List Char) : Option Direction :=
  let lowered := token.map Char.toLower
  if lowered = ['a', 's', 'c'] then
    some .ascending
  else if lowered = ['d', 'e', 's', 'c'] then
    some .descending
  else
    none

end Direction

structure SortKey where
  field : String
  direction : Option Direction
deriving DecidableEq, Repr

namespace SortKey

/-!
# Keys
-/

def isFieldStart (c : Char) : Bool :=
  c.isAlpha || c == '_'

def isFieldChar (c : Char) : Bool :=
  c.isAlphanum || c == '_' || c == '.'

/-- ASCII identifiers, and such names with dots after the first character. -/
def isField : List Char -> Bool
  | [] => false
  | c :: cs => isFieldStart c && cs.all isFieldChar

def ofEntry? (entry : List Char) : Option SortKey :=
  match (split ',' entry).map trimChars with
  | [field] => if isField field then some ⟨String.ofList field, none⟩ else none
  | [field, token] =>
      if isField field then
        (Direction.ofToken? token).map fun d => ⟨String.ofList field, some d⟩
      else
        none
  | _ => none

def parse (entry : String) : Except Fault SortKey :=
  match ofEntry? entry.toList with
  | some key => .ok key
  | none => .error (.sortKey entry)

def render (key : SortKey) (naming : Naming) : String :=
  let column := naming.column key.field
  match key.direction with
  | some direction => column ++ " " ++ direction.keyword
  | none => column

end SortKey

namespace RowOrder

/-!
# Orders
-/

def entries (sort : String) : List String :=
  (((split ';' sort.toList).map trimChars).filter fun entry => !entry.isEmpty).map String.ofList

def parseAll : List String -> Except Fault (List SortKey)
  | [] => .ok []
  | entry :: rest => do
      let key ← SortKey.parse entry
      let keys ← parseAll rest
      return key :: keys

def parse (sort : String) : Except Fault (List SortKey) :=
  parseAll (entries sort)

def sift : List String -> List SortKey × List Fault
  | [] => ([], [])
  | entry :: rest =>
      let others := sift rest
      match SortKey.parse entry with
      | .ok key => (key :: others.1, others.2)
      | .error fault => (others.1, fault :: others.2)

def parseLenient (sort : String) : List SortKey × List Fault :=
  sift (entries sort)

def render (keys : List SortKey) (naming : Naming) : String :=
  if keys.isEmpty then
    ""
  else
    " ORDER BY " ++ joinWith ", " (keys.map fun key => key.render naming)

def orderBy (sort : String) (naming : Naming) : String :=
  render (parseLenient sort).1 naming

end RowOrder
end Criteria
