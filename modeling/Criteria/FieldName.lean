import Criteria.Naming
import Criteria.Operator

/-!
# Names of fields

A field's name ends in the word of an operator, `id_gt` or `username_not_in`; what precedes it is
the name of the column.  The operator's word is the longest that fits.  A name without one asks
for equality on the whole name.

A qualified name may have more words after the operator's, `score_gt_avg`.
-/

namespace Criteria
namespace FieldName

open Text

/-!
# The words of the operators
-/

/-- The words of the operators, each before those that begin it. -/
def suffixes : List (List Char × Operator) :=
  [ ("not_contain".toList, .notContain)
  , ("not_start".toList, .notStart)
  , ("not_like".toList, .notLike)
  , ("not_end".toList, .notFinish)
  , ("not_in".toList, .notIn)
  , ("not".toList, .not)
  , ("contain".toList, .contain)
  , ("start".toList, .start)
  , ("like".toList, .like)
  , ("null".toList, .null)
  , ("end".toList, .finish)
  , ("in".toList, .isIn)
  , ("gt".toList, .gt)
  , ("ge".toList, .ge)
  , ("lt".toList, .lt)
  , ("le".toList, .le)
  , ("ne".toList, .ne)
  , ("eq".toList, .eq)
  , ("rx".toList, .rx) ]

def operatorOf? (word : List Char) : Option Operator :=
  suffixes.lookup word

def suffixOf (operator : Operator) : List Char :=
  ((suffixes.find? fun entry => entry.2 == operator).map Prod.fst).getD []

theorem operatorOf?_suffixOf
    (operator : Operator) :
    operatorOf? (suffixOf operator) = some operator := by
  cases operator <;> rfl

/-!
# Cutting a name
-/

def isNameChar (c : Char) : Bool :=
  ('a' ≤ c && c ≤ 'z') || ('0' ≤ c && c ≤ '9') || c == '_'

/-- All ways to cut a name at an underscore into a non-empty base and the rest, shortest base
first, as long as the base has only name characters. -/
def cuts : List Char -> List (List Char × List Char)
  | [] => []
  | c :: cs =>
      if isNameChar c then
        let here :=
          match cs with
          | '_' :: rest => [([c], rest)]
          | _ => []
        here ++ (cuts cs).map fun parts => (c :: parts.1, parts.2)
      else
        []

/-- The operator whose word begins `text`, a qualifier of name characters after it included. -/
def qualifiedOperatorOf? (text : List Char) : Option Operator :=
  suffixes.findSome? fun entry =>
    match dropStart? entry.1 text with
    | some [] => some entry.2
    | some ('_' :: c :: cs) => if (c :: cs).all isNameChar then some entry.2 else none
    | _ => none

/-- A name with capitals is brought to snake case. -/
def normalize (name : List Char) : List Char :=
  if name.any Letter.isCapital then Spelling.snake.applyChars name else name

/-!
# Reading a name
-/

structure Reading where
  column : String
  operator : Operator
deriving DecidableEq, Repr

def readWith (operator? : List Char -> Option Operator) (naming : Naming) (name : String) :
    Reading :=
  let normal := normalize name.toList
  let cut? := (cuts normal).findSome? fun parts => (operator? parts.2).map fun op => (parts.1, op)
  match cut? with
  | some (base, operator) => ⟨naming.column (String.ofList base), operator⟩
  | none => ⟨naming.column (String.ofList normal), .eq⟩

def read (naming : Naming) (name : String) : Reading :=
  readWith operatorOf? naming name

def readQualified (naming : Naming) (name : String) : Reading :=
  readWith qualifiedOperatorOf? naming name

end FieldName
end Criteria
