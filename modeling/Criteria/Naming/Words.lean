import Criteria.Text.Cut
import Criteria.Text.Letter

/-!
# The words of a name

A name is cut into words: `_`, `-` and the space stand between words and belong to none, so two
of them in a row have an empty word between them; within such a piece a word ends where the kind
of character changes from lower case to upper case, between letters and digits, and before the
last capital of a run of capitals that a lower case letter follows.

The words are written again in one of three spellings.
-/

namespace Criteria
namespace Words

open Text
open Text.Letter

/-!
# Cutting
-/

def isSeparator (c : Char) : Bool :=
  c == '_' || c == '-' || c == ' '

/-- A word ends between the neighbours `c` and `d`, the second of which `next` follows. -/
def isSeam (c d : Char) (next : Option Char) : Bool :=
  (isLower c && (isUpper d || isDigit d)) ||
    (isUpper c && isDigit d) ||
    (isDigit c && (isLower d || isUpper d)) ||
    (isUpper c && isUpper d && next.any isLower)

def prepend (c : Char) : List (List Char) -> List (List Char)
  | [] => [[c]]
  | word :: words => (c :: word) :: words

def cutAtSeams : List Char -> List (List Char)
  | [] => [[]]
  | [c] => [[c]]
  | c :: d :: cs =>
      if isSeam c d cs.head? then
        [c] :: cutAtSeams (d :: cs)
      else
        prepend c (cutAtSeams (d :: cs))

def ofName (name : List Char) : List (List Char) :=
  (splitWhere isSeparator name).flatMap cutAtSeams

/-!
# Spellings
-/

def capitalize : List Char -> List Char
  | [] => []
  | c :: cs => upper c ++ lowerAll cs

def snake (words : List (List Char)) : List Char :=
  joinChars ['_'] (words.map lowerAll)

def camel : List (List Char) -> List Char
  | [] => []
  | word :: words => lowerAll word ++ words.flatMap capitalize

end Words

inductive Spelling where
  | snake
  | camel
  | verbatim
deriving DecidableEq, Repr

namespace Spelling

def applyChars : Spelling -> List Char -> List Char
  | .snake, name => Words.snake (Words.ofName name)
  | .camel, name => Words.camel (Words.ofName name)
  | .verbatim, name => name

def apply (spelling : Spelling) (name : String) : String :=
  String.ofList (spelling.applyChars name.toList)

end Spelling
end Criteria
