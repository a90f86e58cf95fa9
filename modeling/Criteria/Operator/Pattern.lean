/-!
# Patterns of LIKE

A text is turned into a pattern that matches it literally: the escape character and the two
wildcards are preceded by the escape character.  A wildcard is then added on the sides where
anything may stand.
-/

namespace Criteria
namespace Pattern

def isSpecial (c : Char) : Bool :=
  c == '\\' || c == '_' || c == '%'

def escape : List Char -> List Char
  | [] => []
  | c :: cs => if isSpecial c then '\\' :: c :: escape cs else c :: escape cs

def needsEscape (cs : List Char) : Bool :=
  cs.any isSpecial

inductive Position where
  | anywhere
  | start
  | finish
deriving DecidableEq, Repr

def ofText (position : Position) (cs : List Char) : List Char :=
  match position with
  | .anywhere => '%' :: (escape cs ++ ['%'])
  | .start => escape cs ++ ['%']
  | .finish => '%' :: escape cs

end Pattern
end Criteria
