import Criteria.Derive.Rejection
import Criteria.Source.Scan
import Criteria.Text.Cut

/-!
# Keys

The entries of an attribute's list begin with keys, which are paths of any words.
-/

namespace Criteria
namespace Derive

open Source

structure Key where
  isGlobal : Bool
  names : List String
deriving DecidableEq, Repr

namespace Key

def isWord (key : Key) (word : String) : Bool :=
  !key.isGlobal && key.names == [word]

def text (key : Key) : String :=
  Text.joinWith "::" key.names

def cutNames : List Token -> Except WrongSetting (List String × List Token)
  | .mark ':' true :: .mark ':' _ :: .word name :: rest => do
      let (names, rest) ← cutNames rest
      return (name :: names, rest)
  | .mark ':' true :: .mark ':' _ :: rest => .error (.noName rest.isEmpty)
  | rest => .ok ([], rest)

def cut (tokens : List Token) : Except WrongSetting (Key × List Token) :=
  let isGlobal := Ahead.sign [':', ':'] tokens
  match if isGlobal then tokens.drop 2 else tokens with
  | .word name :: rest => do
      let (names, rest) ← cutNames rest
      return (⟨isGlobal, name :: names⟩, rest)
  | [] => .error .noKey
  | other => .error (if Ahead.literal other then .literalForKey else .signForKey)

end Key

def afterComma? : List Token -> Option (List Token)
  | .mark ',' _ :: rest => some rest
  | _ => none

end Derive
end Criteria
