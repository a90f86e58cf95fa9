import Criteria.Source.IdentifierRanges

/-!
# Identifiers

A word begins with a letter or an underscore and goes on with letters, digits and underscores.
The words of the grammar itself are no names.
-/

namespace Criteria
namespace Source

def isDigit (c : Char) : Bool :=
  '0' ≤ c && c ≤ '9'

def isLetter (c : Char) : Bool :=
  ('a' ≤ c && c ≤ 'z') || ('A' ≤ c && c ≤ 'Z')

def isIn (ranges : List (Nat × Nat)) (c : Char) : Bool :=
  0x80 ≤ c.toNat && ranges.any fun range => range.1 ≤ c.toNat && c.toNat ≤ range.2

def startsWord (c : Char) : Bool :=
  isLetter c || c == '_' || isIn startRanges c

def continuesWord (c : Char) : Bool :=
  startsWord c || isDigit c || isIn laterRanges c

def keywords : List String :=
  [ "abstract", "as", "async", "await", "become", "box", "break", "const", "continue", "crate"
  , "do", "dyn", "else", "enum", "extern", "false", "final", "fn", "for", "if", "impl", "in"
  , "let", "loop", "macro", "match", "mod", "move", "mut", "override", "priv", "pub", "ref"
  , "return", "Self", "self", "static", "struct", "super", "trait", "true", "try", "type"
  , "typeof", "unsafe", "unsized", "use", "virtual", "where", "while", "yield", "_" ]

def isName (word : String) : Bool :=
  !keywords.contains word

def isPlace (word : String) : Bool :=
  word == "self" || word == "super" || word == "crate"

def cutWord? : List Char -> Option (List Char × List Char)
  | c :: cs =>
      if startsWord c then some (c :: cs.takeWhile continuesWord, cs.dropWhile continuesWord)
      else none
  | [] => none

def isUnmarkable (word : List Char) : Bool :=
  ["_", "super", "self", "Self", "crate"].contains (String.ofList word)

def cutMarkedWord? : List Char -> Option (List Char × List Char)
  | 'r' :: '#' :: cs =>
      match cutWord? cs with
      | some (word, rest) => if isUnmarkable word then none else some ('r' :: '#' :: word, rest)
      | none => none
  | cs => cutWord? cs

end Source
end Criteria
