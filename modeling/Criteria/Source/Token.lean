import Criteria.Text.Quoted

/-!
# Tokens

Source text as a tree: words, lifetimes, literals and marks, and groups of tokens between
delimiters.  A mark is one symbol; a mark that is joined to the next one forms one sign with it,
`::` for instance.
-/

namespace Criteria
namespace Source

inductive Delimiter where
  | round
  | square
  | curly
deriving DecidableEq, Repr

inductive Literal where
  | string (value : String)
  | integer (value : Nat) (ending : String)
  | decimal
  | character
  | byte
  | bytes
  | ended
  | other
deriving DecidableEq, Repr

inductive Token where
  | word (text : String)
  | lifetime (text : String)
  | literal (text : String) (literal : Literal)
  | mark (symbol : Char) (joined : Bool)
  | group (delimiter : Delimiter) (inner : List Token)

/-!
# Text
-/

namespace Delimiter

/-- The text of a group.  Only curly brackets keep a blank inside. -/
def wrap (delimiter : Delimiter) (inner : String) : String :=
  match delimiter with
  | .round => "(" ++ inner ++ ")"
  | .square => "[" ++ inner ++ "]"
  | .curly =>
      if inner == "" then
        "\x7b \x7d"
      else
        "\x7b " ++ inner ++ " \x7d"

end Delimiter

namespace Token

def separator : Token -> String
  | .mark _ true => ""
  | _ => " "

mutual

def text : Token -> String
  | .word text => text
  | .lifetime text => text
  | .literal text _ => text
  | .mark symbol _ => String.singleton symbol
  | .group delimiter inner => delimiter.wrap (listText inner)

def listText : List Token -> String
  | [] => ""
  | [token] => token.text
  | token :: next :: rest => token.text ++ token.separator ++ listText (next :: rest)

end

/-!
# Making tokens
-/

def sign : List Char -> List Token
  | [] => []
  | [c] => [.mark c false]
  | c :: cs => .mark c true :: sign cs

def colons : List Token :=
  sign [':', ':']

def comma : Token :=
  .mark ',' false

def parens (inner : List Token) : Token :=
  .group .round inner

def brackets (inner : List Token) : Token :=
  .group .square inner

def braces (inner : List Token) : Token :=
  .group .curly inner

def separated (items : List (List Token)) : List Token :=
  [comma].intercalate items

/-!
# Literals
-/

/-- The escapes of a text in a literal.  NUL is `\0`, unless an octal digit follows. -/
def escapeChars : List Char -> List Char
  | [] => []
  | c :: cs =>
      let escape :=
        if c.toNat = 0 ∧ (cs.head?.any fun next => '0' ≤ next && next ≤ '7') then
          ['\\', 'x', '0', '0']
        else
          Text.quoteChar c
      escape ++ escapeChars cs

def ofText (value : String) : Token :=
  .literal (String.ofList ('"' :: (escapeChars value.toList ++ ['"']))) (.string value)

def ofNumber (number : Nat) : Token :=
  .literal (toString number) (.integer number "")

def ofIndex (index : Nat) : Token :=
  .literal (toString index ++ "usize") (.integer index "usize")

/-!
# Counting
-/

mutual

def count : Token -> Nat
  | .group _ inner => listCount inner + 1
  | _ => 1

def listCount : List Token -> Nat
  | [] => 0
  | token :: rest => token.count + listCount rest

end

end Token
end Source
end Criteria
