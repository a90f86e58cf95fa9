import Criteria.Source.Token
import Criteria.Text.Cut

/-!
# Pieces of code

Tokens of generated code, written with single blanks between words and signs.
-/

namespace Criteria
namespace Derive

open Source

def pieceTokens (piece : List Char) : List Token :=
  match piece with
  | [] => []
  | '\'' :: _ => [.lifetime (String.ofList piece)]
  | c :: _ =>
      if c.isAlphanum || c == '_' then [.word (String.ofList piece)] else Token.sign piece

def code (text : String) : List Token :=
  (Text.split ' ' text.toList).flatMap pieceTokens

def corePath (names : String) : List Token :=
  code (":: query_core :: " ++ names)

def optionCode (value : Option (List Token)) : List Token :=
  match value with
  | some inner => code ":: core :: option :: Option :: Some" ++ [.parens inner]
  | none => code ":: core :: option :: Option :: None"

def optionText (value : Option String) : List Token :=
  optionCode (value.map fun text => [.ofText text])

def method (name : String) (arguments result body : List Token) : List Token :=
  code "fn" ++ .word name :: .parens arguments :: (result ++ [.braces body])

def fullName (last : List Token) : List Token :=
  code "concat !" ++
    [.parens (Token.separated
      [code "module_path !" ++ [.parens []], [.ofText "::"], last])]

def ownField (name : String) : List Token :=
  code "self ." ++ [.word name]

end Derive
end Criteria
