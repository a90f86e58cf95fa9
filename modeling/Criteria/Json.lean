/-!
# JSON values

Values of the data format JSON, with numbers as they are written.  A string whose escapes leave
half of a surrogate pair alone has no text.
-/

namespace Criteria

inductive Json where
  | null
  | bool (value : Bool)
  | number (literal : List Char)
  | string (text : Option String)
  | array (items : List Json)
  | object (members : List (Option String × Json))

namespace Json

/-!
# Numbers
-/

def isDigit (c : Char) : Bool :=
  '0' ≤ c && c ≤ '9'

def dropWhole? : List Char -> Option (List Char)
  | '0' :: cs => some cs
  | c :: cs => if isDigit c then some (cs.dropWhile isDigit) else none
  | [] => none

def dropDigits? : List Char -> Option (List Char)
  | c :: cs => if isDigit c then some (cs.dropWhile isDigit) else none
  | [] => none

def dropFraction? : List Char -> Option (List Char)
  | '.' :: cs => dropDigits? cs
  | cs => some cs

def dropExponent? : List Char -> Option (List Char)
  | e :: cs =>
      if e = 'e' ∨ e = 'E' then
        match cs with
        | sign :: digits => if sign = '+' ∨ sign = '-' then dropDigits? digits else dropDigits? cs
        | [] => none
      else
        some (e :: cs)
  | [] => some []

def isNumber (literal : List Char) : Bool :=
  let unsigned := if literal.head? = some '-' then literal.drop 1 else literal
  ((dropWhole? unsigned).bind dropFraction?).bind dropExponent? == some []

/-- The integer that a literal without fraction and exponent writes, if it has 64 bits; the
negative zero is no integer. -/
def integer? (literal : List Char) : Option Int64 :=
  let isNegative := literal.head? = some '-'
  let digits := if isNegative then literal.drop 1 else literal
  if digits.isEmpty || !digits.all isDigit then
    none
  else
    let size : Int := digits.foldl (fun n c => 10 * n + (c.toNat - 48)) (0 : Nat)
    let n := if isNegative then -size else size
    if isNegative && n == 0 then
      none
    else if Int64.minValue.toInt ≤ n ∧ n ≤ Int64.maxValue.toInt then
      some (Int64.ofInt n)
    else
      none

/-!
# Written strings
-/

def hexQuad (n : Nat) : List Char :=
  let digits := Nat.toDigits 16 n
  List.replicate (4 - digits.length) '0' ++ digits

def escapeChar (c : Char) : List Char :=
  if c = '"' then ['\\', '"']
  else if c = '\\' then ['\\', '\\']
  else if c.toNat = 8 then ['\\', 'b']
  else if c.toNat = 9 then ['\\', 't']
  else if c.toNat = 10 then ['\\', 'n']
  else if c.toNat = 12 then ['\\', 'f']
  else if c.toNat = 13 then ['\\', 'r']
  else if c.toNat < 32 then '\\' :: 'u' :: hexQuad c.toNat
  else [c]

def stringText (s : String) : String :=
  String.ofList ('"' :: (s.toList.flatMap escapeChar ++ ['"']))

end Json
end Criteria
