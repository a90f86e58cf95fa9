import Criteria.Source.Identifier
import Criteria.Source.Token
import Criteria.Text.Cut

/-!
# Reading literals

Strings with their escapes, raw strings, strings of bytes, strings that a NUL ends, characters
and numbers.  Every reader takes a literal from the beginning of a text and returns what follows
it.  A word that follows a literal at once belongs to it.
-/

namespace Criteria
namespace Source
namespace Literal

/-!
# Escapes
-/

def hexValue? (c : Char) : Option Nat :=
  if isDigit c then some (c.toNat - 48)
  else if 'a' ≤ c ∧ c ≤ 'f' then some (c.toNat - 87)
  else if 'A' ≤ c ∧ c ≤ 'F' then some (c.toNat - 55)
  else none

/-- The character of a code point in hexadecimal digits, at most six of them; underscores may
stand after the first digit. -/
def codePoint? (digits : List Char) : Option Char :=
  match digits.filter (· != '_') with
  | [] => none
  | significant =>
      match significant.foldlM (fun n c => (hexValue? c).map (16 * n + ·)) 0 with
      | some code =>
          if digits.head? != some '_' ∧ significant.length ≤ 6 ∧ code.isValidChar then
            some (Char.ofNat code)
          else
            none
      | none => none

inductive Content where
  | text
  | bytes
  | ended
deriving DecidableEq, Repr

namespace Content

def allows : Content -> Char -> Bool
  | .text, _ => true
  | .bytes, c => c.toNat < 0x80
  | .ended, c => c.toNat != 0

def allowsCode : Content -> Nat -> Bool
  | .text, code => code < 0x80
  | .bytes, _ => true
  | .ended, code => code != 0

def literal : Content -> List Char -> Literal
  | .text, value => .string (String.ofList value)
  | .bytes, _ => .bytes
  | .ended, _ => .ended

end Content

def escape? (content : Content) : List Char -> Option (Char × List Char)
  | 'n' :: cs => some ('\n', cs)
  | 'r' :: cs => some ('\r', cs)
  | 't' :: cs => some ('\t', cs)
  | '\\' :: cs => some ('\\', cs)
  | '\'' :: cs => some ('\'', cs)
  | '"' :: cs => some ('"', cs)
  | '0' :: cs => if content = .ended then none else some (Char.ofNat 0, cs)
  | 'x' :: high :: low :: cs => do
      let code := 16 * (← hexValue? high) + (← hexValue? low)
      if content.allowsCode code then some (Char.ofNat code, cs) else none
  | 'u' :: '\x7b' :: cs =>
      if content = .bytes then
        none
      else do
        let c ← codePoint? (cs.takeWhile (· != '\x7d'))
        match cs.dropWhile (· != '\x7d') with
        | _ :: rest => if content.allows c then some (c, rest) else none
        | [] => none
  | _ => none

def afterMargin? : List Char -> Option (List Char)
  | '\r' :: '\n' :: cs => afterMargin? cs
  | '\r' :: _ => none
  | c :: cs => if c = ' ' ∨ c = '\t' ∨ c = '\n' then afterMargin? cs else some (c :: cs)
  | [] => some []

/-!
# Strings
-/

def cutAtQuote? (quote : Char) : List Char -> Option (List Char × List Char)
  | [] => none
  | '\\' :: c :: cs => (cutAtQuote? quote cs).map fun parts => ('\\' :: c :: parts.1, parts.2)
  | c :: cs =>
      if c = quote then
        some ([], cs)
      else
        (cutAtQuote? quote cs).map fun parts => (c :: parts.1, parts.2)

/-- The value of the inside of a string, in at most `steps` steps.  A line may end in CR and LF,
which count as LF; CR stands nowhere else. -/
def unescape? (content : Content) (steps : Nat) (inside : List Char) : Option (List Char) :=
  match steps, inside with
  | _, [] => some []
  | 0, _ => none
  | steps + 1, '\\' :: '\n' :: cs => do unescape? content steps (← afterMargin? cs)
  | steps + 1, '\\' :: '\r' :: cs => do unescape? content steps (← afterMargin? ('\r' :: cs))
  | steps + 1, '\\' :: cs => do
      let (c, cs) ← escape? content cs
      return c :: (← unescape? content steps cs)
  | steps + 1, '\r' :: '\n' :: cs => (unescape? content steps cs).map ('\n' :: ·)
  | _ + 1, '\r' :: _ => none
  | steps + 1, c :: cs =>
      if content.allows c then (unescape? content steps cs).map (c :: ·) else none

def withEnding (text : List Char) (literal : Literal) (rest : List Char) : Token × List Char :=
  match cutWord? rest with
  | some (ending, rest) => (.literal (String.ofList (text ++ ending)) literal, rest)
  | none => (.literal (String.ofList text) literal, rest)

def string? (letters : List Char) (content : Content) : List Char -> Option (Token × List Char)
  | '"' :: cs => do
      let (inside, rest) ← cutAtQuote? '"' cs
      let value ← unescape? content inside.length inside
      return withEnding (letters ++ '"' :: inside ++ ['"']) (content.literal value) rest
  | _ => none

def endsLines : List Char -> Bool
  | '\r' :: '\n' :: cs => endsLines cs
  | '\r' :: _ => false
  | _ :: cs => endsLines cs
  | [] => true

def rawString? (letters : List Char) (content : Content) (cs : List Char) :
    Option (Token × List Char) := do
  let marks := cs.takeWhile (· == '#')
  match cs.dropWhile (· == '#') with
  | '"' :: cs =>
      let (inside, rest) ← Text.cutFirst? ('"' :: marks) cs
      if marks.length < 256 ∧ endsLines inside ∧ inside.all content.allows then
        let text := letters ++ marks ++ '"' :: inside ++ '"' :: marks
        return withEnding text (content.literal inside) rest
      else
        none
  | _ => none

def character? (letters : List Char) (content : Content) (literal : Literal) :
    List Char -> Option (Token × List Char)
  | '\'' :: cs => do
      let (inside, rest) ←
        match cs with
        | '\\' :: cs => do
            let (_, rest) ← escape? content cs
            pure ('\\' :: cs.take (cs.length - rest.length), rest)
        | c :: cs => if content.allows c then some ([c], cs) else none
        | [] => none
      match rest with
      | '\'' :: rest => return withEnding (letters ++ '\'' :: inside ++ ['\'']) literal rest
      | _ => none
  | _ => none

/-!
# Numbers
-/

def isDigitChar (c : Char) : Bool :=
  isDigit c || c == '_'

/-- An exponent from after its letter: digits with a sign before them, and underscores anywhere.
Without a digit it is none. -/
def exponent? (signed valued : Bool) : List Char -> Option (List Char × List Char)
  | [] => if valued then some ([], []) else none
  | c :: cs =>
      if isDigit c then
        (exponent? signed true cs).map fun parts => (c :: parts.1, parts.2)
      else if c == '_' then
        (exponent? signed valued cs).map fun parts => (c :: parts.1, parts.2)
      else if (c == '+' || c == '-') && !valued then
        if signed then none
        else (exponent? true valued cs).map fun parts => (c :: parts.1, parts.2)
      else if valued then
        some ([], c :: cs)
      else
        none

def power? : List Char -> Option (List Char × List Char)
  | e :: cs =>
      if e = 'e' ∨ e = 'E' then
        (exponent? false false cs).map fun parts => (e :: parts.1, parts.2)
      else
        none
  | [] => none

def ending? (cs : List Char) : Option (List Char × List Char) :=
  let (ending, rest) := (cutWord? cs).getD ([], cs)
  if rest.head?.any continuesWord then none else some (ending, rest)

/-- A number with a point or an exponent.  A point that begins something else is none. -/
def decimal? (cs : List Char) : Option (Token × List Char) := do
  let whole := cs.takeWhile isDigitChar
  let (digits, rest) ←
    match cs.dropWhile isDigitChar with
    | '.' :: places =>
        if places.head?.any fun c => c == '.' || startsWord c then
          none
        else
          let digits := whole ++ '.' :: places.takeWhile isDigitChar
          let rest := places.dropWhile isDigitChar
          match power? rest with
          | some (power, rest) => some (digits ++ power, rest)
          | none => some (digits, rest)
    | rest => (power? rest).map fun parts => (whole ++ parts.1, parts.2)
  let (ending, rest) ← ending? rest
  return (.literal (String.ofList (digits ++ ending)) .decimal, rest)

/-- The value of digits in a base, and what follows them.  Letters that are no digits of the base
end the number; a figure that is none is wrong. -/
def digits? (base value : Nat) (isEmpty : Bool) :
    List Char -> Option (Nat × List Char × List Char)
  | [] => if isEmpty then none else some (value, [], [])
  | c :: cs =>
      if c == '_' then
        if isEmpty && base == 10 then
          none
        else
          (digits? base value isEmpty cs).map fun parts => (parts.1, c :: parts.2.1, parts.2.2)
      else
        match hexValue? c with
        | some digit =>
            if digit < base then
              (digits? base (base * value + digit) false cs).map
                fun parts => (parts.1, c :: parts.2.1, parts.2.2)
            else if digit < 10 ∨ isEmpty then
              none
            else
              some (value, [], c :: cs)
        | none => if isEmpty then none else some (value, [], c :: cs)

def base : List Char -> Nat × List Char × List Char
  | '0' :: 'x' :: cs => (16, ['0', 'x'], cs)
  | '0' :: 'o' :: cs => (8, ['0', 'o'], cs)
  | '0' :: 'b' :: cs => (2, ['0', 'b'], cs)
  | cs => (10, [], cs)

def integer? (cs : List Char) : Option (Token × List Char) := do
  let (base, letters, cs) := base cs
  let (value, digits, rest) ← digits? base 0 true cs
  let (ending, rest) ← ending? rest
  return (.literal (String.ofList (letters ++ digits ++ ending))
    (.integer value (String.ofList ending)), rest)

def number? (cs : List Char) : Option (Token × List Char) :=
  if cs.head?.any isDigit then (decimal? cs).or (integer? cs) else none

/-!
# Literals
-/

def read? : List Char -> Option (Token × List Char)
  | '"' :: cs => string? [] .text ('"' :: cs)
  | 'r' :: cs => rawString? ['r'] .text cs
  | 'b' :: 'r' :: cs => rawString? ['b', 'r'] .bytes cs
  | 'b' :: cs => (string? ['b'] .bytes cs).or (character? ['b'] .bytes .byte cs)
  | 'c' :: 'r' :: cs => rawString? ['c', 'r'] .ended cs
  | 'c' :: cs => string? ['c'] .ended cs
  | '\'' :: cs => character? [] .text .character ('\'' :: cs)
  | cs => number? cs

end Literal
end Source
end Criteria
