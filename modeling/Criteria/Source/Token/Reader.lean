import Criteria.Source.Token.Literal
import Criteria.Text.Blank

/-!
# Reading tokens

Source text is cut into tokens; blanks and comments separate them.  A comment that documents
what follows it, or what it stands in, counts as an attribute.  Every delimiter that opens is
closed by its partner.
-/

namespace Criteria
namespace Source
namespace Token

/-!
# Blanks and comments
-/

/-- The inside of a comment that has `depth` more comments open around it, and what follows. -/
def cutComment? : Nat -> List Char -> Option (List Char × List Char)
  | depth, '/' :: '*' :: cs =>
      (cutComment? (depth + 1) cs).map fun parts => ('/' :: '*' :: parts.1, parts.2)
  | 0, '*' :: '/' :: cs => some ([], cs)
  | depth + 1, '*' :: '/' :: cs =>
      (cutComment? depth cs).map fun parts => ('*' :: '/' :: parts.1, parts.2)
  | depth, c :: cs => (cutComment? depth cs).map fun parts => (c :: parts.1, parts.2)
  | _, [] => none

def cutLine : List Char -> List Char × List Char
  | '\r' :: '\n' :: cs => ([], '\n' :: cs)
  | '\n' :: cs => ([], '\n' :: cs)
  | c :: cs => (c :: (cutLine cs).1, (cutLine cs).2)
  | [] => ([], [])

def beginsComment : List Char -> Bool
  | '/' :: '/' :: _ => true
  | '/' :: '*' :: _ => true
  | _ => false

def documentation? (isInner : Bool) (comment : List Char) : Option (List Token) :=
  if Literal.endsLines comment then
    some
      (.mark '#' false :: ((if isInner then [.mark '!' false] else []) ++
        [brackets [.word "doc", .mark '=' false, ofText (String.ofList comment)]]))
  else
    none

/-- The tokens of the comment at the beginning of a text, and what follows it.  Four strokes, and
three stars, document nothing. -/
def comment? : List Char -> Option (List Token × List Char)
  | '/' :: '/' :: '!' :: cs =>
      let (comment, rest) := cutLine cs
      (documentation? true comment).map fun tokens => (tokens, rest)
  | '/' :: '/' :: '/' :: cs =>
      let (comment, rest) := cutLine cs
      if cs.head? == some '/' then some ([], rest)
      else (documentation? false comment).map fun tokens => (tokens, rest)
  | '/' :: '/' :: cs => some ([], (cutLine cs).2)
  | '/' :: '*' :: cs => do
      let (comment, rest) ← cutComment? 0 cs
      match cs with
      | '!' :: _ => return (← documentation? true (comment.drop 1), rest)
      | '*' :: '*' :: _ => return ([], rest)
      | '*' :: '/' :: _ => return ([], rest)
      | '*' :: _ => return (← documentation? false (comment.drop 1), rest)
      | _ => return ([], rest)
  | _ => none

def isBlank (c : Char) : Bool :=
  Text.isBlank c || c.toNat == 0x200E || c.toNat == 0x200F

/-!
# Single tokens
-/

def isMark (c : Char) : Bool :=
  "~!@#$%^&*-=+|;:,<.>/?'".toList.contains c

def mark? : List Char -> Option (Token × List Char)
  | c :: cs =>
      if isMark c && c != '\'' && !beginsComment (c :: cs) then
        some (.mark c (cs.head?.any isMark && !beginsComment cs), cs)
      else
        none
  | [] => none

def announces : List Char -> Bool
  | 'r' :: '"' :: _ => true
  | 'r' :: '#' :: '"' :: _ => true
  | 'r' :: '#' :: '#' :: _ => true
  | 'b' :: '"' :: _ => true
  | 'b' :: '\'' :: _ => true
  | 'c' :: '"' :: _ => true
  | 'b' :: 'r' :: '"' :: _ => true
  | 'b' :: 'r' :: '#' :: _ => true
  | 'c' :: 'r' :: '"' :: _ => true
  | 'c' :: 'r' :: '#' :: _ => true
  | _ => false

def word? (cs : List Char) : Option (Token × List Char) :=
  if announces cs then none
  else (cutMarkedWord? cs).map fun parts => (.word (String.ofList parts.1), parts.2)

/-- An apostrophe with a word that no other apostrophe closes.  The apostrophe stands alone if a
literal follows it. -/
def lifetime? : List Char -> Option (Token × List Char)
  | '\'' :: cs => do
      let (letters, rest) ← cutMarkedWord? cs
      let isMarked := letters.take 2 == ['r', '#']
      if rest.head? == some '\'' || (rest.head? == some '#' && !isMarked) then
        none
      else if (Literal.read? cs).isSome then
        some (.mark '\'' true, cs)
      else if announces cs then
        none
      else
        some (.lifetime (String.ofList ('\'' :: letters)), rest)
  | _ => none

def faulty : List Char :=
  "(/*ERROR*/)".toList

def faulty? (cs : List Char) : Option (Token × List Char) :=
  if faulty.isPrefixOf cs then
    some (.literal (String.ofList faulty) .other, cs.drop faulty.length)
  else
    none

def single? (cs : List Char) : Option (Token × List Char) :=
  (Literal.read? cs).or ((mark? cs).or ((lifetime? cs).or (word? cs)))

/-!
# Trees
-/

structure Open where
  delimiter : Delimiter
  before : List Token

def opening? (c : Char) : Option Delimiter :=
  if c = '(' then some .round
  else if c = '[' then some .square
  else if c = '\x7b' then some .curly
  else none

def closing? (c : Char) : Option Delimiter :=
  if c = ')' then some .round
  else if c = ']' then some .square
  else if c = '\x7d' then some .curly
  else none

/-- What has been read: the open groups, the innermost first, and the tokens of the innermost one,
the last one first. -/
structure Reading where
  around : List Open
  tokens : List Token

namespace Reading

def push (reading : Reading) (tokens : List Token) : Reading :=
  { reading with tokens := tokens.reverse ++ reading.tokens }

def enter (reading : Reading) (delimiter : Delimiter) : Reading :=
  ⟨⟨delimiter, reading.tokens⟩ :: reading.around, []⟩

def leave? (reading : Reading) (delimiter : Delimiter) : Option Reading :=
  match reading.around with
  | [] => none
  | inner :: around =>
      if inner.delimiter = delimiter then
        some ⟨around, .group delimiter reading.tokens.reverse :: inner.before⟩
      else
        none

def result? (reading : Reading) : Option (List Token) :=
  if reading.around.isEmpty then some reading.tokens.reverse else none

end Reading

def step? (reading : Reading) : List Char -> Option (Reading × List Char)
  | [] => none
  | c :: cs =>
      if beginsComment (c :: cs) then
        (comment? (c :: cs)).map fun found => (reading.push found.1, found.2)
      else if isBlank c then
        some (reading, cs)
      else
        match faulty? (c :: cs), opening? c, closing? c with
        | some found, _, _ => some (reading.push [found.1], found.2)
        | none, some delimiter, _ => some (reading.enter delimiter, cs)
        | none, none, some delimiter =>
            (reading.leave? delimiter).map fun reading => (reading, cs)
        | none, none, none =>
            (single? (c :: cs)).map fun found => (reading.push [found.1], found.2)

def readFrom? (reading : Reading) (cs : List Char) : Option (List Token) :=
  if cs.isEmpty then
    reading.result?
  else
    match step? reading cs with
    | none => none
    | some (reading, rest) =>
        if _h : rest.length < cs.length then readFrom? reading rest else none
termination_by cs.length

def read? (text : String) : Option (List Token) :=
  match text.toList with
  | '\uFEFF' :: cs => readFrom? ⟨[], []⟩ cs
  | cs => readFrom? ⟨[], []⟩ cs

end Token
end Source
end Criteria
