import Criteria.Json

/-!
# Reading JSON

A text is read character by character by a machine with a stack of the arrays and objects that
are still open.  The format is taken strictly: no blank characters but the four of the format, no
comma before a closing bracket, nothing after the value.
-/

namespace Criteria
namespace Json

/-!
# Machine
-/

inductive Piece where
  | char (c : Char)
  | unit (n : Nat)

/-- What is open around the current place, with its elements so far, the last one first.  An
object that waits for a value has the value's key. -/
inductive Frame where
  | array (items : List Json)
  | object (members : List (Option String × Json)) (key : Option (Option String))

inductive Mode where
  | value
  | valueOrClose
  | keyOrClose
  | key
  | colon
  | after
  | finished (value : Json)
  | word (rest : List Char) (value : Json)
  | number (reversed : List Char)
  | pieces (reversed : List Piece)
  | escape (reversed : List Piece)
  | hex (reversed : List Piece) (count value : Nat)

structure Machine where
  mode : Mode
  stack : List Frame

namespace Machine

def start : Machine :=
  ⟨.value, []⟩

def complete (value : Json) : List Frame -> Option Machine
  | [] => some ⟨.finished value, []⟩
  | .array items :: stack => some ⟨.after, .array (value :: items) :: stack⟩
  | .object members (some key) :: stack =>
      some ⟨.after, .object ((key, value) :: members) none :: stack⟩
  | .object _ none :: _ => none

def isBlank (c : Char) : Bool :=
  c == ' ' || c == '\t' || c == '\n' || c == '\r'

def isNumberChar (c : Char) : Bool :=
  isDigit c || c == '-' || c == '+' || c == '.' || c == 'e' || c == 'E'

/-!
# Strings
-/

def textOf? : List Piece -> Option (List Char)
  | [] => some []
  | .char c :: pieces => (textOf? pieces).map (c :: ·)
  | .unit high :: pieces =>
      if high < 0xD800 ∨ 0xE000 ≤ high then
        (textOf? pieces).map (Char.ofNat high :: ·)
      else
        match pieces with
        | .unit low :: pieces =>
            if high < 0xDC00 ∧ 0xDC00 ≤ low ∧ low < 0xE000 then
              let code := 0x10000 + (high - 0xD800) * 0x400 + (low - 0xDC00)
              (textOf? pieces).map (Char.ofNat code :: ·)
            else
              none
        | _ => none

/-- A string is complete: it is a key where an object waits for one, and a value elsewhere. -/
def completeString (reversed : List Piece) (stack : List Frame) : Option Machine :=
  let text := (textOf? reversed.reverse).map String.ofList
  match stack with
  | .object members none :: stack => some ⟨.colon, .object members (some text) :: stack⟩
  | stack => complete (.string text) stack

def escaped? (c : Char) : Option Char :=
  if c = '"' ∨ c = '\\' ∨ c = '/' then some c
  else if c = 'b' then some (Char.ofNat 8)
  else if c = 'f' then some (Char.ofNat 12)
  else if c = 'n' then some '\n'
  else if c = 'r' then some '\r'
  else if c = 't' then some '\t'
  else none

def hexValue? (c : Char) : Option Nat :=
  if isDigit c then some (c.toNat - 48)
  else if 'a' ≤ c ∧ c ≤ 'f' then some (c.toNat - 87)
  else if 'A' ≤ c ∧ c ≤ 'F' then some (c.toNat - 55)
  else none

/-!
# Steps
-/

def openValue (c : Char) (stack : List Frame) : Option Machine :=
  if c = '{' then some ⟨.keyOrClose, .object [] none :: stack⟩
  else if c = '[' then some ⟨.valueOrClose, .array [] :: stack⟩
  else if c = '"' then some ⟨.pieces [], stack⟩
  else if c = 'n' then some ⟨.word ['u', 'l', 'l'] .null, stack⟩
  else if c = 't' then some ⟨.word ['r', 'u', 'e'] (.bool true), stack⟩
  else if c = 'f' then some ⟨.word ['a', 'l', 's', 'e'] (.bool false), stack⟩
  else if isDigit c || c == '-' then some ⟨.number [c], stack⟩
  else none

def close (c : Char) (stack : List Frame) : Option Machine :=
  match stack with
  | .array items :: stack => if c = ']' then complete (.array items.reverse) stack else none
  | .object members none :: stack =>
      if c = '}' then complete (.object members.reverse) stack else none
  | _ => none

def proceed (c : Char) (stack : List Frame) : Option Machine :=
  if c = ',' then
    match stack with
    | .array _ :: _ => some ⟨.value, stack⟩
    | .object _ _ :: _ => some ⟨.key, stack⟩
    | [] => none
  else
    close c stack

def endNumber (reversed : List Char) (stack : List Frame) : Option Machine :=
  if isNumber reversed.reverse then complete (.number reversed.reverse) stack else none

def stepOutside (machine : Machine) (c : Char) : Option Machine :=
  let stack := machine.stack
  match machine.mode with
  | .value => if isBlank c then some machine else openValue c stack
  | .valueOrClose =>
      if isBlank c then some machine
      else if c = ']' then close c stack
      else openValue c stack
  | .keyOrClose =>
      if isBlank c then some machine
      else if c = '"' then some ⟨.pieces [], stack⟩
      else close c stack
  | .key =>
      if isBlank c then some machine
      else if c = '"' then some ⟨.pieces [], stack⟩
      else none
  | .colon =>
      if isBlank c then some machine
      else if c = ':' then some ⟨.value, stack⟩
      else none
  | .after => if isBlank c then some machine else proceed c stack
  | .finished _ => if isBlank c then some machine else none
  | .word rest value =>
      match rest with
      | [last] => if c = last then complete value stack else none
      | next :: rest => if c = next then some ⟨.word rest value, stack⟩ else none
      | [] => none
  | .pieces reversed =>
      if c = '"' then completeString reversed stack
      else if c = '\\' then some ⟨.escape reversed, stack⟩
      else if c.toNat < 32 then none
      else some ⟨.pieces (.char c :: reversed), stack⟩
  | .escape reversed =>
      if c = 'u' then some ⟨.hex reversed 0 0, stack⟩
      else (escaped? c).map fun c => ⟨.pieces (.char c :: reversed), stack⟩
  | .hex reversed count value =>
      (hexValue? c).map fun digit =>
        let value := 16 * value + digit
        if count = 3 then ⟨.pieces (.unit value :: reversed), stack⟩
        else ⟨.hex reversed (count + 1) value, stack⟩
  | .number _ => none

/-- A number ends before the first character that cannot belong to one. -/
def step (machine : Machine) (c : Char) : Option Machine :=
  match machine.mode with
  | .number reversed =>
      if isNumberChar c then
        some { machine with mode := .number (c :: reversed) }
      else
        (endNumber reversed machine.stack).bind fun machine => machine.stepOutside c
  | _ => machine.stepOutside c

def result? (machine : Machine) : Option Json :=
  match machine.mode, machine.stack with
  | .finished value, _ => some value
  | .number reversed, [] =>
      if isNumber reversed.reverse then some (.number reversed.reverse) else none
  | _, _ => none

end Machine

def read? (text : String) : Option Json :=
  (text.toList.foldlM Machine.step Machine.start).bind Machine.result?

end Json
end Criteria
