import Criteria.Fragment
import Criteria.Operator.Pattern

/-!
# Comparison operators

The operators that a field can compare its column with, their signs, and the condition that each
of them makes of a column and a value.  A value that does not fit the operator makes none: the
null test takes a truth value, and the pattern operators take a text.
-/

namespace Criteria

inductive Operator where
  | eq
  | not
  | ne
  | gt
  | ge
  | lt
  | le
  | null
  | isIn
  | notIn
  | like
  | notLike
  | contain
  | notContain
  | start
  | notStart
  | finish
  | notFinish
  | rx
deriving DecidableEq, Repr

namespace Operator

def all : List Operator :=
  [.eq, .not, .ne, .gt, .ge, .lt, .le, .null, .isIn, .notIn, .like, .notLike, .contain,
    .notContain, .start, .notStart, .finish, .notFinish, .rx]

def token : Operator -> String
  | .eq => "Eq"
  | .not => "Not"
  | .ne => "Ne"
  | .gt => "Gt"
  | .ge => "Ge"
  | .lt => "Lt"
  | .le => "Le"
  | .null => "Null"
  | .isIn => "In"
  | .notIn => "NotIn"
  | .like => "Like"
  | .notLike => "NotLike"
  | .contain => "Contain"
  | .notContain => "NotContain"
  | .start => "Start"
  | .notStart => "NotStart"
  | .finish => "End"
  | .notFinish => "NotEnd"
  | .rx => "Rx"

def ofToken? (token : String) : Option Operator :=
  all.find? fun operator => operator.token == token

theorem mem_all
    (operator : Operator) :
    operator ∈ all := by
  cases operator <;> decide

theorem ofToken?_token
    (operator : Operator) :
    ofToken? operator.token = some operator := by
  cases operator <;> decide

def sign : Operator -> String
  | .eq => "="
  | .not => "!="
  | .ne => "<>"
  | .gt => ">"
  | .ge => ">="
  | .lt => "<"
  | .le => "<="
  | .null => "IS NULL"
  | .isIn => "IN"
  | .notIn => "NOT IN"
  | .like | .contain | .start | .finish => "LIKE"
  | .notLike | .notContain | .notStart | .notFinish => "NOT LIKE"
  | .rx => "REGEXP"

def takesList : Operator -> Bool
  | .isIn | .notIn => true
  | _ => false

def position? : Operator -> Option Pattern.Position
  | .like | .notLike | .contain | .notContain => some .anywhere
  | .start | .notStart => some .start
  | .finish | .notFinish => some .finish
  | _ => none

/-!
# Operands
-/

def patternOperand (position : Pattern.Position) (text : String) : Fragment :=
  { sql := if Pattern.needsEscape text.toList then "? ESCAPE '\\'" else "?"
    args := [.text (String.ofList (Pattern.ofText position text.toList))] }

def listOperand : List Value -> Fragment
  | [] => .text "(null)"
  | value :: values => .boundGroup (value :: values)

/-- What stands after the sign, with its arguments; for the null test, what stands after the
column. -/
def operand? (operator : Operator) (value : Value) : Option Fragment :=
  match operator with
  | .null =>
      value.bool?.map fun isNull => .text (if isNull then " IS NULL" else " IS NOT NULL")
  | .isIn | .notIn => some (listOperand [value])
  | _ =>
      match operator.position? with
      | some position => value.text?.map (patternOperand position)
      | none => some (.bound value)

theorem operand?_cases
    {operator : Operator} {value : Value} {operand : Fragment}
    (h : operator.operand? value = some operand) :
    (operator = .null ∧ (operand = .text " IS NULL" ∨ operand = .text " IS NOT NULL")) ∨
      (operator ≠ .null ∧
        (operand = listOperand [value] ∨ operand = .bound value ∨
          ∃ position text, operand = patternOperand position text)) := by
  unfold operand? at h
  split at h
  next =>
    rcases Option.map_eq_some_iff.mp h with ⟨isNull, _, heq⟩
    cases isNull with
    | true => exact Or.inl ⟨rfl, Or.inl heq.symm⟩
    | false => exact Or.inl ⟨rfl, Or.inr heq.symm⟩
  next =>
    cases h
    exact Or.inr ⟨by decide, Or.inl rfl⟩
  next =>
    cases h
    exact Or.inr ⟨by decide, Or.inl rfl⟩
  next hnull _ _ =>
    split at h
    next position _ =>
      rcases Option.map_eq_some_iff.mp h with ⟨text, _, heq⟩
      exact Or.inr ⟨hnull, Or.inr (Or.inr ⟨position, text, heq.symm⟩)⟩
    next =>
      cases h
      exact Or.inr ⟨hnull, Or.inr (Or.inl rfl)⟩

/-!
# Conditions
-/

def attach (operator : Operator) (column : String) (operand : Fragment) : Fragment :=
  match operator with
  | .null => .text column ++ operand
  | _ => .text (column ++ " " ++ operator.sign ++ " ") ++ operand

def condition? (operator : Operator) (column : String) (value : Value) : Option Fragment :=
  (operator.operand? value).map (operator.attach column)

/-- The condition on a list of values; an operator that takes one value accepts a list of one. -/
def listCondition? (operator : Operator) (column : String) (values : List Value) :
    Option Fragment :=
  if operator.takesList then
    some (operator.attach column (listOperand values))
  else
    match values with
    | [value] => operator.condition? column value
    | _ => none

end Operator
end Criteria
