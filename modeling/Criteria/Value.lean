import Criteria.Calendar
import Criteria.Decimal.Shortest

/-!
# Values

The arguments that a statement is bound to, one for each `?` of its text, and the conversion of
plain data into them.
-/

namespace Criteria

/-!
# Universally unique identifiers
-/

structure Uuid where
  value : BitVec 128
deriving DecidableEq, Repr

namespace Uuid

def text (u : Uuid) : String :=
  let digits := Nat.toDigits 16 u.value.toNat
  let all := List.replicate (32 - digits.length) '0' ++ digits
  let group := fun start length => String.ofList ((all.drop start).take length)
  group 0 8 ++ "-" ++ group 8 4 ++ "-" ++ group 12 4 ++ "-" ++ group 16 4 ++ "-" ++ group 20 12

end Uuid

/-!
# Values
-/

/-- A positional argument.  `null` also marks a column that is not set.  Timestamps are kept in
the time of Greenwich. -/
inductive Value where
  | null
  | bool (value : Bool)
  | int (value : Int64)
  | uint (value : UInt64)
  | float (value : Decimal.Binary64)
  | text (value : String)
  | bytes (value : List UInt8)
  | uuid (value : Uuid)
  | timestamp (value : Calendar.Moment)
  | datetime (value : Calendar.Moment)
  | date (value : Calendar.Date)
  | time (value : Calendar.Clock)
deriving DecidableEq

namespace Value

def isNull : Value -> Bool
  | .null => true
  | _ => false

theorem isNull_iff
    {value : Value} :
    value.isNull = true ↔ value = .null := by
  cases value <;> simp [isNull]

def text? : Value -> Option String
  | .text s => some s
  | _ => none

def bool? : Value -> Option Bool
  | .bool b => some b
  | _ => none

def quoted (s : String) : String :=
  "'" ++ s ++ "'"

def display : Value -> String
  | .null => "NULL"
  | .bool b => if b then "true" else "false"
  | .int i => toString i.toInt
  | .uint u => toString u.toNat
  | .float x => x.text
  | .text s => quoted s
  | .bytes b => "<" ++ toString b.length ++ " bytes>"
  | .uuid u => quoted u.text
  | .timestamp m => quoted m.greenwichText
  | .datetime m => quoted m.text
  | .date d => quoted d.text
  | .time c => quoted c.text

end Value

/-!
# Data that can be bound
-/

class Bindable (α : Type) where
  argument : α -> Value

export Bindable (argument)

instance : Bindable Value := ⟨id⟩
instance : Bindable Bool := ⟨.bool⟩
instance : Bindable Int8 := ⟨fun i => .int i.toInt64⟩
instance : Bindable Int16 := ⟨fun i => .int i.toInt64⟩
instance : Bindable Int32 := ⟨fun i => .int i.toInt64⟩
instance : Bindable Int64 := ⟨.int⟩
instance : Bindable UInt8 := ⟨fun u => .uint u.toUInt64⟩
instance : Bindable UInt16 := ⟨fun u => .uint u.toUInt64⟩
instance : Bindable UInt32 := ⟨fun u => .uint u.toUInt64⟩
instance : Bindable UInt64 := ⟨.uint⟩
instance : Bindable Decimal.Binary32 := ⟨fun x => .float x.widen⟩
instance : Bindable Decimal.Binary64 := ⟨.float⟩
instance : Bindable String := ⟨.text⟩
instance : Bindable Char := ⟨fun c => .text c.toString⟩
instance : Bindable (List UInt8) := ⟨.bytes⟩
instance : Bindable Uuid := ⟨.uuid⟩

instance {α : Type} [Bindable α] : Bindable (Option α) :=
  ⟨fun x => x.elim .null argument⟩

end Criteria
