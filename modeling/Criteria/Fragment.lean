import Criteria.Text.Cut
import Criteria.Value

/-!
# Fragments and clauses

A fragment is a piece of statement text together with the arguments of its placeholders, left to
right.  Fragments are appended; clauses are fragments that are still to be joined by a
separator.
-/

namespace Criteria

open Text

structure Fragment where
  sql : String := ""
  args : List Value := []
deriving DecidableEq

namespace Fragment

def empty : Fragment :=
  {}

def text (sql : String) : Fragment :=
  ⟨sql, []⟩

def append (f g : Fragment) : Fragment :=
  ⟨f.sql ++ g.sql, f.args ++ g.args⟩

instance : Append Fragment := ⟨append⟩

def isEmpty (f : Fragment) : Bool :=
  f.sql == ""

/-!
# Placeholders
-/

def bound (value : Value) : Fragment :=
  ⟨"?", [value]⟩

def markGroup (count : Nat) : String :=
  "(" ++ joinWith ", " (List.replicate count "?") ++ ")"

def boundGroup (values : List Value) : Fragment :=
  ⟨markGroup values.length, values⟩

/-!
# The WHERE keyword
-/

def whereText (f : Fragment) : String :=
  if f.isEmpty then "" else " WHERE " ++ f.sql

def asWhere (f : Fragment) : Fragment :=
  if f.isEmpty then empty else text " WHERE " ++ f

/-!
# Small laws
-/

@[simp] theorem sql_append
    (f g : Fragment) :
    (f ++ g).sql = f.sql ++ g.sql :=
  rfl

@[simp] theorem args_append
    (f g : Fragment) :
    (f ++ g).args = f.args ++ g.args :=
  rfl

theorem text_append_text
    (s t : String) :
    text s ++ text t = text (s ++ t) :=
  rfl

theorem append_empty
    (f : Fragment) :
    f ++ empty = f := by
  show Fragment.mk (f.sql ++ "") (f.args ++ []) = f
  rw [String.append_empty, List.append_nil]

theorem append_assoc
    (f g h : Fragment) :
    f ++ g ++ h = f ++ (g ++ h) := by
  show Fragment.mk _ _ = Fragment.mk _ _
  simp [String.append_assoc]

end Fragment

/-!
# Clauses
-/

structure Clauses where
  parts : List Fragment := []
deriving DecidableEq

namespace Clauses

def empty : Clauses :=
  {}

instance : Append Clauses := ⟨fun c d => ⟨c.parts ++ d.parts⟩⟩

def single (f : Fragment) : Clauses :=
  if f.isEmpty then empty else ⟨[f]⟩

def push (clauses : Clauses) (f : Fragment) : Clauses :=
  clauses ++ single f

def size (clauses : Clauses) : Nat :=
  clauses.parts.length

def isEmpty (clauses : Clauses) : Bool :=
  clauses.parts.isEmpty

def join (clauses : Clauses) (separator : String) : Fragment :=
  ⟨joinWith separator (clauses.parts.map Fragment.sql), clauses.parts.flatMap Fragment.args⟩

def group (clauses : Clauses) (separator : String) : Fragment :=
  if 1 < clauses.size then
    Fragment.text "(" ++ clauses.join separator ++ Fragment.text ")"
  else
    clauses.join separator

@[simp] theorem parts_empty :
    empty.parts = [] :=
  rfl

@[simp] theorem parts_append
    (c d : Clauses) :
    (c ++ d).parts = c.parts ++ d.parts :=
  rfl

end Clauses
end Criteria
