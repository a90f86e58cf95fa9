import Criteria.Fault
import Criteria.Naming
import Criteria.Text.Blank

/-!
# Subquery annotations

An annotation `select:<expression>,from:<name>` names what a subquery projects and where it looks.
The expression may hold commas and even separators; the last separator ends it.
-/

namespace Criteria

open Text

structure Subquery where
  select : String
  source : String
deriving DecidableEq, Repr

namespace Subquery

def opening : List Char :=
  "select:".toList

def separator : List Char :=
  ",from:".toList

def parts? (raw : List Char) : Option (List Char × List Char) :=
  match dropStart? opening (trimChars raw) with
  | none => none
  | some body =>
      match cutLast? separator body with
      | none => none
      | some cut =>
          let select := trimChars cut.1
          let source := trimChars cut.2
          if select.isEmpty || source.isEmpty then none else some (select, source)

def parse (raw : String) : Except Fault Subquery :=
  match parts? raw.toList with
  | some parts => .ok ⟨String.ofList parts.1, String.ofList parts.2⟩
  | none => .error (.subquery raw)

/-- A source that begins with a capital is an entity type; any other is a table as it stands. -/
def table (subquery : Subquery) (naming : Naming) : String :=
  match subquery.source.toList.head? with
  | some c => if c.isUpper then naming.entityTable subquery.source else subquery.source
  | none => subquery.source

end Subquery
end Criteria
