import Criteria.Fragment

/-!
# Selections and their meaning

The part of the query language that paths are written in: a selection of one column of a table,
the intersection of two selections, and the membership test.  Each has a text and a meaning over
a database.  Truth has three values, as null makes a test unknown; a selection keeps the records
for which its condition is true.
-/

namespace Criteria

abbrev Record (κ : Type) :=
  String -> Option κ

structure Database (κ : Type) where
  records : String -> List (Record κ)

abbrev Truth :=
  Option Bool

/-- A condition whose inside is not looked at: its text, and its truth for each record. -/
structure RowFilter (κ : Type) where
  text : Fragment
  truth : Record κ -> Truth

mutual

inductive Selection (κ : Type) where
  | all (column table : String)
  | matching (column table : String) (condition : Condition κ)
  | intersect (left right : Selection κ)

inductive Condition (κ : Type) where
  | isIn (column : String) (selection : Selection κ)
  | given (filter : RowFilter κ)

end

variable {κ : Type}

/-!
# Texts
-/

mutual

def Selection.fragment : Selection κ -> Fragment
  | .all column table => .text ("SELECT " ++ column ++ " FROM " ++ table)
  | .matching column table condition =>
      .text ("SELECT " ++ column ++ " FROM " ++ table ++ " WHERE ") ++ condition.fragment
  | .intersect left right => left.fragment ++ .text " INTERSECT " ++ right.fragment

def Condition.fragment : Condition κ -> Fragment
  | .isIn column selection => .text (column ++ " IN (") ++ selection.fragment ++ .text ")"
  | .given filter => filter.text

end

/-!
# Meaning
-/

section

variable [DecidableEq κ]

/-- Null is in no list, and in doubt of every list that is not empty; a value that is not found is
in doubt of a list with a null. -/
def Truth.isIn (value : Option κ) (values : List (Option κ)) : Truth :=
  if values = [] then
    some false
  else if value = none then
    none
  else if value ∈ values then
    some true
  else if none ∈ values then
    none
  else
    some false

mutual

def Selection.values (db : Database κ) : Selection κ -> List (Option κ)
  | .all column table => (db.records table).map fun record => record column
  | .matching column table condition =>
      ((db.records table).filter fun record => condition.truth db record = some true).map
        fun record => record column
  | .intersect left right =>
      (left.values db).filter fun value => value ∈ right.values db

def Condition.truth (db : Database κ) (record : Record κ) : Condition κ -> Truth
  | .isIn column selection => Truth.isIn (record column) (selection.values db)
  | .given filter => filter.truth record

end

/-!
# Membership
-/

theorem Truth.isIn_eq_true_iff
    {value : Option κ} {values : List (Option κ)} :
    isIn value values = some true ↔ ∃ x, value = some x ∧ some x ∈ values := by
  unfold isIn
  cases value with
  | none =>
      by_cases hempty : values = []
      · simp [hempty]
      · simp [hempty]
  | some x =>
      by_cases hempty : values = []
      · simp [hempty]
      · by_cases hmem : some x ∈ values
        · simp [hempty, hmem]
        · by_cases hnull : none ∈ values
          · simp [hempty, hmem, hnull]
          · simp [hempty, hmem, hnull]

theorem Condition.isIn_eq_true_iff
    {db : Database κ} {record : Record κ} {column : String} {selection : Selection κ} :
    (Condition.isIn column selection).truth db record = some true ↔
      ∃ x, record column = some x ∧ some x ∈ selection.values db := by
  rw [Condition.truth]
  exact Truth.isIn_eq_true_iff

theorem Selection.mem_all
    {db : Database κ} {column table : String} {value : Option κ} :
    value ∈ (Selection.all column table).values db ↔
      ∃ record ∈ db.records table, record column = value := by
  rw [Selection.values]
  exact List.mem_map

theorem Selection.mem_matching
    {db : Database κ} {column table : String} {condition : Condition κ} {value : Option κ} :
    value ∈ (Selection.matching column table condition).values db ↔
      ∃ record ∈ db.records table,
        condition.truth db record = some true ∧ record column = value := by
  rw [Selection.values]
  simp only [List.mem_map, List.mem_filter, decide_eq_true_eq, and_assoc]

theorem Selection.mem_intersect
    {db : Database κ} {left right : Selection κ} {value : Option κ} :
    value ∈ (Selection.intersect left right).values db ↔
      value ∈ left.values db ∧ value ∈ right.values db := by
  rw [Selection.values]
  simp only [List.mem_filter, decide_eq_true_eq]

end
end Criteria
