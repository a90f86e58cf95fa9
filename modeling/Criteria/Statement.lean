import Criteria.Session

/-!
# Statements

Whole statements on the table of an entity.  The layout of the entity is looked up before the
condition of a query is compiled.
-/

namespace Criteria
namespace Statement

open Session

/-!
# Rows that match a query
-/

def select (entity : Entity) (query : Query) : Run Fragment := do
  let layout ← layout entity
  let condition ← condition query
  let order ← orderBy query
  return .text layout.selectHead ++ condition.asWhere ++ .text (order ++ window query)

def count (entity : Entity) (query : Query) : Run Fragment := do
  let layout ← layout entity
  let condition ← condition query
  return .text ("SELECT count(*) FROM " ++ layout.table) ++ condition.asWhere

def delete (entity : Entity) (query : Query) : Run Fragment := do
  let layout ← layout entity
  let condition ← condition query
  return .text layout.deleteHead ++ condition.asWhere

/-!
# Single rows
-/

def selectById (entity : Entity) (id : Value) : Run Fragment := do
  let layout ← layout entity
  return ⟨layout.selectByIdSql, [id]⟩

def deleteById (entity : Entity) (id : Value) : Run Fragment := do
  let layout ← layout entity
  return ⟨layout.deleteByIdSql, [id]⟩

def insert (entity : Entity) (row : Row) : Run Fragment := do
  let layout ← layout entity
  return ⟨layout.insertSql, layout.withoutIdentity row.values⟩

def update (entity : Entity) (row : Row) : Run Fragment := do
  let layout ← layout entity
  return ⟨layout.updateSql, layout.withoutIdentity row.values ++ [row.id]⟩

/-!
# Several rows
-/

def rowGroups (layout : Layout) (rows : List Row) : Clauses :=
  ⟨rows.map fun row => .boundGroup (layout.withoutIdentity row.values)⟩

def insertAll (entity : Entity) (rows : List Row) : Run (Option Fragment) := do
  if rows.isEmpty then
    return none
  else
    let layout ← layout entity
    return some (.text layout.insertHead ++ (rowGroups layout rows).join ", ")

/-!
# Columns that are set
-/

def assigned (layout : Layout) (row : Row) : List (String × Value) :=
  (layout.insertColumns.zip (layout.withoutIdentity row.values)).filter fun pair =>
    !pair.2.isNull

def assignment? (layout : Layout) (row : Row) : Option Fragment :=
  match assigned layout row with
  | [] => none
  | pair :: pairs =>
      let assigned := pair :: pairs
      some ⟨layout.updateHead (assigned.map Prod.fst), assigned.map Prod.snd⟩

theorem assignment?_eq
    (layout : Layout) (row : Row) :
    assignment? layout row =
      if assigned layout row = [] then
        none
      else
        some ⟨layout.updateHead ((assigned layout row).map Prod.fst),
          (assigned layout row).map Prod.snd⟩ := by
  unfold assignment?
  cases assigned layout row with
  | nil => rfl
  | cons pair pairs => rfl

def patch (entity : Entity) (row : Row) : Run (Option Fragment) := do
  let layout ← layout entity
  return (assignment? layout row).map fun fragment => fragment ++ ⟨layout.byId, [row.id]⟩

/-- Without a column that is set, the query is not compiled. -/
def patchWhere (entity : Entity) (row : Row) (query : Query) : Run (Option Fragment) := do
  let layout ← layout entity
  match assignment? layout row with
  | none => return none
  | some fragment =>
      let condition ← condition query
      return some (fragment ++ condition.asWhere)

end Statement
end Criteria
