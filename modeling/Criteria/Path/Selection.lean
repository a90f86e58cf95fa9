import Criteria.Path

/-!
# Selections along a path

From the target backwards, each hop turns a selection of identities of its right entity into one
of its left entity.  A stop on the way can have a filter, which narrows the selection to the rows
that pass it.

Two forms are shorter than the general one: a row that refers to the target is the target's own
row when the key is on the right, so that its key is selected directly; and a root that refers to
the next entity is tested by its key.
-/

namespace Criteria

inductive IdSet where
  | rows (table : String) (filter : Fragment)
  | selection (fragment : Fragment)

abbrev Filters :=
  List (Nat × Fragment)

/-- The first filter given for a stop; an empty filter is none. -/
def filterAt (filters : Filters) (index : Nat) : Fragment :=
  (filters.lookup index).getD .empty

theorem filterAt_cases
    (filters : Filters) (index : Nat) :
    filterAt filters index = .empty ∨ ∃ entry ∈ filters, filterAt filters index = entry.2 := by
  unfold filterAt
  cases hfound : filters.lookup index with
  | none => exact Or.inl rfl
  | some filter =>
      rcases List.lookup_eq_some_iff.mp hfound with ⟨before, after, heq, _⟩
      exact Or.inr ⟨(index, filter), by simp [heq], rfl⟩

def selectFrom (column table : String) : Fragment :=
  .text ("SELECT " ++ column ++ " FROM " ++ table)

namespace IdSet

def fragment : IdSet -> Fragment
  | .rows table filter => selectFrom identityColumn table ++ filter.asWhere
  | .selection fragment => fragment

end IdSet

namespace Hop

def project (hop : Hop) (left : Stop) (inner : IdSet) : Fragment :=
  match hop.link, inner with
  | .rightKey column, .rows table filter => selectFrom column table ++ filter.asWhere
  | _, _ =>
      let relation := hop.relation left
      selectFrom relation.localKey relation.table ++
        .text (" WHERE " ++ relation.foreignKey ++ " IN (") ++ inner.fragment ++ .text ")"

end Hop

namespace Path

def narrow (selected : Fragment) (stop : Stop) (filter : Fragment) : Fragment :=
  if filter.isEmpty then
    selected
  else
    selected ++ .text " INTERSECT " ++ selectFrom identityColumn stop.table ++ filter.asWhere

/-- The identities of the entities at a stop from which the end is reached. -/
def idsAt (filters : Filters) (index : Nat) (stop : Stop) : List Hop -> IdSet
  | [] => .rows stop.table (filterAt filters index)
  | hop :: hops =>
      let selected := hop.project stop (idsAt filters (index + 1) hop.stop hops)
      .selection (narrow selected stop (filterAt filters index))

def compile (path : Path) (filters : Filters) : Fragment :=
  let inner := idsAt filters 1 path.first.stop path.rest
  match path.first.link with
  | .leftKey column => .text (column ++ " IN (") ++ inner.fragment ++ .text ")"
  | _ =>
      .text (identityColumn ++ " IN (") ++ path.first.project path.root inner ++ .text ")"

end Path
end Criteria
