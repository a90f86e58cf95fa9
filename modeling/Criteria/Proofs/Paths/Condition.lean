import Criteria.Path.Selection
import Criteria.Proofs.Paths.Database

/-!
# The condition of a path

A path compiles to the text of a condition that is built from selections.  The condition is built
as the compiler builds its text, from the end of the path backwards, and the filters of the stops
stand in it as they are.
-/

namespace Criteria

variable {κ : Type}

abbrev RowFilters (κ : Type) :=
  List (Nat × RowFilter κ)

namespace RowFilters

def at? (filters : RowFilters κ) (index : Nat) : Option (RowFilter κ) :=
  (filters.lookup index).filter fun filter => !filter.text.isEmpty

def texts (filters : RowFilters κ) : Filters :=
  filters.map fun entry => (entry.1, entry.2.text)

end RowFilters

/-!
# Selections along the path
-/

/-- A set of identities, as long as it is still a table it can be read for another column. -/
inductive Identities (κ : Type) where
  | records (table : String) (filter? : Option (RowFilter κ))
  | selection (selection : Selection κ)

def Selection.ofTable (column table : String) : Option (RowFilter κ) -> Selection κ
  | none => .all column table
  | some filter => .matching column table (.given filter)

def Identities.toSelection : Identities κ -> Selection κ
  | .records table filter? => .ofTable identityColumn table filter?
  | .selection selected => selected

def Hop.unfolded (hop : Hop) (left : Stop) (inner : Selection κ) : Selection κ :=
  let relation := hop.relation left
  .matching relation.localKey relation.table (.isIn relation.foreignKey inner)

def Hop.leftOf (hop : Hop) (left : Stop) (inner : Identities κ) : Selection κ :=
  match hop.link, inner with
  | .rightKey column, .records table filter? => .ofTable column table filter?
  | _, _ => hop.unfolded left inner.toSelection

def Stop.narrow (stop : Stop) (selected : Selection κ) : Option (RowFilter κ) -> Selection κ
  | none => selected
  | some filter => .intersect selected (.ofTable identityColumn stop.table (some filter))

namespace Path

def identitiesAt (filters : RowFilters κ) (index : Nat) (stop : Stop) : List Hop -> Identities κ
  | [] => .records stop.table (filters.at? index)
  | hop :: hops =>
      let inner := identitiesAt filters (index + 1) hop.stop hops
      .selection (stop.narrow (hop.leftOf stop inner) (filters.at? index))

def membership (path : Path) (filters : RowFilters κ) : Condition κ :=
  let inner := identitiesAt filters 1 path.first.stop path.rest
  match path.first.link with
  | .leftKey column => .isIn column inner.toSelection
  | _ => .isIn identityColumn (path.first.leftOf path.root inner)

end Path

/-!
# The text of the condition
-/

def RowFilter.whereText : Option (RowFilter κ) -> Fragment
  | none => .empty
  | some filter => .text " WHERE " ++ filter.text

theorem Selection.fragment_ofTable
    (column table : String) (filter? : Option (RowFilter κ)) :
    (Selection.ofTable column table filter?).fragment =
      selectFrom column table ++ RowFilter.whereText filter? := by
  cases filter? with
  | none => exact (Fragment.append_empty _).symm
  | some filter =>
      simp only [Selection.ofTable, Selection.fragment, Condition.fragment, RowFilter.whereText,
        selectFrom, ← Fragment.append_assoc, Fragment.text_append_text]

theorem filterAt_texts
    (filters : RowFilters κ) (index : Nat) :
    (filters.at? index = none ∧ (filterAt filters.texts index).isEmpty = true) ∨
      ∃ filter, filters.at? index = some filter ∧ filterAt filters.texts index = filter.text ∧
        filter.text.isEmpty = false := by
  have hlookup : filters.texts.lookup index = (filters.lookup index).map RowFilter.text := by
    unfold RowFilters.texts
    induction filters with
    | nil => rfl
    | cons entry filters ih =>
        rw [List.map_cons, List.lookup_cons, List.lookup_cons, ih]
        cases index == entry.1 <;> rfl
  unfold filterAt RowFilters.at?
  rw [hlookup]
  cases filters.lookup index with
  | none => exact Or.inl ⟨rfl, rfl⟩
  | some filter =>
      cases hempty : filter.text.isEmpty with
      | true => exact Or.inl ⟨by simp [Option.filter, hempty], hempty⟩
      | false => exact Or.inr ⟨filter, by simp [Option.filter, hempty], rfl, hempty⟩

theorem asWhere_filterAt_texts
    (filters : RowFilters κ) (index : Nat) :
    (filterAt filters.texts index).asWhere = RowFilter.whereText (filters.at? index) := by
  rcases filterAt_texts filters index with ⟨hat, hempty⟩ | ⟨filter, hat, htext, hempty⟩
  · rw [hat, Fragment.asWhere, if_pos hempty]
    rfl
  · rw [hat, htext, Fragment.asWhere, hempty]
    rfl

def Identities.WrittenAs : Identities κ -> IdSet -> Prop
  | .records table filter?, .rows table' filter =>
      table' = table ∧ filter.asWhere = RowFilter.whereText filter?
  | .selection selected, .selection fragment => selected.fragment = fragment
  | _, _ => False

theorem Identities.WrittenAs.fragment
    {identities : Identities κ} {set : IdSet}
    (h : identities.WrittenAs set) :
    identities.toSelection.fragment = set.fragment := by
  cases identities with
  | records table filter? =>
      cases set with
      | rows table' filter =>
          rcases h with ⟨htable, hfilter⟩
          rw [htable, Identities.toSelection, Selection.fragment_ofTable, IdSet.fragment, hfilter]
      | selection fragment => cases h
  | selection selected =>
      cases set with
      | rows table' filter => cases h
      | selection fragment => exact h

theorem Hop.fragment_unfolded
    (hop : Hop) (left : Stop) (inner : Selection κ) :
    (hop.unfolded left inner).fragment =
      selectFrom (hop.relation left).localKey (hop.relation left).table ++
        .text (" WHERE " ++ (hop.relation left).foreignKey ++ " IN (") ++ inner.fragment ++
          .text ")" := by
  simp only [Hop.unfolded, Selection.fragment, Condition.fragment, selectFrom,
    ← Fragment.append_assoc, Fragment.text_append_text, String.append_assoc]

theorem Hop.fragment_leftOf
    {hop : Hop} {left : Stop} {inner : Identities κ} {set : IdSet}
    (h : inner.WrittenAs set) :
    (hop.leftOf left inner).fragment = hop.project left set := by
  have hunfolded : (hop.unfolded left inner.toSelection).fragment =
      selectFrom (hop.relation left).localKey (hop.relation left).table ++
        .text (" WHERE " ++ (hop.relation left).foreignKey ++ " IN (") ++ set.fragment ++
          .text ")" := by
    rw [hop.fragment_unfolded left, h.fragment]
  unfold leftOf project
  cases hlink : hop.link with
  | bridge leftKey rightKey table => exact hunfolded
  | leftKey column => exact hunfolded
  | rightKey column =>
      cases inner with
      | selection selected =>
          cases set with
          | rows table filter => cases h
          | selection fragment => exact hunfolded
      | records table filter? =>
          cases set with
          | selection fragment => cases h
          | rows table' filter =>
              rcases h with ⟨htable, hfilter⟩
              rw [htable]
              show (Selection.ofTable column table filter?).fragment =
                selectFrom column table ++ filter.asWhere
              rw [Selection.fragment_ofTable, hfilter]

theorem Stop.fragment_narrow
    (stop : Stop) (selected : Selection κ) (filters : RowFilters κ) (index : Nat) :
    (stop.narrow selected (filters.at? index)).fragment =
      Path.narrow selected.fragment stop (filterAt filters.texts index) := by
  have hwhere := asWhere_filterAt_texts filters index
  unfold Path.narrow
  rcases filterAt_texts filters index with ⟨hat, hempty⟩ | ⟨filter, hat, htext, hempty⟩
  · rw [hat, if_pos hempty]
    rfl
  · rw [hat] at hwhere ⊢
    rw [htext] at hwhere ⊢
    rw [if_neg (by simp [hempty]), hwhere, Stop.narrow, Selection.fragment,
      Selection.fragment_ofTable]
    simp only [Fragment.append_assoc]

theorem Path.identitiesAt_writtenAs
    (filters : RowFilters κ) (index : Nat) (stop : Stop) (hops : List Hop) :
    (identitiesAt filters index stop hops).WrittenAs (idsAt filters.texts index stop hops) := by
  induction hops generalizing index stop with
  | nil => exact ⟨rfl, asWhere_filterAt_texts filters index⟩
  | cons hop hops ih =>
      show (stop.narrow (hop.leftOf stop (identitiesAt filters (index + 1) hop.stop hops))
        (filters.at? index)).fragment = _
      rw [Stop.fragment_narrow, Hop.fragment_leftOf (ih (index + 1) hop.stop)]

theorem Path.fragment_membership
    (path : Path) (filters : RowFilters κ) :
    (path.membership filters).fragment = path.compile filters.texts := by
  have hinner := identitiesAt_writtenAs filters 1 path.first.stop path.rest
  unfold membership compile
  cases hlink : path.first.link with
  | leftKey column =>
      simp only [Condition.fragment, hinner.fragment]
  | bridge leftKey rightKey table =>
      simp only [Condition.fragment, Hop.fragment_leftOf hinner]
  | rightKey column =>
      simp only [Condition.fragment, Hop.fragment_leftOf hinner]

end Criteria
