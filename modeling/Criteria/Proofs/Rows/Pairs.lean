import Criteria.Entity.Layout
import Criteria.Proofs.Naming.Columns
import Criteria.Proofs.Placeholders.Fragments

/-!
# Columns with their values

A row of an entity is read as pairs of a column and its value.  A statement that writes the row
takes the pairs without the first one that identifies the row.  The layout removes the column and
the value of this pair by its place in two separate lists; both stay in step.
-/

namespace Criteria

open Text

namespace Entity

/-- The columns of a row with their values, without the pair that identifies the row. -/
def pairs (naming : Naming) (entity : Entity) (row : Row) : List (String × Value) :=
  (((entity.leaves naming).zip row.values).eraseP fun pair => pair.1.isIdentity).map
    fun pair => (pair.1.column, pair.2)

def presentPairs (naming : Naming) (entity : Entity) (row : Row) : List (String × Value) :=
  (entity.pairs naming row).filter fun pair => !pair.2.isNull

/-- The columns of the pairs, which are the same for all rows. -/
def writtenColumns (naming : Naming) (entity : Entity) : List String :=
  ((entity.leaves naming).eraseP Leaf.isIdentity).map Leaf.column

def identity (naming : Naming) (entity : Entity) : String :=
  (((entity.leaves naming).find? Leaf.isIdentity).map Leaf.column).getD identityColumn

def Fits (naming : Naming) (entity : Entity) (row : Row) : Prop :=
  row.values.length = (entity.leaves naming).length

end Entity

namespace Layout

variable {naming : Naming} {entity : Entity}

theorem map_eraseIdx
    {α β : Type} (f : α -> β) (xs : List α) (index : Nat) :
    (xs.eraseIdx index).map f = (xs.map f).eraseIdx index := by
  simp only [List.eraseIdx_eq_take_drop_succ, List.map_append, List.map_take, List.map_drop]

theorem withoutIdentity_build
    {α : Type} {f : Leaf × Value -> α} {values : List Value}
    (hvalues : values.length = (entity.leaves naming).length) :
    (build naming entity).withoutIdentity (((entity.leaves naming).zip values).map f) =
      (((entity.leaves naming).zip values).eraseP fun pair => pair.1.isIdentity).map f := by
  have hleaves : ((entity.leaves naming).zip values).map Prod.fst = entity.leaves naming :=
    List.map_fst_zip (Nat.le_of_eq hvalues.symm)
  have hindex : (entity.leaves naming).findIdx? Leaf.isIdentity =
      ((entity.leaves naming).zip values).findIdx? fun pair => pair.1.isIdentity := by
    have hmap := List.findIdx?_map (p := Leaf.isIdentity) (f := Prod.fst)
      (l := (entity.leaves naming).zip values)
    rwa [hleaves] at hmap
  have hidentity : (build naming entity).identityIndex =
      ((entity.leaves naming).zip values).findIdx? fun pair => pair.1.isIdentity := hindex
  unfold withoutIdentity
  rw [hidentity, List.eraseP_eq_eraseIdx]
  cases ((entity.leaves naming).zip values).findIdx? fun pair => pair.1.isIdentity with
  | none => rfl
  | some index => exact (map_eraseIdx f _ index).symm

theorem insertColumns_build :
    (build naming entity).insertColumns = entity.writtenColumns naming := by
  have hindex : (build naming entity).identityIndex =
      (entity.leaves naming).findIdx? Leaf.isIdentity := rfl
  have hcolumns : (build naming entity).columns = (entity.leaves naming).map Leaf.column := rfl
  unfold insertColumns withoutIdentity Entity.writtenColumns
  rw [hindex, hcolumns, List.eraseP_eq_eraseIdx]
  cases (entity.leaves naming).findIdx? Leaf.isIdentity with
  | none => rfl
  | some index => exact (map_eraseIdx Leaf.column _ index).symm

theorem columns_pairs
    {row : Row}
    (hrow : entity.Fits naming row) :
    (entity.pairs naming row).map Prod.fst = entity.writtenColumns naming := by
  have hcolumns : ((entity.leaves naming).zip row.values).map (fun pair => pair.1.column) =
      (entity.leaves naming).map Leaf.column := by
    have hleaves := congrArg (List.map Leaf.column)
      (List.map_fst_zip (Nat.le_of_eq (Eq.symm hrow)))
    rwa [List.map_map] at hleaves
  have herased := withoutIdentity_build (f := fun pair => pair.1.column) hrow
  rw [hcolumns] at herased
  rw [← insertColumns_build, Entity.pairs, List.map_map]
  exact herased.symm

theorem values_pairs
    {row : Row}
    (hrow : entity.Fits naming row) :
    (build naming entity).withoutIdentity row.values =
      (entity.pairs naming row).map Prod.snd := by
  have hvalues : ((entity.leaves naming).zip row.values).map Prod.snd = row.values :=
    List.map_snd_zip (Nat.le_of_eq hrow)
  have herased := withoutIdentity_build (f := Prod.snd) hrow
  rw [hvalues] at herased
  rw [herased, Entity.pairs, List.map_map]
  rfl

end Layout
end Criteria
