import Criteria.Entity
import Criteria.Fragment

/-!
# Table layouts

The table of an entity, its columns in order, the one that identifies a row, and the texts of the
statements on single rows.  An insertion leaves the identity to the database, so the values of a
row are split into that of the identity and the others.
-/

namespace Criteria

open Text

structure Layout where
  typeName : String
  table : String
  columns : List String
  identity : String
  identityIndex : Option Nat
deriving DecidableEq

namespace Layout

/-- The first identity among the columns, embedded ones included, identifies the rows. -/
def build (naming : Naming) (entity : Entity) : Layout :=
  let leaves := entity.leaves naming
  { typeName := entity.typeName
    table := entity.table naming
    columns := leaves.map Leaf.column
    identity := ((leaves.find? Leaf.isIdentity).map Leaf.column).getD identityColumn
    identityIndex := leaves.findIdx? Leaf.isIdentity }

def withoutIdentity {α : Type} (layout : Layout) (xs : List α) : List α :=
  match layout.identityIndex with
  | some index => xs.eraseIdx index
  | none => xs

def identityOf (layout : Layout) (values : List Value) : Value :=
  (layout.identityIndex.bind fun index => values[index]?).getD .null

def insertColumns (layout : Layout) : List String :=
  layout.withoutIdentity layout.columns

/-!
# Statement texts
-/

def columnList (layout : Layout) : String :=
  joinWith ", " layout.columns

def markGroup (layout : Layout) : String :=
  Fragment.markGroup layout.insertColumns.length

def assignments (columns : List String) : String :=
  joinWith ", " (columns.map fun column => column ++ " = ?")

def insertHead (layout : Layout) : String :=
  "INSERT INTO " ++ layout.table ++ " (" ++ joinWith ", " layout.insertColumns ++ ") VALUES "

def insertSql (layout : Layout) : String :=
  layout.insertHead ++ layout.markGroup

def updateHead (layout : Layout) (columns : List String) : String :=
  "UPDATE " ++ layout.table ++ " SET " ++ assignments columns

def byId (layout : Layout) : String :=
  " WHERE " ++ layout.identity ++ " = ?"

def updateSql (layout : Layout) : String :=
  layout.updateHead layout.insertColumns ++ layout.byId

def selectHead (layout : Layout) : String :=
  "SELECT " ++ layout.columnList ++ " FROM " ++ layout.table

def selectByIdSql (layout : Layout) : String :=
  layout.selectHead ++ layout.byId

def deleteHead (layout : Layout) : String :=
  "DELETE FROM " ++ layout.table

def deleteByIdSql (layout : Layout) : String :=
  layout.deleteHead ++ layout.byId

end Layout
end Criteria
