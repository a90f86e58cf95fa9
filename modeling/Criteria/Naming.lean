import Criteria.Catalog
import Criteria.Naming.Words

/-!
# Naming

How columns, tables, bridge tables and the columns of bridge tables are named after fields and
entities.  An explicit table takes precedence over every format.
-/

namespace Criteria

def identityColumn : String :=
  "id"

/-- In a format, each pair of braces takes one name.  `bridges` holds explicit bridge tables
under the names of both domains with a comma between them, `tables` the explicit tables of
domains and of entity types. -/
structure Naming where
  tableFormat : String := "t_\x7b\x7d"
  bridgeFormat : String := "a_\x7b\x7d_and_\x7b\x7d"
  bridgeKeyFormat : String := "\x7b\x7d_id"
  entitySuffix : String := "Entity"
  spelling : Spelling := .snake
  bridges : Catalog String := .empty
  tables : Catalog String := .empty
deriving DecidableEq, Repr

namespace Naming

open Text

/-!
# Formats
-/

def slot : List Char :=
  ['\x7b', '\x7d']

/-- Put the names in the slots of a format one after the other, each in the first slot of the
text so far. -/
def fill (format : String) (names : List String) : String :=
  String.ofList (names.foldl (fun text name => replaceFirst slot name.toList text) format.toList)

/-!
# Overrides
-/

def pair (left right : String) : String :=
  left ++ "," ++ right

def withBridge (naming : Naming) (left right table : String) : Naming :=
  { naming with bridges := naming.bridges.put (pair left right) table }

def withTable (naming : Naming) (name table : String) : Naming :=
  { naming with tables := naming.tables.put name table }

/-!
# Derived names
-/

def column (naming : Naming) (field : String) : String :=
  naming.spelling.apply field

def domainTable (naming : Naming) (domain : String) : String :=
  (naming.tables.find? domain).getD (fill naming.tableFormat [domain])

/-- The name of an entity type without the suffix of entity types; nothing is taken from a name
that is the suffix itself. -/
def stem (naming : Naming) (typeName : String) : String :=
  match dropEnd? naming.entitySuffix.toList typeName.toList with
  | some (c :: cs) => String.ofList (c :: cs)
  | _ => typeName

def domainOf (naming : Naming) (typeName : String) : String :=
  naming.column (naming.stem typeName)

/-- The table of an entity type; an explicit table is looked up under the type's name first and
under its domain then. -/
def entityTable (naming : Naming) (typeName : String) : String :=
  (naming.tables.find? typeName).getD (naming.domainTable (naming.domainOf typeName))

/-- The bridge table of two domains; an explicit one serves both directions. -/
def bridgeTable (naming : Naming) (left right : String) : String :=
  ((naming.bridges.find? (pair left right)).or (naming.bridges.find? (pair right left))).getD
    (fill naming.bridgeFormat [left, right])

def bridgeKey (naming : Naming) (domain : String) : String :=
  fill naming.bridgeKeyFormat [domain]

end Naming
end Criteria
