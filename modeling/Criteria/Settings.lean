import Criteria.Json.Reader
import Criteria.Naming
import Criteria.Page

/-!
# Settings as documents

Namings and page requests are read from JSON documents.  A record is an object, or an array of
its fields in order; fields that are missing take their standard values.  In an object fields of
other names are ignored, but a field may not be given twice; an array may not have more elements
than the record has fields.
-/

namespace Criteria
namespace Settings

/-!
# Records
-/

def named? : List (Option String × Json) -> Option (List (String × Json))
  | [] => some []
  | (some key, value) :: members => (named? members).map ((key, value) :: ·)
  | (none, _) :: _ => none

def fields? (names : List String) : Json -> Option (List (Option Json))
  | .object members =>
      (named? members).bind fun members =>
        let given := fun name => (members.filter fun member => member.1 == name).map Prod.snd
        if names.all fun name => (given name).length ≤ 1 then
          some (names.map fun name => (given name).head?)
        else
          none
  | .array items =>
      if items.length ≤ names.length then
        some (items.map some ++ List.replicate (names.length - items.length) none)
      else
        none
  | _ => none

def orStandard {α : Type} (standard : α) (read? : Json -> Option α) : Option Json -> Option α
  | some json => read? json
  | none => some standard

/-!
# Plain values
-/

def string? : Json -> Option String
  | .string text => text
  | _ => none

def optional? {α : Type} (read? : Json -> Option α) : Json -> Option (Option α)
  | .null => some none
  | json => (read? json).map some

def int64? : Json -> Option Int64
  | .number literal => Json.integer? literal
  | _ => none

/-- An object whose values are strings; of equal keys the last one counts. -/
def table? : Json -> Option (Catalog String)
  | .object members =>
      (named? members).bind fun members =>
        let put := fun (catalog : Catalog String) (member : String × Json) =>
          (string? member.2).map (catalog.put member.1)
        members.foldlM put .empty
  | _ => none

def spellingOf? (name : String) : Option Spelling :=
  if name = "snake" then some .snake
  else if name = "camel" then some .camel
  else if name = "preserve" then some .verbatim
  else none

/-- A choice is its name, or an object with its name and a null. -/
def spelling? : Json -> Option Spelling
  | .string (some name) => spellingOf? name
  | .object [(some name, .null)] => spellingOf? name
  | _ => none

/-!
# Namings
-/

def namingFields : List String :=
  ["table_format", "join_table_format", "join_id_format", "entity_suffix", "column_case",
    "join_tables", "entity_tables"]

def naming? (text : String) : Option Naming := do
  let json ← Json.read? text
  let standard : Naming := {}
  match ← fields? namingFields json with
  | [tableFormat, bridgeFormat, bridgeKeyFormat, entitySuffix, spelling, bridges, tables] =>
      return {
        tableFormat := ← orStandard standard.tableFormat string? tableFormat
        bridgeFormat := ← orStandard standard.bridgeFormat string? bridgeFormat
        bridgeKeyFormat := ← orStandard standard.bridgeKeyFormat string? bridgeKeyFormat
        entitySuffix := ← orStandard standard.entitySuffix string? entitySuffix
        spelling := ← orStandard standard.spelling spelling? spelling
        bridges := ← orStandard standard.bridges table? bridges
        tables := ← orStandard standard.tables table? tables }
  | _ => none

/-!
# Page requests
-/

def pageFields : List String :=
  ["pageNumber", "pageSize", "sort"]

def page? (text : String) : Option PageRequest := do
  let json ← Json.read? text
  match ← fields? pageFields json with
  | [number, size, sort] =>
      return {
        number := ← orStandard none (optional? int64?) number
        size := ← orStandard none (optional? int64?) size
        sort := ← orStandard none (optional? string?) sort }
  | _ => none

def optionText {α : Type} (text : α -> String) : Option α -> String
  | some x => text x
  | none => "null"

def pageText (page : PageRequest) : String :=
  let number := optionText (fun n : Int64 => toString n.toInt) page.number
  let size := optionText (fun n : Int64 => toString n.toInt) page.size
  "\x7b\"pageNumber\":" ++ number ++ ",\"pageSize\":" ++ size ++ ",\"sort\":" ++
    optionText Json.stringText page.sort ++ "\x7d"

end Settings
end Criteria
