import Criteria.Derive.Code
import Criteria.Derive.EntityDefinition

/-!
# Code for entities

The code that is derived for an entity or a part: its description, a function that writes the
values of its columns in order, and access to the value that identifies a row.
-/

namespace Criteria
namespace Derive

open Source

structure ColumnEntry where
  name : String
  column : Option String
  placement : Placement
  type : TypeExpr

inductive Write where
  | value (field : String)
  | part (field : String)
deriving DecidableEq, Repr

structure IdentitySource where
  field : String
  type : TypeExpr

structure EntityCode where
  name : String
  table : Option String
  entries : List ColumnEntry
  writes : List Write
  identity : Option IdentitySource

namespace RowField

def entry (field : RowField) : ColumnEntry :=
  ⟨field.name, field.column, field.placement, field.type⟩

def write (field : RowField) : Write :=
  match field.placement with
  | .embedded => .part field.name
  | .column => .value field.name
  | .identity => .value field.name

end RowField

def EntityDefinition.code (definition : EntityDefinition) : EntityCode :=
  { name := definition.name
    table := definition.table
    entries := definition.fields.map RowField.entry
    writes := definition.fields.map RowField.write
    identity := definition.identity?.map fun field => ⟨field.name, field.type⟩ }

/-!
# Tokens of the description
-/

def placementTokens (entry : ColumnEntry) : List Token :=
  match entry.placement with
  | .column => corePath "ColumnKind :: Column"
  | .identity => corePath "ColumnKind :: Identity"
  | .embedded =>
      corePath "ColumnKind :: Embedded" ++
        [.parens
          (code "<" ++ entry.type.tokens ++ code "as" ++ corePath "Columns" ++
            code "> :: descriptor")]

def columnTokens (entry : ColumnEntry) : List Token :=
  corePath "EntityField" ++
    [.braces (Token.separated
      [ code "name :" ++ [.ofText entry.name]
      , code "column :" ++ optionText entry.column
      , code "kind :" ++ placementTokens entry ])]

def descriptionFunction (derived : EntityCode) : List Token :=
  let description :=
    Token.separated
      [ code "type_name :" ++ fullName [.ofText derived.name]
      , code "name :" ++ [.ofText derived.name]
      , code "table :" ++ optionText derived.table
      , code "fields : &" ++ [.brackets (Token.separated (derived.entries.map columnTokens))] ]
  method "descriptor" [] (code "-> & 'static" ++ corePath "EntityDescriptor")
    (code "static DESCRIPTOR :" ++ corePath "EntityDescriptor" ++ code "=" ++
      corePath "EntityDescriptor" ++ .braces description :: code "; & DESCRIPTOR")

/-!
# Tokens of the writing function
-/

def writeTokens : Write -> List Token
  | .value field =>
      code "out . push" ++
        .parens (corePath "ToValue :: to_value" ++ [.parens (code "&" ++ ownField field)]) ::
          code ";"
  | .part field =>
      corePath "Columns :: write_values" ++
        .parens (code "&" ++ ownField field ++ code ", out") :: code ";"

def writeFunction (derived : EntityCode) : List Token :=
  method "write_values"
    (code "& self , out : & mut :: std :: vec :: Vec <" ++ corePath "Value" ++ code ">") []
    (derived.writes.flatMap writeTokens)

/-!
# Tokens of the identity
-/

def identityTokens (name : String) (source : IdentitySource) : List Token :=
  let type := code "type Id =" ++ source.type.tokens ++ code ";"
  let read :=
    method "id" (code "& self") (code "-> & Self :: Id") (code "&" ++ ownField source.field)
  let write :=
    method "set_id" (code "& mut self , id : Self :: Id") []
      (ownField source.field ++ code "= id ;")
  code "impl" ++ corePath "Entity" ++ code "for" ++ [.word name, .braces (type ++ read ++ write)]

def EntityCode.tokens (derived : EntityCode) : List Token :=
  let identity :=
    match derived.identity with
    | some source => identityTokens derived.name source
    | none => []
  code "impl" ++ corePath "Columns" ++ code "for" ++
    [.word derived.name, .braces (descriptionFunction derived ++ writeFunction derived)] ++
    identity

end Derive
end Criteria
