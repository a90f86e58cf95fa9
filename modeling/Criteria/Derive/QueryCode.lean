import Criteria.Derive.Code
import Criteria.Derive.QueryDefinition

/-!
# Code for query types

The code that is derived for a query type: the table of its fields, a function that reads the
field with a given number, and access to the request for a page.
-/

namespace Criteria
namespace Derive

open Source

structure Arm where
  index : Nat
  access : Access
  field : String
deriving DecidableEq, Repr

structure PageSource where
  field : String
  isOptional : Bool
deriving DecidableEq, Repr

structure QueryCode where
  name : String
  parameters : Parameters
  entries : List FieldType
  arms : List Arm
  page : Option PageSource

def armsFrom (index : Nat) : List QueryField -> List Arm
  | [] => []
  | field :: fields =>
      (field.access.map fun access => ⟨index, access, field.name⟩).toList ++
        armsFrom (index + 1) fields

namespace QueryDefinition

def code (definition : QueryDefinition) : QueryCode :=
  { name := definition.name
    parameters := definition.parameters
    entries := definition.fields.map QueryField.entry
    arms := armsFrom 0 definition.fields
    page := definition.pageField?.map fun field =>
      ⟨field.name, field.type.optionInside?.isSome⟩ }

end QueryDefinition

/-!
# Tokens of the table
-/

def connectiveName : Connective -> String
  | .or => "Or"
  | .and => "And"

def membersName : Members -> String
  | .ofQuery => "Nested"
  | .queries => "NestedList"
  | .values => "ScalarList"

def withText (name text : String) : List Token :=
  corePath ("FieldKind :: " ++ name) ++ [.parens [.ofText text]]

def kindTokens : Kind -> List Token
  | .scalar => corePath "FieldKind :: Scalar"
  | .group connective members =>
      corePath "FieldKind :: Group" ++
        [.braces (Token.separated
          [ code "connective :" ++ corePath ("Connective :: " ++ connectiveName connective)
          , code "shape :" ++ corePath ("GroupShape :: " ++ membersName members) ])]
  | .path raw => withText "Path" raw
  | .subquery raw => withText "Subquery" raw
  | .condition template => withText "Condition" template
  | .flatten => corePath "FieldKind :: Flatten"
  | .page => corePath "FieldKind :: Page"
  | .unsupported reason => withText "Unsupported" reason

def entryTokens (entry : FieldType) : List Token :=
  let column :=
    match entry.column with
    | some column => code ". with_column" ++ [Token.parens [.ofText column]]
    | none => []
  corePath "QueryField :: new" ++
    .parens (Token.separated [[.ofText entry.name], kindTokens entry.kind]) :: column

def tableFunction (derived : QueryCode) : List Token :=
  let table :=
    Token.separated
      [ code "type_name :" ++ fullName (code "stringify !" ++ [.parens [.word derived.name]])
      , code "fields : &" ++ [.brackets (Token.separated (derived.entries.map entryTokens))] ]
  method "query_schema" (code "& self") (code "-> & 'static" ++ corePath "QuerySchema")
    (code "static SCHEMA :" ++ corePath "QuerySchema" ++ code "=" ++ corePath "QuerySchema" ++
      .braces table :: code "; & SCHEMA")

/-!
# Tokens of the reading function
-/

/-- The function that reads a field, and whether it is given a reference to the field. -/
def accessFunction : Access -> String × Bool
  | .scalar => ("scalar", true)
  | .list => ("list", true)
  | .flag => ("flag", false)
  | .query => ("nested", true)
  | .embedded => ("embedded", true)
  | .queries => ("nested_list", true)
  | .hops => ("path", true)

def armTokens (arm : Arm) : List Token :=
  let (function, byReference) := accessFunction arm.access
  let argument := (if byReference then code "&" else []) ++ ownField arm.field
  .ofIndex arm.index :: (code "=>" ++ corePath ("field :: " ++ function) ++ [.parens argument])

def readFunction (derived : QueryCode) : List Token :=
  let absent := code "_ =>" ++ corePath "FieldValue :: Absent"
  let cases := Token.separated (derived.arms.map armTokens ++ [absent])
  method "field_value" (code "& self , index : usize")
    (code "->" ++ corePath "FieldValue" ++ code "< '_ >")
    (code "match index" ++ [.braces cases])

/-!
# Tokens of the access to the page
-/

def pageFunction (source : PageSource) : List Token :=
  let body :=
    if source.isOptional then
      ownField source.field ++ code ". as_ref" ++ [.parens []]
    else
      optionCode (some (code "&" ++ ownField source.field))
  method "page" (code "& self")
    (code "-> :: core :: option :: Option < &" ++ corePath "PageQuery" ++ code ">") body

def QueryCode.tokens (derived : QueryCode) : List Token :=
  let page :=
    match derived.page with
    | some source => pageFunction source
    | none => []
  code "impl" ++ derived.parameters.binders ++ corePath "QueryFields" ++ code "for" ++
    .word derived.name :: (derived.parameters.arguments ++ derived.parameters.condition) ++
    [.braces (tableFunction derived ++ readFunction derived ++ page)]

end Derive
end Criteria
