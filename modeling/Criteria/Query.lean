import Criteria.Page
import Criteria.Text.Cut
import Criteria.Text.Quoted
import Criteria.Value

/-!
# Queries

A query type is a table of fields, each with a kind that tells how its value becomes a condition.
A query is a tree: the fields of its type with their contents, among which are further queries.
-/

namespace Criteria

open Text

/-!
# Groups
-/

inductive Connective where
  | or
  | and
deriving DecidableEq, Repr

namespace Connective

def separator : Connective -> String
  | .or => " OR "
  | .and => " AND "

/-- The connective that ends a group's name, with the name before it.  A capitalized connective
needs a name before it, one after an underscore does not. -/
def ofName? (name : String) : Option (Connective × String) :=
  let before? := fun ending => dropEnd? ending name.toList
  match before? ['_', 'o', 'r'], before? ['_', 'a', 'n', 'd'] with
  | some base, _ => some (.or, String.ofList base)
  | none, some base => some (.and, String.ofList base)
  | none, none =>
      match before? ['O', 'r'], before? ['A', 'n', 'd'] with
      | some (c :: cs), _ => some (.or, String.ofList (c :: cs))
      | _, some (c :: cs) => some (.and, String.ofList (c :: cs))
      | _, _ => none

end Connective

inductive Members where
  | ofQuery
  | queries
  | values
deriving DecidableEq, Repr

/-!
# Types of queries
-/

inductive Kind where
  | scalar
  | group (connective : Connective) (members : Members)
  | path (raw : String)
  | subquery (raw : String)
  | condition (template : String)
  | flatten
  | page
  | unsupported (reason : String)
deriving DecidableEq, Repr

/-- A field of a query type; `column` overrides the column that the name gives. -/
structure FieldType where
  name : String
  column : Option String
  kind : Kind
deriving DecidableEq, Repr

structure QueryType where
  name : String
  fields : List FieldType
deriving DecidableEq, Repr

/-!
# Queries
-/

mutual

inductive Query where
  | mk (typeName : String) (fields : List Field) (page : Option PageRequest)

inductive Field where
  | mk (type : FieldType) (content : Content)

inductive Content where
  | absent
  | scalar (value : Value)
  | list (values : List Value)
  | query (query : Query)
  | queries (queries : List Query)
  | path (hops : List HopQuery)

inductive HopQuery where
  | mk (index : Nat) (query : Query)

end

namespace HopQuery

def index : HopQuery -> Nat
  | .mk index _ => index

def query : HopQuery -> Query
  | .mk _ query => query

end HopQuery

namespace Field

def type : Field -> FieldType
  | .mk type _ => type

def content : Field -> Content
  | .mk _ content => content

end Field

namespace Query

def typeName : Query -> String
  | .mk typeName _ _ => typeName

def fields : Query -> List Field
  | .mk _ fields _ => fields

def page : Query -> Option PageRequest
  | .mk _ _ page => page

def type (query : Query) : QueryType :=
  ⟨query.typeName, query.fields.map Field.type⟩

/-- The content of the field with the given number; beyond the last field nothing is present. -/
def contentAt (query : Query) (index : Nat) : Content :=
  (query.fields[index]?.map Field.content).getD .absent

end Query

def HopQuery.display (hops : List HopQuery) : String :=
  let entry := fun hop : HopQuery =>
    "(" ++ toString hop.index ++ ", " ++ quote hop.query.typeName ++ ")"
  "[" ++ joinWith ", " (hops.map entry) ++ "]"

/-!
# Contents of plain data
-/

namespace Content

def isAbsent : Content -> Bool
  | .absent => true
  | _ => false

def ofOption {α : Type} (content : α -> Content) : Option α -> Content
  | some x => content x
  | none => .absent

def ofScalar {α : Type} [Bindable α] (x : Option α) : Content :=
  ofOption (fun x => .scalar (argument x)) x

def ofList {α : Type} [Bindable α] (xs : Option (List α)) : Content :=
  ofOption (fun xs => .list (xs.map argument)) xs

def ofFlag (flag : Bool) : Content :=
  if flag then .scalar (.bool true) else .absent

def ofQuery (query : Option Query) : Content :=
  ofOption .query query

def ofQueries (queries : Option (List Query)) : Content :=
  ofOption .queries queries

def ofHops (hops : Option (List HopQuery)) : Content :=
  ofOption .path hops

end Content
end Criteria
