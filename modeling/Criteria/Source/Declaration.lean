import Criteria.Source.Listed
import Criteria.Source.Parameter

/-!
# Declarations

A declaration names a type, with its parameters, attributes and fields.
-/

namespace Criteria
namespace Source

/-!
# Fields
-/

structure FieldType where
  attrs : List Attribute
  visibility : List Token
  type : TypeExpr

structure FieldDeclaration extends FieldType where
  name : String

def FieldType.tokens (field : FieldType) : List Token :=
  field.attrs.flatMap Attribute.tokens ++ field.visibility ++ field.type.tokens

def FieldDeclaration.tokens (field : FieldDeclaration) : List Token :=
  field.attrs.flatMap Attribute.tokens ++ field.visibility ++
    .word field.name :: .mark ':' false :: field.type.tokens

def recordTokens (fields : Listed FieldDeclaration) : List Token :=
  [Token.braces ((fields.map FieldDeclaration.tokens).tokens ',')]

def tupleTokens (fields : Listed FieldType) : List Token :=
  [Token.parens ((fields.map FieldType.tokens).tokens ',')]

/-!
# Declarations
-/

inductive Body where
  | record (fields : Listed FieldDeclaration)
  | tuple (fields : Listed FieldType)
  | unit
  | choice (variants : Listed (List Token))
  | union (fields : Listed FieldDeclaration)

structure Declaration where
  attrs : List Attribute
  visibility : List Token
  name : String
  parameters : Parameters
  body : Body

namespace Body

def keyword : Body -> String
  | .choice _ => "enum"
  | .union _ => "union"
  | _ => "struct"

/-- The body together with the clause of further bounds, which follows fields without names and
comes before all else. -/
def tokens (condition : List Token) : Body -> List Token
  | .record fields => condition ++ recordTokens fields
  | .tuple fields => tupleTokens fields ++ condition ++ [.mark ';' false]
  | .unit => condition ++ [.mark ';' false]
  | .choice variants => condition ++ [Token.braces (variants.tokens ',')]
  | .union fields => condition ++ recordTokens fields

end Body

def Declaration.tokens (declaration : Declaration) : List Token :=
  declaration.attrs.flatMap Attribute.tokens ++ declaration.visibility ++
    [.word declaration.body.keyword, .word declaration.name] ++
    declaration.parameters.declared ++
    declaration.body.tokens declaration.parameters.condition

end Source
end Criteria
