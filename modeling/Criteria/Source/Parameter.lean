import Criteria.Source.Attribute
import Criteria.Source.TypeExpr

/-!
# Parameters

The parameters that a declaration is general in: lifetimes, types and constants.  Lifetimes come
before all else.
-/

namespace Criteria
namespace Source

/-- A parameter of a declaration.  A list of bounds is empty where none are written, and so is a
default. -/
inductive Parameter where
  | lifetime (attrs : List Attribute) (text : String) (bounds : List Token)
  | type (attrs : List Attribute) (name : String) (bounds default : List Token)
  | constant (attrs : List Attribute) (name : String) (valueType : TypeExpr)
      (default : List Token)

namespace Parameter

def isLifetime : Parameter -> Bool
  | .lifetime .. => true
  | _ => false

def bounded (bounds : List Token) : List Token :=
  if bounds.isEmpty then [] else .mark ':' false :: bounds

def defaulted (default : List Token) : List Token :=
  if default.isEmpty then [] else .mark '=' false :: default

def binder : Parameter -> List Token
  | .lifetime attrs text bounds =>
      attrs.flatMap Attribute.tokens ++ .lifetime text :: bounded bounds
  | .type attrs name bounds .. =>
      attrs.flatMap Attribute.tokens ++ .word name :: bounded bounds
  | .constant attrs name valueType _ =>
      attrs.flatMap Attribute.tokens ++
        .word "const" :: .word name :: .mark ':' false :: valueType.tokens

def default : Parameter -> List Token
  | .lifetime .. => []
  | .type _ _ _ default => defaulted default
  | .constant _ _ _ default => defaulted default

def argument : Parameter -> List Token
  | .lifetime _ text _ => [.lifetime text]
  | .type _ name _ _ => [.word name]
  | .constant _ name _ _ => [.word name]

end Parameter

structure Parameters where
  list : List Parameter
  trailing : Bool
  condition : List Token

namespace Parameters

def angled (parameters : Parameters) (print : Parameter -> List Token) : List Token :=
  if parameters.list.isEmpty then
    []
  else
    ListItem.angled parameters.trailing
      (parameters.list.map fun parameter => ⟨parameter.isLifetime, print parameter⟩)

def declared (parameters : Parameters) : List Token :=
  parameters.angled fun parameter => parameter.binder ++ parameter.default

def binders (parameters : Parameters) : List Token :=
  parameters.angled Parameter.binder

def arguments (parameters : Parameters) : List Token :=
  parameters.angled Parameter.argument

end Parameters
end Source
end Criteria
