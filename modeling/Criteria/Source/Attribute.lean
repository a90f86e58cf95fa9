import Criteria.Source.Token

/-!
# Attributes

An attribute says something about what follows it.
-/

namespace Criteria
namespace Source

inductive AttributeForm where
  | bare
  | list (delimiter : Delimiter) (inner : List Token)
  | value (tokens : List Token)

structure Attribute where
  isGlobal : Bool
  path : List String
  form : AttributeForm

namespace Attribute

def isNamed (attr : Attribute) (name : String) : Bool :=
  !attr.isGlobal && attr.path == [name]

def formTokens : AttributeForm -> List Token
  | .bare => []
  | .list delimiter inner => [.group delimiter inner]
  | .value tokens => .mark '=' false :: tokens

def inside (attr : Attribute) : List Token :=
  let path := Token.colons.intercalate (attr.path.map fun name => [Token.word name])
  let root := if attr.isGlobal then Token.colons else []
  root ++ path ++ formTokens attr.form

def tokens (attr : Attribute) : List Token :=
  [.mark '#' false, Token.brackets attr.inside]

def innerTokens (attr : Attribute) : List Token :=
  [.mark '#' false, .mark '!' false, Token.brackets attr.inside]

end Attribute
end Source
end Criteria
