import Criteria.Fault
import Criteria.Fragment
import Criteria.Naming
import Criteria.Text.Blank

/-!
# Entity paths

A path such as `user,role,perm` names a chain of entities from the one that is asked for to the
one that is tested.  A token is an entity, `entity->key` if this entity refers to the next one by
a key, or `key<-entity` if the next one refers to this one.  Without a key the two entities are
related through a bridge table.

A path selects the entities at its start from which an entity at its end can be reached, as a
membership test in nested selections.
-/

namespace Criteria

open Text

/-!
# Tokens
-/

inductive PathToken where
  | plain (entity : String)
  | refersToNext (entity key : String)
  | referredByNext (key entity : String)
deriving DecidableEq, Repr

namespace PathToken

def entity : PathToken -> String
  | .plain entity => entity
  | .refersToNext entity _ => entity
  | .referredByNext _ entity => entity

def isPlain : PathToken -> Bool
  | .plain _ => true
  | _ => false

def isEntityChar (c : Char) : Bool :=
  c.isAlphanum || c == '_'

def leftArrow : List Char :=
  ['<', '-']

def rightArrow : List Char :=
  ['-', '>']

/-- The entity of a token and, on its side, the key, as they stand; an arrow to the right is
looked for first. -/
def cut (token : List Char) : List Char × Option (Bool × List Char) :=
  match cutFirst? rightArrow token with
  | some parts => (trimChars parts.1, some (true, trimChars parts.2))
  | none =>
      match cutFirst? leftArrow token with
      | some parts => (trimChars parts.2, some (false, trimChars parts.1))
      | none => (token, none)

def read (token : List Char) : Except PathFault PathToken :=
  if token.isEmpty then
    .error .emptyToken
  else
    let (entity, key?) := cut token
    if entity.isEmpty then
      .error (.noEntity (String.ofList token))
    else if key?.any fun key => key.2.isEmpty then
      .error (.noKey (String.ofList token))
    else if entity.all isEntityChar then
      let name := String.ofList entity
      match key? with
      | none => .ok (.plain name)
      | some (true, key) => .ok (.refersToNext name (String.ofList key))
      | some (false, key) => .ok (.referredByNext (String.ofList key) name)
    else
      .error (.badEntity (String.ofList entity))

end PathToken

/-!
# Stops and hops
-/

structure Stop where
  domain : String
  table : String
deriving DecidableEq, Repr

/-- How two neighbours on a path are related: through a bridge table with a column for each of
them, by a column of the left one, or by a column of the right one. -/
inductive Link where
  | bridge (leftKey rightKey table : String)
  | leftKey (column : String)
  | rightKey (column : String)
deriving DecidableEq, Repr

structure Hop where
  link : Link
  stop : Stop
deriving DecidableEq, Repr

structure Path where
  raw : String
  root : Stop
  first : Hop
  rest : List Hop
deriving DecidableEq, Repr

namespace Stop

def ofToken (naming : Naming) (token : PathToken) : Stop :=
  let domain := naming.column token.entity
  ⟨domain, naming.domainTable domain⟩

end Stop

namespace Link

def ofToken (naming : Naming) (token : PathToken) (left right : Stop) : Link :=
  match token with
  | .plain _ =>
      .bridge (naming.bridgeKey left.domain) (naming.bridgeKey right.domain)
        (naming.bridgeTable left.domain right.domain)
  | .refersToNext _ key => .leftKey (naming.column key)
  | .referredByNext key _ => .rightKey (naming.column key)

end Link

namespace Path

/-!
# Reading
-/

def readHops (naming : Naming) (token : PathToken) (stop : Stop) :
    List (List Char) -> Except PathFault (List Hop)
  | [] => if token.isPlain then .ok [] else .error .keyOnLast
  | piece :: pieces => do
      let next ← PathToken.read piece
      let nextStop := Stop.ofToken naming next
      let hops ← readHops naming next nextStop pieces
      return ⟨Link.ofToken naming token stop nextStop, nextStop⟩ :: hops

def readPieces (naming : Naming) (raw : String) (piece second : List Char)
    (pieces : List (List Char)) : Except PathFault Path := do
  let token ← PathToken.read piece
  let next ← PathToken.read second
  let root := Stop.ofToken naming token
  let stop := Stop.ofToken naming next
  let hops ← readHops naming next stop pieces
  return ⟨raw, root, ⟨Link.ofToken naming token root stop, stop⟩, hops⟩

def parse (naming : Naming) (raw : String) : Except Fault Path :=
  match (split ',' raw.toList).map trimChars with
  | piece :: second :: pieces =>
      match readPieces naming raw piece second pieces with
      | .ok path => .ok path
      | .error reason => .error (.path raw reason)
  | _ => .error (.shortPath raw)

/-!
# Views
-/

def hops (path : Path) : List Hop :=
  path.first :: path.rest

def stops (path : Path) : List Stop :=
  path.root :: path.hops.map Hop.stop

def domains (path : Path) : List String :=
  path.stops.map Stop.domain

def tables (path : Path) : List String :=
  path.stops.map Stop.table

def length (path : Path) : Nat :=
  path.hops.length

def target (path : Path) : Stop :=
  (path.hops.getLast?.map Hop.stop).getD path.root

end Path

/-- A link as a table that relates two columns of identities: that of the left entity and that of
the right one. -/
structure Relation where
  link : Link
  localKey : String
  foreignKey : String
  table : String
deriving DecidableEq, Repr

def Hop.relation (hop : Hop) (left : Stop) : Relation :=
  match hop.link with
  | .bridge leftKey rightKey table => ⟨hop.link, leftKey, rightKey, table⟩
  | .leftKey column => ⟨hop.link, identityColumn, column, left.table⟩
  | .rightKey column => ⟨hop.link, column, identityColumn, hop.stop.table⟩

def Path.relationsFrom (left : Stop) : List Hop -> List Relation
  | [] => []
  | hop :: hops => hop.relation left :: relationsFrom hop.stop hops

def Path.relations (path : Path) : List Relation :=
  Path.relationsFrom path.root path.hops

end Criteria
