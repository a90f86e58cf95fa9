/-!
# Faults

What can be wrong with an annotation, a sort entry or a field, and the message of each fault.
-/

namespace Criteria

inductive PathFault where
  | emptyToken
  | noEntity (token : String)
  | noKey (token : String)
  | badEntity (name : String)
  | keyOnLast
deriving DecidableEq, Repr

inductive Obstacle where
  | declared (reason : String)
  | nullSubquery
deriving DecidableEq, Repr

inductive Fault where
  | path (raw : String) (reason : PathFault)
  | shortPath (raw : String)
  | subquery (raw : String)
  | sortKey (entry : String)
  | unsupported (typeName field : String) (obstacle : Obstacle)
deriving DecidableEq, Repr

/-!
# Messages
-/

def PathFault.message : PathFault -> String
  | .emptyToken => "empty entity name"
  | .noEntity token => "token '" ++ token ++ "' names no entity"
  | .noKey token => "token '" ++ token ++ "' names no key"
  | .badEntity name => "invalid entity name '" ++ name ++ "'"
  | .keyOnLast => "the last entity cannot carry a key marker"

def Obstacle.message : Obstacle -> String
  | .declared reason => reason
  | .nullSubquery => "a subquery cannot use the null operator"

def Fault.message : Fault -> String
  | .path raw reason => "invalid entity path '" ++ raw ++ "': " ++ reason.message
  | .shortPath raw => "entity path '" ++ raw ++ "' must name at least two entities"
  | .subquery raw =>
      "invalid subquery annotation '" ++ raw ++ "': expected 'select:<expr>,from:<entity>'"
  | .sortKey entry => "invalid sort entry '" ++ entry ++ "'"
  | .unsupported typeName field obstacle =>
      "unsupported field '" ++ field ++ "' on " ++ typeName ++ ": " ++ obstacle.message

end Criteria
