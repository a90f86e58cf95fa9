import Criteria.Fault

/-!
# Events

What happens while queries are compiled that a caller may want to know: what was prepared for a
type, and what was left out.
-/

namespace Criteria

inductive Event where
  | planPrepared (typeName : String) (fields : Nat)
  | layoutPrepared (typeName table : String)
  | fieldSkipped (typeName field : String) (fault : Fault)
  | contentMisfit (typeName field : String)
  | hopIgnored (typeName field : String) (index : Nat) (path : String)
  | sortKeyDropped (fault : Fault)
deriving DecidableEq, Repr

inductive Level where
  | debug
  | warn
deriving DecidableEq, Repr

namespace Event

def level : Event -> Level
  | .planPrepared .. | .layoutPrepared .. => .debug
  | _ => .warn

def message : Event -> String
  | .planPrepared .. => "compiled query plan"
  | .layoutPrepared .. => "compiled entity metadata"
  | .fieldSkipped .. => "skipping query field"
  | .contentMisfit .. => "field value does not fit its processor"
  | .hopIgnored .. => "ignoring path filter outside the traversed hops"
  | .sortKeyDropped .. => "dropping sort entry"

def particulars : Event -> List (String × String)
  | .planPrepared typeName fields => [("type_name", typeName), ("fields", toString fields)]
  | .layoutPrepared typeName table => [("type_name", typeName), ("table", table)]
  | .fieldSkipped typeName field fault =>
      [("type_name", typeName), ("field", field), ("err", fault.message)]
  | .contentMisfit typeName field => [("type_name", typeName), ("field", field)]
  | .hopIgnored typeName field index path =>
      [("type_name", typeName), ("field", field), ("index", toString index), ("path", path)]
  | .sortKeyDropped fault => [("err", fault.message)]

end Event
end Criteria
