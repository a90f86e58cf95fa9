import Criteria.Source.Rules.Attribute

/-!
# Rules for imports

What an import names: a path with a name, all names or a group of further imports at its end.
-/

namespace Criteria
namespace Source
namespace Rules

open Scan

def importedName : Scan (List Token) := do
  let word ← keyword "as"
  let tokens ← get
  if Ahead.name tokens || Ahead.word "_" tokens then
    return word ++ [.word (← anyWord)]
  else
    want ["identifier or underscore"]

def groupedImport (rules : Rules) (root : Bool) : Scan (Option (List Token)) := do
  if root && (← sees (Ahead.sign [':', ':'])) then
    let _ ← sign [':', ':']
    let _ ← rules.imported false
    return none
  else
    rules.imported root

def importGroup (rules : Rules) (root : Bool) : Scan (Option (List Token)) :=
  group .curly do
    let found ← commaList (rules.groupedImport root)
    return (found.items.mapM id).map fun items =>
      [Token.braces (Listed.tokens ',' ⟨items, found.trailing⟩)]

/-- What an import names, unless a part of it begins at the root. -/
def importedForm (rules : Rules) (root : Bool) : Scan (Option (List Token)) := do
  let tokens ← get
  if Ahead.nameOrPlace tokens || Ahead.word "try" tokens then
    let word := [Token.word (← anyWord)]
    if ← sees (Ahead.sign [':', ':']) then
      let colons ← sign [':', ':']
      return (← rules.imported false).map fun rest => word ++ colons ++ rest
    else if ← sees (Ahead.word "as") then
      return some (word ++ (← importedName))
    else
      return some word
  else if Ahead.sign ['*'] tokens then
    return some (← sign ['*'])
  else if Ahead.group .curly tokens then
    rules.importGroup root
  else
    want ["identifier", "`self`", "`super`", "`crate`", "`try`", "`*`", "curly braces"]

def useItem (rules : Rules) (visibility : List Token) : Scan (Option (List Token)) := do
  let word ← keyword "use"
  let root ← sign? [':', ':']
  let found ← rules.imported root.isEmpty
  let ending ← sign [';']
  return found.map fun tokens => visibility ++ word ++ root ++ tokens ++ ending

end Rules
end Source
end Criteria
