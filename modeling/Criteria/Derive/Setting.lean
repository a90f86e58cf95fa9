import Criteria.Derive.Key
import Criteria.Source.Declaration

/-!
# Settings of fields

The list of a field's attribute has settings with commas between them: a key alone, or a key set
equal to a text.  Only the first fault of a list is reported; what precedes it holds.
-/

namespace Criteria
namespace Derive

open Source

inductive KeyForm where
  | alone
  | text
deriving DecidableEq, Repr

structure Setting where
  key : String
  text : Option String
deriving DecidableEq, Repr

structure Grammar where
  keys : List (String × KeyForm)
  unknown : WrongSetting

namespace Setting

def cutText : List Token -> Except WrongSetting (String × List Token)
  | .mark '=' _ :: .literal _ (.string value) :: rest => .ok (value, rest)
  | .mark '=' _ :: rest => .error (.noText rest.isEmpty)
  | _ => .error (.noSign '=')

def cut (grammar : Grammar) (tokens : List Token) :
    Except WrongSetting (Setting × List Token) := do
  let (key, rest) ← Key.cut tokens
  match grammar.keys.find? fun entry => key.isWord entry.1 with
  | none => .error grammar.unknown
  | some (name, .alone) => return (⟨name, none⟩, rest)
  | some (name, .text) => do
      let (text, rest) ← cutText rest
      return (⟨name, some text⟩, rest)

/-- The settings of a list and its first fault, in at most `steps` steps. -/
def listFrom (grammar : Grammar) (steps : Nat) (tokens : List Token) :
    List Setting × Option WrongSetting :=
  match steps, tokens with
  | _, [] => ([], none)
  | 0, _ => ([], some .noKey)
  | steps + 1, tokens =>
      match cut grammar tokens with
      | .error fault => ([], some fault)
      | .ok (setting, rest) =>
          match rest, afterComma? rest with
          | [], _ => ([setting], none)
          | _, some rest =>
              let (settings, fault) := listFrom grammar steps rest
              (setting :: settings, fault)
          | _, none => ([setting], some (.noSign ','))

def ofAttribute (grammar : Grammar) (name : String) (attr : Attribute) :
    List Setting × Option WrongSetting :=
  match attr.form with
  | .bare => ([], some (.noList name))
  | .value _ => ([], some (.valueForList name))
  | .list _ inner => listFrom grammar inner.length inner

end Setting

/-!
# Looking settings up
-/

def isSet (settings : List Setting) (key : String) : Bool :=
  settings.any fun setting => setting.key == key

/-- The text that a key is set equal to; the last setting counts. -/
def textOf? (settings : List Setting) (key : String) : Option String :=
  (settings.reverse.find? fun setting => setting.key == key).bind Setting.text

end Derive
end Criteria
