import Criteria.Source.Token

/-!
# Types as they are written

A type is mostly a path whose last part names it, `std::option::Option<T>`.  References and
parentheses are seen through where that name is asked for; of every other form only the tokens
are kept.  Nothing is known here about what a name means.
-/

namespace Criteria
namespace Source

/-!
# Types
-/

inductive PathRoot where
  | here
  | global
  | inType (tokens : List Token)

mutual

inductive TypeExpr where
  | path (root : PathRoot) (parents : List Segment) (last : Segment)
  | reference (lifetime : Option String) (isMutable : Bool) (target : TypeExpr)
  | parens (inner : TypeExpr)
  | trait (isEnclosed : Bool) (tokens : List Token)
  | other (tokens : List Token)

/-- A part of a path.  Arguments may be announced by `::`, and a comma may follow the last one. -/
inductive Segment where
  | plain (name : String)
  | applied (name : String) (announced : Bool) (arguments : List Argument) (trailing : Bool)

inductive Argument where
  | lifetime (text : String)
  | type (type : TypeExpr)
  | other (tokens : List Token)

end

/-!
# Tokens
-/

structure ListItem where
  isLifetime : Bool
  tokens : List Token

namespace ListItem

def withCommas (trailing : Bool) : List ListItem -> List (ListItem × Bool)
  | [] => []
  | [item] => [(item, trailing)]
  | item :: next :: rest => (item, true) :: withCommas trailing (next :: rest)

def tokensOf (items : List (ListItem × Bool)) : List Token :=
  items.flatMap fun item => item.1.tokens ++ if item.2 then [.comma] else []

/-- The inside of a list between angle brackets: lifetimes come before all else, and each item
keeps the comma that it has. -/
def inside (trailing : Bool) (items : List ListItem) : List Token :=
  let paired := withCommas trailing items
  let lifetimes := paired.filter fun item => item.1.isLifetime
  let others := paired.filter fun item => !item.1.isLifetime
  let between :=
    match lifetimes.getLast? with
    | some (_, false) => if others.isEmpty then [] else [Token.comma]
    | _ => []
  tokensOf lifetimes ++ between ++ tokensOf others

def angled (trailing : Bool) (items : List ListItem) : List Token :=
  .mark '<' false :: (inside trailing items ++ [.mark '>' false])

end ListItem

def PathRoot.tokens : PathRoot -> List Token
  | .here => []
  | .global => Token.colons
  | .inType tokens => .mark '<' false :: (tokens ++ .mark '>' false :: Token.colons)

mutual

def TypeExpr.tokens : TypeExpr -> List Token
  | .path root parents last => root.tokens ++ Segment.parentTokens parents ++ last.tokens
  | .reference lifetime isMutable target =>
      .mark '&' false ::
        (lifetime.toList.map .lifetime ++ (if isMutable then [.word "mut"] else []) ++
          target.tokens)
  | .parens inner => [.parens inner.tokens]
  | .trait isEnclosed tokens => if isEnclosed then [.parens tokens] else tokens
  | .other tokens => tokens

def Segment.tokens : Segment -> List Token
  | .plain name => [.word name]
  | .applied name announced arguments trailing =>
      .word name ::
        ((if announced then Token.colons else []) ++
          ListItem.angled trailing (Argument.items arguments))

def Segment.parentTokens : List Segment -> List Token
  | [] => []
  | segment :: rest => segment.tokens ++ Token.colons ++ Segment.parentTokens rest

def Argument.item : Argument -> ListItem
  | .lifetime text => ⟨true, [.lifetime text]⟩
  | .type type => ⟨false, type.tokens⟩
  | .other tokens => ⟨false, tokens⟩

def Argument.items : List Argument -> List ListItem
  | [] => []
  | argument :: rest => argument.item :: Argument.items rest

end

/-!
# Names
-/

namespace Segment

def name : Segment -> String
  | .plain name => name
  | .applied name .. => name

def firstType? : Segment -> Option TypeExpr
  | .applied _ _ (.type type :: _) _ => some type
  | _ => none

end Segment

namespace TypeExpr

def lastName? : TypeExpr -> Option String
  | .path _ _ last => some last.name
  | .reference _ _ target => target.lastName?
  | .parens inner => inner.lastName?
  | .trait .. => none
  | .other _ => none

def isNamed (type : TypeExpr) (name : String) : Bool :=
  type.lastName? == some name

def inside? (wrapper : String) : TypeExpr -> Option TypeExpr
  | .path _ _ last => if last.name = wrapper then last.firstType? else none
  | _ => none

theorem sizeOf_inside?_lt
    {wrapper : String} {type inner : TypeExpr}
    (h : type.inside? wrapper = some inner) :
    sizeOf inner < sizeOf type := by
  cases type with
  | path root parents last =>
      cases last with
      | plain name => simp [inside?, Segment.firstType?] at h
      | applied name announced arguments trailing =>
          cases arguments with
          | nil => simp [inside?, Segment.firstType?] at h
          | cons argument rest =>
              cases argument with
              | lifetime text => simp [inside?, Segment.firstType?] at h
              | other tokens => simp [inside?, Segment.firstType?] at h
              | type first =>
                  have hfirst : first = inner := by
                    by_cases hname : name = wrapper
                    · simpa [inside?, Segment.name, Segment.firstType?, hname] using h
                    · simp [inside?, Segment.name, hname] at h
                  subst hfirst
                  simp
                  omega
  | reference lifetime isMutable target => simp [inside?] at h
  | parens inner => simp [inside?] at h
  | trait isEnclosed tokens => simp [inside?] at h
  | other tokens => simp [inside?] at h

def optionInside? (type : TypeExpr) : Option TypeExpr :=
  type.inside? "Option"

def listInside? (type : TypeExpr) : Option TypeExpr :=
  type.inside? "Vec"

def unboxed (type : TypeExpr) : TypeExpr :=
  match _h : type.inside? "Box" with
  | some inner => inner.unboxed
  | none => type
termination_by sizeOf type
decreasing_by exact sizeOf_inside?_lt _h

/-!
# Classes of types
-/

def isFlag : TypeExpr -> Bool
  | .path .here [] (.plain name) => name == "bool"
  | _ => false

def scalarNames : List String :=
  [ "bool", "char", "i8", "i16", "i32", "i64", "isize", "u8", "u16", "u32", "u64", "usize"
  , "f32", "f64", "String", "str", "Uuid", "DateTime", "NaiveDate", "NaiveDateTime", "NaiveTime"
  , "Value" ]

/-- Types whose values are bound as one argument.  Of lists these are the lists of bytes; an
optional type is what its inside is. -/
def isScalar (type : TypeExpr) : Bool :=
  match type.listInside? with
  | some element => element.isNamed "u8"
  | none =>
      match _h : type.optionInside? with
      | some inner => inner.isScalar
      | none => type.unboxed.lastName?.any scalarNames.contains
termination_by sizeOf type
decreasing_by exact sizeOf_inside?_lt _h

def isPage (type : TypeExpr) : Bool :=
  type.isNamed "PageQuery" || type.optionInside?.any fun inner => inner.isNamed "PageQuery"

def isHops (type : TypeExpr) : Bool :=
  type.isNamed "PathQuery"

end TypeExpr
end Source
end Criteria
