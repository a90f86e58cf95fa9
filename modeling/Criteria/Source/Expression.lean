import Criteria.Source.Token

/-!
# Expressions and patterns

Of an expression its tokens are kept and its outermost form, on which depends what may follow it.
The same holds of patterns.
-/

namespace Criteria
namespace Source

/-!
# Operators
-/

inductive Precedence where
  | jump
  | assignment
  | range
  | or
  | and
  | condition
  | comparison
  | bitOr
  | bitXor
  | bitAnd
  | shift
  | sum
  | product
  | cast
deriving DecidableEq, Repr

namespace Precedence

def rank : Precedence -> Nat
  | .jump => 0
  | .assignment => 1
  | .range => 2
  | .or => 3
  | .and => 4
  | .condition => 5
  | .comparison => 6
  | .bitOr => 7
  | .bitXor => 8
  | .bitAnd => 9
  | .shift => 10
  | .sum => 11
  | .product => 12
  | .cast => 13

end Precedence

/-- The signs of the operators between two operands.  Of two that fit the first one counts. -/
def operatorSigns : List (List Char × Precedence) :=
  [ (['+', '='], .assignment), (['-', '='], .assignment), (['*', '='], .assignment)
  , (['/', '='], .assignment), (['%', '='], .assignment), (['^', '='], .assignment)
  , (['&', '='], .assignment), (['|', '='], .assignment), (['<', '<', '='], .assignment)
  , (['>', '>', '='], .assignment), (['&', '&'], .and), (['|', '|'], .or)
  , (['<', '<'], .shift), (['>', '>'], .shift), (['=', '='], .comparison)
  , (['<', '='], .comparison), (['!', '='], .comparison), (['>', '='], .comparison)
  , (['+'], .sum), (['-'], .sum), (['*'], .product), (['/'], .product), (['%'], .product)
  , (['^'], .bitXor), (['&'], .bitAnd), (['|'], .bitOr), (['<'], .comparison)
  , (['>'], .comparison) ]

/-!
# Expressions
-/

inductive ExpressionForm where
  | array
  | assignment
  | asyncBlock
  | await
  | binary (precedence : Precedence)
  | block
  | leave
  | call
  | cast
  | closure
  | constantBlock
  | resume
  | field
  | forLoop
  | conditional
  | index
  | hole
  | condition
  | literal (literal : Literal)
  | truth (value : Bool)
  | loop
  | macroCall (delimiter : Delimiter)
  | choice
  | methodCall
  | parens
  | path
  | range
  | address
  | reference
  | repetition
  | result
  | record
  | attempt
  | attemptBlock
  | tuple
  | prefixed
  | uncheckedBlock
  | verbatim
  | whileLoop
  | yielded
deriving DecidableEq, Repr

namespace ExpressionForm

def endsItself : ExpressionForm -> Bool
  | .conditional => true
  | .choice => true
  | .block => true
  | .uncheckedBlock => true
  | .whileLoop => true
  | .loop => true
  | .forLoop => true
  | .attemptBlock => true
  | .constantBlock => true
  | _ => false

def needsSemicolon : ExpressionForm -> Bool
  | .macroCall delimiter => delimiter != .curly
  | form => !form.endsItself

end ExpressionForm

structure Expression where
  form : ExpressionForm
  tokens : List Token
  /-- Whether the first operand is kept as it is written; no attribute goes with it then. -/
  leadsVerbatim : Bool

namespace Expression

def of (form : ExpressionForm) (tokens : List Token) : Expression :=
  ⟨form, tokens, form == .verbatim⟩

def ofLiteral (tokens : List Token) : Expression :=
  match tokens with
  | [.word word] => of (.truth (word == "true")) tokens
  | [_, .literal _ kind] => of (.literal kind) tokens
  | [.literal _ kind] => of (.literal kind) tokens
  | _ => of .verbatim tokens

def endsCurly (expression : Expression) : Bool :=
  match expression.tokens.getLast? with
  | some (.group .curly _) => true
  | _ => false

end Expression

/-!
# Patterns
-/

inductive PatternForm where
  | openRange
  | verbatim
  | other
deriving DecidableEq, Repr

structure Pattern where
  form : PatternForm
  tokens : List Token

/-!
# Bounds
-/

inductive BoundForm where
  | trait
  | lifetime
  | capture
  | verbatim
deriving DecidableEq, Repr

structure Bound where
  form : BoundForm
  tokens : List Token

end Source
end Criteria
