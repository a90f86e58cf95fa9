import Criteria.Source.Token

/-!
# Complaints

Why tokens cannot be read as what is asked for, and the message of each reason.
-/

namespace Criteria
namespace Source

inductive Refusal where
  | chainedComparison
  | castFollowed (what : String)
  | unbracketedLabel
  | attributedRange
  | attributeInAttribute
  | openRangeInSlice
  | noTraitInObject
  | noTraitInOpaque
  | captureHere
  | constantHere
  | conditionalHere
  | quantifiedOption
  | parametersOfClause
  | unseparatedStatement
  | secondReceiver
  | endingOfPlace
  | largePlace
deriving DecidableEq, Repr

inductive Complaint where
  | sign (symbols : List Char)
  | wanted (things : List String) (atEnd : Bool)
  | keyword (word : String)
  | left (delimiter : Delimiter)
  | refused (refusal : Refusal)
deriving DecidableEq, Repr

/-!
# Messages
-/

def Refusal.message : Refusal -> String
  | .chainedComparison => "comparison operators cannot be chained"
  | .castFollowed what => "casts cannot be followed by " ++ what
  | .unbracketedLabel => "parentheses required"
  | .attributedRange =>
      "attributes are not allowed on range expressions starting with `..`"
  | .attributeInAttribute => "unexpected attribute inside of attribute"
  | .openRangeInSlice =>
      "range pattern is not allowed unparenthesized inside slice pattern"
  | .noTraitInObject => "at least one trait is required for an object type"
  | .noTraitInOpaque => "at least one trait must be specified"
  | .captureHere => "`use<...>` precise capturing syntax is not allowed here"
  | .constantHere => "`const` is not allowed here"
  | .conditionalHere => "`[const]` is not allowed here"
  | .quantifiedOption => "`for<...>` binder not allowed with `?` trait polarity modifier"
  | .parametersOfClause =>
      "generic parameters on `where` clauses are reserved for future use"
  | .unseparatedStatement => "unexpected token, expected `;`"
  | .secondReceiver => "unexpected method receiver"
  | .endingOfPlace => "expected unsuffixed integer"
  | .largePlace => "number too large to fit in target type"

namespace Complaint

def placed (atEnd : Bool) (message : String) : String :=
  if atEnd then "unexpected end of input, " ++ message else message

def closing : Delimiter -> String
  | .round => "`)`"
  | .square => "`]`"
  | .curly => "`\x7d`"

def joined : List String -> String
  | [] => ""
  | [thing] => thing
  | thing :: rest => thing ++ ", " ++ joined rest

def message : Complaint -> String
  | .sign symbols => "expected `" ++ String.ofList symbols ++ "`"
  | .wanted [] atEnd => if atEnd then "unexpected end of input" else "unexpected token"
  | .wanted [thing] atEnd => placed atEnd ("expected " ++ thing)
  | .wanted [first, second] atEnd => placed atEnd ("expected " ++ first ++ " or " ++ second)
  | .wanted things atEnd => placed atEnd ("expected one of: " ++ joined things)
  | .keyword word => "expected identifier, found keyword `" ++ word ++ "`"
  | .left delimiter => "unexpected token, expected " ++ closing delimiter
  | .refused refusal => refusal.message

end Complaint
end Source
end Criteria
