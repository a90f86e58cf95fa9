import Criteria.Source.Complaint
import Criteria.Source.Expression

/-!
# Rejections

Why nothing can be derived from a declaration, and the message of each reason.
-/

namespace Criteria
namespace Derive

open Source

inductive WrongShape where
  | choice
  | union
  | unit
  | single
  | tuple
deriving DecidableEq, Repr

inductive WrongSetting where
  | noList (attr : String)
  | valueForList (attr : String)
  | noKey
  | literalForKey
  | signForKey
  | noName (atEnd : Bool)
  | noSign (symbol : Char)
  | noText (atEnd : Bool)
  | queryKey
  | columnKey
deriving DecidableEq, Repr

inductive WrongHeading where
  | value (attr : String)
  | unread (complaint : Complaint)
  | literal
  | form (found key : String)
  | unreadList (complaint : Complaint) (key : String)
  | type (found : ExpressionForm) (key : String)
  | unknown (text key : String)
  | repeated (key : String)
deriving DecidableEq, Repr

inductive Rejection where
  | heading (fault : WrongHeading)
  | shape (found : WrongShape)
  | setting (fault : WrongSetting)
  | manyRoles
  | scalarAndNested
  | manyPages
  | generic
  | identityEmbedded
  | identityInPart
  | identities
deriving DecidableEq, Repr

/-!
# Messages
-/

def WrongShape.message : WrongShape -> String
  | .choice => "Unsupported shape `enum`. Expected struct with named fields."
  | .union => "Unsupported shape `union`. Expected struct with named fields."
  | .unit => "Unsupported shape `no fields`. Expected named fields."
  | .single => "Unsupported shape `one unnamed field`. Expected named fields."
  | .tuple => "Unsupported shape `unnamed fields`. Expected named fields."

def expected (atEnd : Bool) (what : String) : String :=
  if atEnd then "unexpected end of input, " ++ what else what

def WrongSetting.message : WrongSetting -> String
  | .noList attr =>
      "expected attribute arguments in parentheses: #[" ++ attr ++ "(...)]"
  | .valueForList attr => "expected parentheses: #[" ++ attr ++ "(...)]"
  | .noKey => expected true "expected nested attribute"
  | .literalForKey => "unexpected literal in nested attribute, expected ident"
  | .signForKey => "unexpected token in nested attribute, expected ident"
  | .noName atEnd => expected atEnd "expected ident"
  | .noSign symbol => "expected `" ++ String.singleton symbol ++ "`"
  | .noText atEnd => expected atEnd "expected string literal"
  | .queryKey => "unknown query attribute"
  | .columnKey => "expected `name = \"..\"` or `skip`"

def literalKind : Literal -> String
  | .string _ => "string"
  | .integer _ _ => "int"
  | .decimal => "float"
  | .character => "char"
  | .byte => "byte"
  | .bytes => "byte string"
  | .ended => "unknown"
  | .other => "verbatim"

def valueKind : ExpressionForm -> String
  | .array => "array"
  | .assignment => "assign"
  | .asyncBlock => "async"
  | .await => "await"
  | .binary _ => "binary"
  | .block => "block"
  | .leave => "break"
  | .call => "call"
  | .cast => "cast"
  | .closure => "closure"
  | .constantBlock => "const"
  | .resume => "continue"
  | .field => "field"
  | .forLoop => "for_loop"
  | .conditional => "if"
  | .index => "index"
  | .hole => "infer"
  | .condition => "let"
  | .literal literal => literalKind literal
  | .truth _ => "bool"
  | .loop => "loop"
  | .macroCall _ => "macro"
  | .choice => "match"
  | .methodCall => "method_call"
  | .parens => "paren"
  | .path => "path"
  | .range => "range"
  | .address => "unknown"
  | .reference => "reference"
  | .repetition => "repeat"
  | .result => "return"
  | .record => "struct"
  | .attempt => "try"
  | .attemptBlock => "try_block"
  | .tuple => "tuple"
  | .prefixed => "unary"
  | .uncheckedBlock => "unsafe"
  | .verbatim => "verbatim"
  | .whileLoop => "while"
  | .yielded => "yield"

def WrongHeading.message : WrongHeading -> String
  | .value attr =>
      "Name-value arguments are not supported. Use #[" ++ attr ++ "(...)]"
  | .unread complaint => complaint.message
  | .literal => "Unexpected meta-item format `literal`"
  | .form found key => "Unexpected meta-item format `" ++ found ++ "` at " ++ key
  | .unreadList complaint key => complaint.message ++ " at " ++ key
  | .type found key => "Unexpected type `" ++ valueKind found ++ "` at " ++ key
  | .unknown text key => "Unknown value: `" ++ text ++ "` at " ++ key
  | .repeated key => "Duplicate field `" ++ key ++ "`"

def Rejection.message : Rejection -> String
  | .heading fault => fault.message
  | .shape found => found.message
  | .setting fault => fault.message
  | .manyRoles => "page, flatten, path, subquery and condition are mutually exclusive"
  | .scalarAndNested => "scalar and nested are mutually exclusive"
  | .manyPages => "Query allows at most one paging field"
  | .generic => "Entity cannot be derived for generic structs"
  | .identityEmbedded => "#[id] and #[embed] cannot be combined"
  | .identityInPart => "embeddable structs cannot declare an #[id] field"
  | .identities => "Entity must have exactly one field with #[id] attribute"

end Derive
end Criteria
