import QueryRewriting.Json.Printer
import QueryRewriting.Expr.Basic

/-!
The text of a query tree, for messages, logs and explanations. An operator call is written as a
method of its first argument.
-/

namespace QueryRewriting.Expr

/-- Texts with commas and blanks between them. -/
def commaJoined (texts : List String) : String := String.intercalate ", " texts

mutual

/-- The text of a query tree. -/
def text : Expr → String
  | .value _ content => content.text
  | .queryable _ _ _ expression => "const(" ++ expression.text ++ ")"
  | .parameter _ name => name
  | .member _ target name => target.text ++ "." ++ name
  | .source _ qualifier name args =>
    "source(" ++ commaJoined (qualifiedName qualifier name :: texts args) ++ ")"
  | .native _ _ name => "native(" ++ name ++ ")"
  | .call _ method args =>
    match texts args with
    | [] => method.name ++ "()"
    | first :: rest => first ++ "." ++ method.name ++ "(" ++ commaJoined rest ++ ")"
  | .lambda _ param body => param ++ " => " ++ body.text
  | .binary _ op left right => "(" ++ left.text ++ " " ++ op.symbol ++ " " ++ right.text ++ ")"
  | .not _ operand => "!" ++ operand.text

/-- The texts of several query trees. -/
def texts : List Expr → List String
  | [] => []
  | e :: rest => e.text :: texts rest

end

end QueryRewriting.Expr
