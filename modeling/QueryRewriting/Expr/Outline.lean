import QueryRewriting.Expr.Text

/-!
The outline of a query tree: one line for each node, in the order in which a tree is read, with
what the node is and its static type.
-/

namespace QueryRewriting.Expr

open Json

/-- The kind of a node. -/
def kind : Expr → String
  | .value .. => "const"
  | .queryable .. => "queryable"
  | .parameter .. => "param"
  | .member .. => "member"
  | .source .. => "source"
  | .native .. => "native"
  | .call .. => "call"
  | .lambda .. => "lambda"
  | .binary .. => "binary"
  | .not .. => "not"

/-- What a node is besides its kind and its children. -/
def detail? : Expr → Option String
  | .value _ content => some content.text
  | .queryable _ proxy element _ => some ("@" ++ proxy.label ++ ", " ++ element.text)
  | .parameter _ name => some name
  | .member _ _ name => some name
  | .source _ qualifier name _ => some (qualifiedName qualifier name)
  | .native _ proxy name => some (name ++ "@" ++ proxy.label)
  | .call _ method args => some (method.name ++ "/" ++ toString args.length)
  | .lambda _ param _ => some param
  | .binary _ op _ _ => some op.symbol
  | .not .. => none

/-- A node by itself. -/
def label (e : Expr) : String :=
  match e.detail? with
  | some detail => e.kind ++ "(" ++ detail ++ ")"
  | none => e.kind

/-- A node by itself, with its static type. -/
def line (e : Expr) : String := e.label ++ ": " ++ e.type.text

mutual

/-- The lines of a tree before lines that are there already. -/
def linesOnto (e : Expr) (below : List String) : List String :=
  match e with
  | .value .. | .queryable .. | .parameter .. | .native .. => e.line :: below
  | .member _ target _ => e.line :: linesOnto target below
  | .source _ _ _ args => e.line :: allLinesOnto args below
  | .call _ _ args => e.line :: allLinesOnto args below
  | .lambda _ _ body => e.line :: linesOnto body below
  | .binary _ _ left right => e.line :: linesOnto left (linesOnto right below)
  | .not _ operand => e.line :: linesOnto operand below

/-- The lines of several trees before lines that are there already. -/
def allLinesOnto : List Expr → List String → List String
  | [], below => below
  | e :: rest, below => linesOnto e (allLinesOnto rest below)

end

mutual

theorem linesOnto_eq : (e : Expr) → (below : List String) →
    linesOnto e below = e.nodes.map line ++ below
  | .value .., _ | .queryable .., _ | .parameter .., _ | .native .., _ => by
    simp [linesOnto, nodes]
  | .member _ target _, below => by simp [linesOnto, nodes, linesOnto_eq target]
  | .source _ _ _ args, below => by simp [linesOnto, nodes, allLinesOnto_eq args]
  | .call _ _ args, below => by simp [linesOnto, nodes, allLinesOnto_eq args]
  | .lambda _ _ body, below => by simp [linesOnto, nodes, linesOnto_eq body]
  | .binary _ _ left right, below => by
    simp [linesOnto, nodes, linesOnto_eq left, linesOnto_eq right]
  | .not _ operand, below => by simp [linesOnto, nodes, linesOnto_eq operand]

theorem allLinesOnto_eq : (es : List Expr) → (below : List String) →
    allLinesOnto es below = (nodesOf es).map line ++ below
  | [], _ => rfl
  | e :: rest, below => by simp [allLinesOnto, nodesOf, linesOnto_eq e, allLinesOnto_eq rest]

end

/-- The lines of a tree. -/
def outline (e : Expr) : List String := e.linesOnto []

theorem outline_eq (e : Expr) : e.outline = e.nodes.map line := by
  simp [outline, linesOnto_eq]

/-- The JSON form of a tree: its text, its static type and its outline. -/
def toValue (e : Expr) : Value :=
  Value.ofMembers [("text", .string e.text), ("type", .string e.type.text),
    ("nodes", .array (e.outline.map .string))]

end QueryRewriting.Expr
