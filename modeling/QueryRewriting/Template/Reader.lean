import QueryRewriting.Template.Basic

/-!
The JSON form of templates: an object whose member `k` says what the template is. A chain of query
operators is written as its source and the list of its steps.
-/

namespace QueryRewriting.Template

open Json

/-- The members that say something in the form of some template. -/
def memberNames : List String :=
  ["k", "v", "name", "ty", "of", "ns", "args", "proxy", "elem", "expr", "m", "src", "ops", "p",
   "body", "op", "l", "r", "x", "times", "id", "i"]

/-- The members of a step. -/
def stepNames : List String := ["m", "n", "x", "times"]

/-- Reads a type: its text, or its JSON form. -/
def readType : Reader QueryType
  | _, .string (some text) => .ok (.ofText text)
  | room, document => QueryType.read room document

/-- Reads a proxy by its label. -/
def readProxy : Reader ProxyId := fun room document => ProxyId.mk <$> Reader.string room document

/-- Reads an operator by its name. -/
def readMethod : Reader Method :=
  Reader.constant (Method.all.map fun method => (method.name, method))

/-- Reads a binary operator by its symbol. -/
def readOp : Reader BinaryOp := Reader.constant (BinaryOp.all.map fun op => (op.symbol, op))

/-- A chain of query operators from its source on. -/
def chain (start : Template) (steps : List (Method × List Template × Nat)) : Template :=
  steps.foldl (fun start (method, more, times) => .step start method more times) start

/-- Reads a template. -/
def read : Reader Template
  | 0, _ => .error .tooDeep
  | room + 1, .object members => do
    let inner : Reader Template := fun _ document => read room document
    let fields : Reader.Fields := ⟨room + 1, ← Reader.knownMembers memberNames members⟩
    let name := fields.required "name" Reader.string
    let type := fields.required "ty" readType
    let args := fields.orElse "args" (Reader.list inner) []
    let qualifier := fields.optional "ns" Reader.string
    let proxy := fields.orElse "proxy" readProxy ⟨"store"⟩
    let times := fields.orElse "times" Reader.count 1
    match ← fields.required "k" Reader.string with
    | "const" => return .constant (← fields.required "v" Reader.value)
    | "param" => return .parameter (← name) (← type)
    | "member" => return .member (← fields.required "of" inner) (← name) (← type)
    | "source" => return .source (← qualifier) (← name) (← args) (← type)
    | "native" => return .native (← proxy) (← name) (← type)
    | "queryable" =>
      return .queryable (← proxy) (← fields.required "elem" readType)
        (← fields.required "expr" inner)
    | "call" => return .call (← fields.required "m" readMethod) (← args)
    | "pipe" =>
      let start ← fields.required "src" inner
      return chain start (← fields.required "ops" (Reader.list (readStep inner)))
    | "lambda" =>
      return .lambda (← fields.required "p" Reader.string) (← fields.required "body" inner)
    | "bin" =>
      return .binary (← fields.required "op" readOp) (← fields.required "l" inner)
        (← fields.required "r" inner)
    | "not" => return .not (← fields.required "x" inner) (← times)
    | "as" => return .retyped (← fields.required "x" inner) (← type)
    | "ref" => return .shared (← fields.required "id" Reader.string)
    | "msource" => return .named (← name)
    | "mfunc" => return .function (← qualifier) (← name) (← args)
    | "mprop" => return .property (← fields.required "of" inner) (← name)
    | "item" => return .row
    | "node" => return .node
    | "arg" => return .argument (← fields.required "i" Reader.count)
    | _ => throw (.expected "the kind of a template")
  | _, _ => .error (.expected "a template")
where
  /-- Reads a step: an operator, its count or argument if it has one, and how often it is taken. -/
  readStep (inner : Reader Template) : Reader (Method × List Template × Nat) :=
    Reader.record stepNames fun fields => do
      let method ← fields.required "m" readMethod
      let count ← fields.find? "n" Reader.value
      let argument ← fields.find? "x" inner
      let times ← fields.orElse "times" Reader.count 1
      return (method, (count.map Template.constant <|> argument).toList, times)

end QueryRewriting.Template
