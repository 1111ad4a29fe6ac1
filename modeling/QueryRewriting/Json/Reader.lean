import QueryRewriting.Json.Parser

/-!
Reading typed data from documents. A reader gets the nesting that is left and a document. Nothing
is converted: a string is not a number and `1.0` is not a count. A record may be written as an
object, where unknown keys are skipped unread and known ones must not repeat, or as an array of
its fields in their declared order.
-/

namespace QueryRewriting.Json

/-- Reads a document that may nest as deep as the first argument says. -/
abbrev Reader (α : Type) := Nat → Document → Except ReadError α

namespace Reader

variable {α : Type}

/-- Any value. -/
def value : Reader Value := Document.toValue

/-- A string. -/
def string : Reader String
  | _, .string (some text) => .ok text
  | _, .string none => .error .unpairedSurrogate
  | _, _ => .error (.expected "a string")

/-- A truth value. -/
def bool : Reader Bool
  | _, .bool value => .ok value
  | _, _ => .error (.expected "true or false")

/-- An unsigned 64-bit count. -/
def count : Reader Nat
  | _, .number (some (.integer value _)) =>
    if 0 ≤ value then .ok value.toNat else .error (.expected "a count")
  | _, .number none => .error .numberRange
  | _, _ => .error (.expected "a count")

/-- Something that may be `null`. -/
def optional (read : Reader α) : Reader (Option α)
  | _, .null => .ok none
  | room, document => some <$> read room document

/-- An array of things of one kind. -/
def list (read : Reader α) : Reader (List α)
  | 0, .array _ => .error .tooDeep
  | room + 1, .array items => items.mapM (read room)
  | _, _ => .error (.expected "an array")

/-- The key of a member. -/
def key : Option String → Except ReadError String
  | some name => .ok name
  | none => .error .unpairedSurrogate

/-- A map from names; of two members with one name the later counts. -/
def entries (read : Reader α) : Reader (Entries α)
  | 0, .object _ => .error .tooDeep
  | room + 1, .object members => do
    let pairs ← members.mapM fun (name, document) => do
      return (← key name, ← read room document)
    return Entries.ofList pairs
  | _, _ => .error (.expected "an object")

/-- The constant of a name. -/
def named (names : List (String × α)) (name : String) : Except ReadError α :=
  match names.lookup name with
  | some value => .ok value
  | none => .error (.expected "one of the known names")

/-- One of some named constants, written as its name. -/
def constantName (names : List (String × α)) : Reader α := fun room document => do
  named names (← string room document)

/-- One of some named constants, written as its name or as its place among the names. -/
def constantNameOrPlace (names : List (String × α)) : Reader α
  | room, .number found => do
    match names[← count room (.number found)]? with
    | some (_, value) => return value
    | none => throw (.expected "the place of a name")
  | room, document => constantName names room document

/-- One of some named constants, written as its name, or as an object with that name alone and
`null`. -/
def constant (names : List (String × α)) : Reader α
  | 0, .object _ => .error .tooDeep
  | _ + 1, .object [(name, .null)] => do named names (← key name)
  | room, document => constantName names room document

/-- The fields that a record gives, and the nesting left for each of them. -/
structure Fields where
  room : Nat
  given : List (String × Document)

namespace Fields

/-- A field that may be absent. -/
def find? (fields : Fields) (name : String) (read : Reader α) : Except ReadError (Option α) :=
  match fields.given.lookup name with
  | some document => some <$> read fields.room document
  | none => .ok none

/-- A field that must be there. -/
def required (fields : Fields) (name : String) (read : Reader α) : Except ReadError α := do
  match ← fields.find? name read with
  | some value => return value
  | none => throw (.missingField name)

/-- A field with a value to take when it is absent. `null` is not absence. -/
def orElse (fields : Fields) (name : String) (read : Reader α) (default : α) :
    Except ReadError α := do
  return (← fields.find? name read).getD default

/-- A field that may be absent or `null`. -/
def optional (fields : Fields) (name : String) (read : Reader α) :
    Except ReadError (Option α) := do
  return (← fields.find? name (Reader.optional read)).join

end Fields

/-- The members of an object whose keys are among `names`, each of which may stand there once. -/
def knownMembers (names : List String) :
    List (Option String × Document) → Except ReadError (List (String × Document))
  | [] => .ok []
  | (name, document) :: rest => do
    let name ← key name
    let more ← knownMembers names rest
    if names.contains name then
      if (more.lookup name).isSome then throw (.repeatedField name)
      return (name, document) :: more
    else return more

/-- A record with the fields `names` in declared order. -/
def record (names : List String) (read : Fields → Except ReadError α) : Reader α
  | 0, .object _ => .error .tooDeep
  | 0, .array _ => .error .tooDeep
  | room + 1, .object members => do read ⟨room, ← knownMembers names members⟩
  | room + 1, .array items =>
    if names.length < items.length then .error .tooManyFields
    else read ⟨room, names.zip items⟩
  | _, _ => .error (.expected "an object")

/-- Reads a value. -/
def fromValue (read : Reader α) (value : Value) : Except ReadError α :=
  read Document.nestingLimit (Document.ofValue value)

/-- Reads a whole text. -/
def fromText (read : Reader α) (text : String) : Except ReadError α := do
  read Document.nestingLimit (← Document.parse text)

end Reader

end QueryRewriting.Json
