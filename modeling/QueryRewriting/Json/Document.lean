import QueryRewriting.Json.Value

/-!
Documents: JSON text that has been taken apart but not interpreted. Members keep their order and
repetitions, and what denotes no value is marked where it stands: a number beyond the range of
doubles, a string with an unpaired surrogate. Whether a mark matters is up to the reader of the
document, who may skip a part without looking at it.
-/

namespace QueryRewriting.Json

/-- A JSON text taken apart. -/
inductive Document where
  | null
  | bool (value : Bool)
  | number (value : Option Number)
  | string (value : Option String)
  | array (items : List Document)
  | object (members : List (Option String × Document))
  deriving Inhabited

/-- Why a document cannot be read. -/
inductive ReadError where
  | malformed (unread : Nat)
  | tooDeep
  | numberRange
  | unpairedSurrogate
  | missingField (name : String)
  | repeatedField (name : String)
  | tooManyFields
  | expected (what : String)
  deriving DecidableEq

/-- The text of a reading error. -/
def ReadError.message : ReadError → String
  | .malformed unread => s!"malformed text, {unread} characters before its end"
  | .tooDeep => "nesting too deep"
  | .numberRange => "number out of range"
  | .unpairedSurrogate => "unpaired surrogate in a string"
  | .missingField name => s!"missing field {name}"
  | .repeatedField name => s!"repeated field {name}"
  | .tooManyFields => "more items than fields"
  | .expected what => s!"expected {what}"

namespace Document

/-- A document is read with the nesting it may still have. -/
def nestingLimit : Nat := 127

mutual

/-- The value of a document, if its arrays and objects nest no deeper than `room`. -/
def toValue (room : Nat) : Document → Except ReadError Value
  | .null => .ok .null
  | .bool value => .ok (.bool value)
  | .number (some value) => .ok (.number value)
  | .number none => .error .numberRange
  | .string (some text) => .ok (.string text)
  | .string none => .error .unpairedSurrogate
  | .array items =>
    match room with
    | 0 => .error .tooDeep
    | room + 1 => Value.array <$> toItems room items
  | .object members =>
    match room with
    | 0 => .error .tooDeep
    | room + 1 => Value.ofMembers <$> toMembers room members

/-- The values of the items of an array. -/
def toItems (room : Nat) : List Document → Except ReadError (List Value)
  | [] => .ok []
  | item :: rest => do
    let value ← toValue room item
    return value :: (← toItems room rest)

/-- The members of an object with their values. A key must denote a string. -/
def toMembers (room : Nat) :
    List (Option String × Document) → Except ReadError (List (String × Value))
  | [] => .ok []
  | (none, _) :: _ => .error .unpairedSurrogate
  | (some key, document) :: rest => do
    let value ← toValue room document
    return (key, value) :: (← toMembers room rest)

end

mutual

/-- The document of a value. -/
def ofValue : Value → Document
  | .null => .null
  | .bool value => .bool value
  | .number value => .number (some value)
  | .string text => .string (some text)
  | .array items => .array (ofItems items)
  | .object members => .object (ofMembers members)

/-- The documents of several values. -/
def ofItems : List Value → List Document
  | [] => []
  | value :: rest => ofValue value :: ofItems rest

/-- The members of an object with the documents of their values. -/
def ofMembers : List (String × Value) → List (Option String × Document)
  | [] => []
  | (key, value) :: rest => (some key, ofValue value) :: ofMembers rest

end

end Document

end QueryRewriting.Json
