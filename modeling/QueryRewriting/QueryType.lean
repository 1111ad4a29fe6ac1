import QueryRewriting.Json.Reader

/-!
Static types of query trees, and when a value of one type may stand in for another: `any` takes
everything, a sequence takes a query over acceptable elements, and there is no numeric widening.
Acceptance is a partial order: `accepts_refl`, `accepts_trans` and `accepts_antisymm`.
-/

namespace QueryRewriting

open Json

/-- The static type of a node of a query tree. -/
inductive QueryType where
  | bool
  | int
  | float
  | string
  | any
  | entity (name : String)
  | sequence (element : QueryType)
  | queryable (element : QueryType)
  deriving DecidableEq, Inhabited

namespace QueryType

/-- The type of the elements of a sequence or a query. -/
def element? : QueryType → Option QueryType
  | .sequence element => some element
  | .queryable element => some element
  | _ => none

/-- Whether values of the type have elements. -/
def isCollection (type : QueryType) : Bool := type.element?.isSome

/-- The name of an entity type. -/
def entityName? : QueryType → Option String
  | .entity name => some name
  | _ => none

/-- The element type, or the type itself if it has none. -/
def elementOrSelf (type : QueryType) : QueryType := type.element?.getD type

/-- Whether a value of the second type may stand where the first is wanted. -/
def accepts : QueryType → QueryType → Bool
  | .any, _ => true
  | .sequence wanted, .sequence given => wanted.accepts given
  | .sequence wanted, .queryable given => wanted.accepts given
  | .queryable wanted, .queryable given => wanted.accepts given
  | wanted, given => wanted == given

theorem accepts_refl (type : QueryType) : type.accepts type = true := by
  induction type <;> simp_all [accepts]

theorem accepts_trans {a b c : QueryType} (first : a.accepts b = true)
    (second : b.accepts c = true) : a.accepts c = true := by
  induction a generalizing b c with
  | any => simp [accepts]
  | sequence element ih =>
    cases b <;> simp only [accepts, beq_iff_eq, reduceCtorEq] at first
    all_goals cases c <;> simp only [accepts, beq_iff_eq, reduceCtorEq] at second
    all_goals exact ih first second
  | queryable element ih =>
    cases b <;> simp only [accepts, beq_iff_eq, reduceCtorEq] at first
    all_goals cases c <;> simp only [accepts, beq_iff_eq, reduceCtorEq] at second
    all_goals exact ih first second
  | _ =>
    simp only [accepts, beq_iff_eq] at first
    exact first ▸ second

theorem accepts_antisymm {a b : QueryType} (first : a.accepts b = true)
    (second : b.accepts a = true) : a = b := by
  induction a generalizing b with
  | sequence element ih =>
    cases b with
    | sequence other => exact congrArg sequence (ih first second)
    | _ => simp [accepts] at first second
  | queryable element ih =>
    cases b with
    | queryable other => exact congrArg queryable (ih first second)
    | _ => simp [accepts] at first second
  | _ => cases b <;> simp_all [accepts]

/-- The text of a type in messages. -/
def text : QueryType → String
  | .bool => "bool"
  | .int => "int"
  | .float => "float"
  | .string => "string"
  | .any => "any"
  | .entity name => name
  | .sequence element => "sequence<" ++ element.text ++ ">"
  | .queryable element => "queryable<" ++ element.text ++ ">"

/-- What stands between an opening text and an angle bracket at the end. -/
def bracketed? (opening text : List Char) : Option (List Char) :=
  if opening.isPrefixOf text && text.getLast? == some '>' then
    some (text.drop opening.length).dropLast
  else none

theorem length_lt_of_bracketed? {opening text inner : List Char}
    (found : bracketed? opening text = some inner) : inner.length < text.length := by
  unfold bracketed? at found
  split at found
  · next shape =>
    cases text with
    | nil => simp at shape
    | cons c rest =>
      simp only [Option.some.injEq] at found
      subst found
      simp only [List.length_dropLast, List.length_drop, List.length_cons]
      omega
  · simp at found

/-- The type that a text stands for. What is no other type is the entity of that name. -/
def ofChars (text : List Char) : QueryType :=
  if text = "bool".toList then .bool
  else if text = "int".toList then .int
  else if text = "float".toList then .float
  else if text = "string".toList then .string
  else if text = "any".toList then .any
  else match _found : bracketed? "sequence<".toList text with
    | some inner => .sequence (ofChars inner)
    | none =>
      match _found : bracketed? "queryable<".toList text with
      | some inner => .queryable (ofChars inner)
      | none => .entity (String.ofList text)
termination_by text.length
decreasing_by all_goals exact length_lt_of_bracketed? (by assumption)

/-- The type that a text stands for. -/
def ofText (text : String) : QueryType := ofChars text.toList

/-- The JSON form of a type: its tag, and what it is built of. -/
def toValue : QueryType → Value
  | .bool => tagged "bool" none
  | .int => tagged "int" none
  | .float => tagged "float" none
  | .string => tagged "string" none
  | .any => tagged "any" none
  | .entity name => tagged "entity" (some (.string name))
  | .sequence element => tagged "sequence" (some element.toValue)
  | .queryable element => tagged "queryable" (some element.toValue)
where
  tagged (tag : String) : Option Value → Value
    | some content => .object [("of", content), ("type", .string tag)]
    | none => .object [("type", .string tag)]

/-- The tags of the JSON form. -/
inductive Tag where
  | plain (type : QueryType)
  | entity
  | sequence
  | queryable

/-- The names of the tags. -/
def tags : List (String × Tag) :=
  [("bool", .plain .bool), ("int", .plain .int), ("float", .plain .float),
   ("string", .plain .string), ("any", .plain .any), ("entity", .entity),
   ("sequence", .sequence), ("queryable", .queryable)]

/-- Reads the content that goes with a tag. A plain type has none, or `null`. -/
def readContent (tag : Tag) (content : Option Document) (room : Nat)
    (readElement : Document → Except ReadError QueryType) : Except ReadError QueryType :=
  match tag, content with
  | .plain type, none => .ok type
  | .plain type, some .null => .ok type
  | .plain _, some _ => .error (.expected "null")
  | _, none => .error (.missingField "of")
  | .entity, some document => QueryType.entity <$> Reader.string room document
  | .sequence, some document => QueryType.sequence <$> readElement document
  | .queryable, some document => QueryType.queryable <$> readElement document

/-- Whether the first known member of an object is the content, which is then held back until the
tag is known and must denote a value by itself. -/
def contentFirst : List (String × Document) → Bool
  | ("of", _) :: _ => true
  | _ => false

/-- The tag of an object. Inside of what is held back an empty object may stand for its `null`. -/
def readTag (held : Bool) : Reader Tag := fun room document =>
  match held, document with
  | true, .object [(name, .object [])] => do Reader.named tags (← Reader.key name)
  | _, document => Reader.constant tags room document

/-- The tag that opens an array. Inside of what is held back it may be the place among the tags. -/
def readFirst (held : Bool) : Reader Tag :=
  if held then Reader.constantNameOrPlace tags else Reader.constantName tags

/-- Reads the JSON form of a type: an object with `type` and `of` in any order, or an array of the
two. A type within a content that is held back is held back too. -/
def readForm (held : Bool) : Reader QueryType
  | 0, _ => .error .tooDeep
  | room + 1, .object members => do
    let given ← Reader.knownMembers ["type", "of"] members
    let content := given.lookup "of"
    if contentFirst given then
      let _ ← content.mapM (Reader.value room)
    match given.lookup "type" with
    | none => throw (.missingField "type")
    | some document =>
      let tag ← readTag held room document
      readContent tag content room (readForm (held || contentFirst given) room)
  | room + 1, .array [document, content] => do
    let tag ← readFirst held room document
    readContent tag (some content) room (readForm held room)
  | _, _ => .error (.expected "a type")

/-- Reads the JSON form of a type. -/
def read : Reader QueryType := readForm false

end QueryType

end QueryRewriting
