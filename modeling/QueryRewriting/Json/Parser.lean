import QueryRewriting.Json.Document

/-!
The grammar of JSON text. Each rule takes what it can from the front of the characters and hands
the rest on; a rule that does not match fails with the characters it could not use. Whether
numbers and strings denote anything is recorded in the document and is no concern of the grammar.
-/

namespace QueryRewriting.Json.Parser

/-- The characters that are still to be read. -/
abbrev Unread := List Char

/-- The blanks between tokens. -/
def isBlank (c : Char) : Bool := c == ' ' || c == '\n' || c == '\t' || c == '\r'

/-- The characters after leading blanks. -/
def skipBlanks (input : List Char) : List Char := input.dropWhile isBlank

/-- The value of a decimal digit. -/
def digit? (c : Char) : Option Nat :=
  if '0' ≤ c ∧ c ≤ '9' then some (c.toNat - '0'.toNat) else none

/-- The longest run of digits. -/
def digits : List Char → List Nat × List Char
  | [] => ([], [])
  | c :: rest =>
    match digit? c with
    | some d =>
      let (more, rest) := digits rest
      (d :: more, rest)
    | none => ([], c :: rest)

/-- A run of digits that is not empty. -/
def someDigits (input : List Char) : Except Unread (List Nat × Unread) :=
  match digits input with
  | ([], rest) => .error rest
  | (found, rest) => .ok (found, rest)

/-- The number that a run of digits writes. -/
def decimalValue (digits : List Nat) : Nat := digits.foldl (fun n d => n * 10 + d) 0

/-- A whole part: a zero, or digits that do not start with one. -/
def wholePart (input : List Char) : Except Unread (List Nat × Unread) :=
  match digits input with
  | (0 :: _ :: _, _) => .error input
  | ([], rest) => .error rest
  | (found, rest) => .ok (found, rest)

/-- The fraction of a number, if there is a point. -/
def fractionPart : List Char → Except Unread (Option (List Nat) × Unread)
  | '.' :: rest => (someDigits rest).map fun (found, rest) => (some found, rest)
  | rest => .ok (none, rest)

/-- The exponent of a number, if there is one. -/
def exponentPart : List Char → Except Unread (Option Int × Unread)
  | c :: rest =>
    if c = 'e' ∨ c = 'E' then
      match rest with
      | '-' :: rest => (someDigits rest).map fun (found, rest) => (some (-decimalValue found), rest)
      | '+' :: rest => (someDigits rest).map fun (found, rest) => (some (decimalValue found), rest)
      | rest => (someDigits rest).map fun (found, rest) => (some (decimalValue found), rest)
    else .ok (none, c :: rest)
  | [] => .ok (none, [])

/-- A number without its sign. -/
def unsigned (negative : Bool) (input : List Char) : Except Unread (Document × Unread) := do
  let (whole, rest) ← wholePart input
  let (fraction, rest) ← fractionPart rest
  let (exponent, rest) ← exponentPart rest
  return (.number (NumberLiteral.toNumber? ⟨negative, whole, fraction, exponent⟩), rest)

/-- The value of a hexadecimal digit. -/
def hexValue? (c : Char) : Option Nat :=
  if '0' ≤ c ∧ c ≤ '9' then some (c.toNat - '0'.toNat)
  else if 'a' ≤ c ∧ c ≤ 'f' then some (c.toNat - 'a'.toNat + 10)
  else if 'A' ≤ c ∧ c ≤ 'F' then some (c.toNat - 'A'.toNat + 10)
  else none

/-- The 16-bit unit that four hexadecimal digits write. -/
def hexUnit? (a b c d : Char) : Option Nat := do
  return (((← hexValue? a) * 16 + (← hexValue? b)) * 16 + (← hexValue? c)) * 16 + (← hexValue? d)

/-- The character that a letter after a backslash stands for. -/
def escapeLetter? : Char → Option Char
  | '"' => some '"'
  | '\\' => some '\\'
  | '/' => some '/'
  | 'b' => some '\x08'
  | 'f' => some '\x0c'
  | 'n' => some '\n'
  | 'r' => some '\r'
  | 't' => some '\t'
  | _ => none

/-- What a piece of a string denotes: a character, or a 16-bit unit written as an escape. -/
inductive Piece where
  | char (c : Char)
  | unit (value : Nat)
  deriving DecidableEq

/-- The pieces of a string up to its closing quote. Control characters must be escaped. -/
def pieces : List Char → Except Unread (List Piece × Unread)
  | [] => .error []
  | '"' :: rest => .ok ([], rest)
  | '\\' :: 'u' :: a :: b :: c :: d :: rest =>
    match hexUnit? a b c d with
    | some value => (pieces rest).map fun (more, rest) => (.unit value :: more, rest)
    | none => .error (a :: b :: c :: d :: rest)
  | '\\' :: letter :: rest =>
    match escapeLetter? letter with
    | some c => (pieces rest).map fun (more, rest) => (.char c :: more, rest)
    | none => .error (letter :: rest)
  | c :: rest =>
    if c = '\\' ∨ c.toNat < 0x20 then .error (c :: rest)
    else (pieces rest).map fun (more, rest) => (.char c :: more, rest)

/-- The characters that pieces denote. A high surrogate needs a low one right after it, and a low
one alone denotes nothing. -/
def joined : List Piece → Option (List Char)
  | [] => some []
  | .char c :: rest => (joined rest).map (c :: ·)
  | .unit high :: rest =>
    if 0xD800 ≤ high ∧ high < 0xDC00 then
      match rest with
      | .unit low :: rest =>
        if 0xDC00 ≤ low ∧ low < 0xE000 then
          let c := Char.ofNat (0x10000 + (high - 0xD800) * 0x400 + (low - 0xDC00))
          (joined rest).map (c :: ·)
        else none
      | _ => none
    else if 0xDC00 ≤ high ∧ high < 0xE000 then none
    else (joined rest).map (Char.ofNat high :: ·)

/-- A string after its opening quote. -/
def stringBody (input : List Char) : Except Unread (Option String × Unread) :=
  (pieces input).map fun (found, rest) => ((joined found).map String.ofList, rest)

mutual

/-- A value. Every rule that calls itself uses up a character, so the number of characters bounds
the first argument. -/
def value : Nat → List Char → Except Unread (Document × Unread)
  | 0, input => .error input
  | fuel + 1, input =>
    match skipBlanks input with
    | 'n' :: 'u' :: 'l' :: 'l' :: rest => .ok (.null, rest)
    | 't' :: 'r' :: 'u' :: 'e' :: rest => .ok (.bool true, rest)
    | 'f' :: 'a' :: 'l' :: 's' :: 'e' :: rest => .ok (.bool false, rest)
    | '"' :: rest => (stringBody rest).map fun (text, rest) => (.string text, rest)
    | '[' :: rest =>
      match skipBlanks rest with
      | ']' :: rest => .ok (.array [], rest)
      | rest => (items fuel rest).map fun (found, rest) => (.array found, rest)
    | '\x7b' :: rest =>
      match skipBlanks rest with
      | '\x7d' :: rest => .ok (.object [], rest)
      | rest => (members fuel rest).map fun (found, rest) => (.object found, rest)
    | '-' :: rest => unsigned true rest
    | rest => unsigned false rest

/-- The items of an array up to its closing bracket. -/
def items : Nat → List Char → Except Unread (List Document × Unread)
  | 0, input => .error input
  | fuel + 1, input => do
    let (first, rest) ← value fuel input
    match skipBlanks rest with
    | ']' :: rest => return ([first], rest)
    | ',' :: rest => do
      let (more, rest) ← items fuel rest
      return (first :: more, rest)
    | rest => .error rest

/-- The members of an object up to its closing brace. -/
def members : Nat → List Char → Except Unread (List (Option String × Document) × Unread)
  | 0, input => .error input
  | fuel + 1, input =>
    match skipBlanks input with
    | '"' :: rest => do
      let (key, rest) ← stringBody rest
      match skipBlanks rest with
      | ':' :: rest => do
        let (first, rest) ← value fuel rest
        match skipBlanks rest with
        | '\x7d' :: rest => return ([(key, first)], rest)
        | ',' :: rest => do
          let (more, rest) ← members fuel rest
          return ((key, first) :: more, rest)
        | rest => .error rest
      | rest => .error rest
    | rest => .error rest

end

end Parser

/-- Takes a text apart; nothing but blanks may follow the value. -/
def Document.parse (text : String) : Except ReadError Document :=
  let input := text.toList
  match Parser.value (2 * input.length + 2) input with
  | .error unread => .error (.malformed unread.length)
  | .ok (document, rest) =>
    match Parser.skipBlanks rest with
    | [] => .ok document
    | unread => .error (.malformed unread.length)

/-- The value that a text writes. -/
def Value.parse (text : String) : Except ReadError Value := do
  (← Document.parse text).toValue Document.nestingLimit

end QueryRewriting.Json
