import QueryRewriting.Json.Value

/-!
The compact text of a value: no blanks, members in key order, and in strings only what the
grammar forbids is escaped.
-/

namespace QueryRewriting.Json

/-- A hexadecimal digit in lower case. -/
def hexDigit (n : Nat) : Char :=
  if n < 10 then Char.ofNat ('0'.toNat + n) else Char.ofNat ('a'.toNat + (n - 10))

/-- The escape of a character by its number, for characters below 256. -/
def numericEscape (c : Char) : List Char :=
  ['\\', 'u', '0', '0', hexDigit (c.toNat / 16), hexDigit (c.toNat % 16)]

/-- A character inside a string: quotes, backslashes and control characters are escaped, by a
letter where there is one. -/
def escapeChar (c : Char) : List Char :=
  match c with
  | '"' => ['\\', '"']
  | '\\' => ['\\', '\\']
  | '\n' => ['\\', 'n']
  | '\r' => ['\\', 'r']
  | '\t' => ['\\', 't']
  | '\x08' => ['\\', 'b']
  | '\x0c' => ['\\', 'f']
  | c => if c.toNat < 0x20 then numericEscape c else [c]

/-- A string between quotes, with a rule for each of its characters. -/
def quoted (escape : Char → List Char) (text : String) : List Char :=
  '"' :: (text.toList.flatMap escape ++ ['"'])

/-- Texts with commas between them. -/
def commaSeparated : List (List Char) → List Char
  | [] => []
  | [last] => last
  | first :: rest => first ++ ',' :: commaSeparated rest

namespace Value

mutual

/-- The characters of the compact text of a value. -/
def chars : Value → List Char
  | .null => "null".toList
  | .bool true => "true".toList
  | .bool false => "false".toList
  | .number value => value.text
  | .string text => quoted escapeChar text
  | .array items => '[' :: (commaSeparated (itemChars items) ++ [']'])
  | .object members => '\x7b' :: (commaSeparated (memberChars members) ++ ['\x7d'])

/-- The texts of the items of an array. -/
def itemChars : List Value → List (List Char)
  | [] => []
  | value :: rest => chars value :: itemChars rest

/-- The texts of the members of an object: key, colon, value. -/
def memberChars : List (String × Value) → List (List Char)
  | [] => []
  | (key, value) :: rest =>
    (quoted escapeChar key ++ ':' :: chars value) :: memberChars rest

end

/-- The compact text of a value. -/
def text (value : Value) : String := String.ofList value.chars

/-- The escape of a code unit of sixteen bits. -/
def unitEscape (unit : Nat) : List Char :=
  ['\\', 'u', hexDigit (unit / 4096 % 16), hexDigit (unit / 256 % 16), hexDigit (unit / 16 % 16),
   hexDigit (unit % 16)]

/-- A character of a text that must be ASCII: others are escaped, those beyond sixteen bits as two
code units. -/
def asciiChar (c : Char) : List Char :=
  if c.toNat < 0x7f then [c]
  else if c.toNat < 0x10000 then unitEscape c.toNat
  else
    unitEscape (0xd800 + (c.toNat - 0x10000) / 0x400) ++
      unitEscape (0xdc00 + (c.toNat - 0x10000) % 0x400)

/-- The compact text of a value in ASCII alone. Other characters stand in strings only, where an
escape may take their place. -/
def asciiText (value : Value) : String := String.ofList (value.chars.flatMap asciiChar)

end Value

end QueryRewriting.Json
