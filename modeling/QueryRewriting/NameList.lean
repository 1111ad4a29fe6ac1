import QueryRewriting.Text.Extender
import QueryRewriting.Text.Invisible

/-!
Lists of names in descriptions of hooks: each name between quotes, with a short escape where there
is one and the number of the character where it would not show or would join the one before it.
-/

namespace QueryRewriting.NameList

/-- A character by the number of its code point. -/
def numbered (c : Char) : List Char :=
  ['\\', 'u', '\x7b'] ++ Nat.toDigits 16 c.toNat ++ ['\x7d']

/-- A character of a name between quotes. -/
def escape (c : Char) : List Char :=
  match c with
  | '"' => ['\\', '"']
  | '\\' => ['\\', '\\']
  | '\n' => ['\\', 'n']
  | '\r' => ['\\', 'r']
  | '\t' => ['\\', 't']
  | '\x00' => ['\\', '0']
  | c => if Text.isExtender c || Text.isInvisible c then numbered c else [c]

/-- A name between quotes. -/
def quoted (name : String) : String :=
  String.ofList ('"' :: (name.toList.flatMap escape ++ ['"']))

/-- Names between brackets. -/
def text (names : List String) : String :=
  "[" ++ String.intercalate ", " (names.map quoted) ++ "]"

end QueryRewriting.NameList
