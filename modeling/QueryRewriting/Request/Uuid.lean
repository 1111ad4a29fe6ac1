import QueryRewriting.Json.Parser
import QueryRewriting.Json.Printer

/-!
User identities: 128-bit numbers written as thirty-two hexadecimal digits. They are read bare,
with hyphens, in braces or as a name of the `urn:uuid:` scheme, and written with hyphens in lower
case.
-/

namespace QueryRewriting

open Json

/-- A universally unique identifier. -/
structure Uuid where
  bits : BitVec 128
  deriving DecidableEq, Inhabited

namespace Uuid

/-- The sizes of the groups between hyphens. -/
def groups : List Nat := [8, 4, 4, 4, 12]

/-- Splits a text into groups that are separated by hyphens. -/
def ungrouped? : List Nat → List Char → Option (List Char)
  | [], _ => none
  | [size], text => if text.length = size then some text else none
  | size :: sizes, text =>
    match text.drop size with
    | '-' :: rest => (ungrouped? sizes rest).map (text.take size ++ ·)
    | _ => none

/-- The digits of an identifier written bare or with hyphens. -/
def bareDigits? (text : List Char) : Option (List Char) :=
  if text.length = 32 then some text else ungrouped? groups text

/-- What a name of the `urn:uuid:` scheme starts with. -/
def scheme : List Char := "urn:uuid:".toList

/-- The digits of an identifier in any of its forms. -/
def digits? (text : List Char) : Option (List Char) :=
  match text with
  | '\x7b' :: rest =>
    if rest.getLast? = some '\x7d' then ungrouped? groups rest.dropLast else none
  | text =>
    if (text.take scheme.length).map Char.toLower = scheme then
      ungrouped? groups (text.drop scheme.length)
    else bareDigits? text

/-- Reads an identifier. The case of its scheme and of its digits does not matter. -/
def parse? (text : String) : Option Uuid := do
  let digits ← (← digits? text.toList).mapM Parser.hexValue?
  return ⟨BitVec.ofNat 128 (digits.foldl (fun n d => n * 16 + d) 0)⟩

/-- The hexadecimal digits of a number, a fixed count of them. -/
def hexDigits : Nat → Nat → List Char
  | 0, _ => []
  | count + 1, n => hexDigits count (n / 16) ++ [hexDigit (n % 16)]

/-- Digits with hyphens between the groups. -/
def grouped : List Nat → List Char → List Char
  | [], _ => []
  | [size], digits => digits.take size
  | size :: sizes, digits => digits.take size ++ '-' :: grouped sizes (digits.drop size)

/-- The text of an identifier. -/
def text (uuid : Uuid) : String :=
  String.ofList (grouped groups (hexDigits 32 uuid.bits.toNat))

end Uuid

end QueryRewriting
