import QueryRewriting.Json.Parser
import QueryRewriting.Json.Printer

/-! Reading back what has been written as a string. It is enough that each character is written as one
piece which is read as that character, so the rule for writing characters is left open. -/
namespace QueryRewriting.Json

namespace Parser

variable {c : Char}

theorem hexValue?_hexDigit : ∀ n < 16, hexValue? (hexDigit n) = some n := by decide

theorem skipBlanks_cons (proper : isBlank c = false) (rest : List Char) :
    skipBlanks (c :: rest) = c :: rest := by simp [skipBlanks, proper]

/-- Whether what is written for a character is read as that character, whatever follows. -/
def WrittenFor (written : List Char) (c : Char) : Prop :=
  ∃ piece, (∀ rest, pieces (written ++ rest) =
      (pieces rest).map fun (more, rest) => (piece :: more, rest)) ∧
    ∀ more, joined (piece :: more) = (joined more).map (c :: ·)

theorem WrittenFor.itself (visible : 0x20 ≤ c.toNat) (quote : c ≠ '"') (backslash : c ≠ '\\') :
    WrittenFor [c] c := by
  refine ⟨.char c, fun rest => ?_, fun _ => rfl⟩
  have proper : ¬(c = '\\' ∨ c.toNat < 0x20) := by
    rintro (same | control)
    · exact backslash same
    · omega
  rw [List.singleton_append, pieces]
  · rw [if_neg proper]
  · exact quote
  · exact fun _ _ _ _ _ same => (backslash same).elim
  · exact fun _ _ same => (backslash same).elim

theorem WrittenFor.letter {letter : Char} (known : escapeLetter? letter = some c) :
    WrittenFor ['\\', letter] c := by
  refine ⟨.char c, fun rest => ?_, fun _ => rfl⟩
  have proper : letter ≠ 'u' := by
    rintro rfl
    contradiction
  change pieces ('\\' :: letter :: rest) = _
  rw [pieces]
  · rw [known]
  · exact fun _ _ _ _ _ same => (proper same).elim

theorem hexUnit?_digits (short : c.toNat < 256) :
    hexUnit? '0' '0' (hexDigit (c.toNat / 16)) (hexDigit (c.toNat % 16)) = some c.toNat := by
  have zero : hexValue? '0' = some 0 := rfl
  have high := hexValue?_hexDigit (c.toNat / 16) (by omega)
  have low := hexValue?_hexDigit (c.toNat % 16) (by omega)
  have whole : ((0 * 16 + 0) * 16 + c.toNat / 16) * 16 + c.toNat % 16 = c.toNat := by omega
  unfold hexUnit?
  rw [zero, high, low]
  exact congrArg some whole

theorem WrittenFor.number (short : c.toNat < 256) : WrittenFor (numericEscape c) c := by
  refine ⟨.unit c.toNat, fun rest => ?_, fun more => ?_⟩
  · simp only [numericEscape, List.cons_append, List.nil_append, pieces, hexUnit?_digits short]
  · rw [joined.eq_def]
    dsimp only
    rw [if_neg (by omega), if_neg (by omega), Char.ofNat_toNat]

theorem value_string (fuel : Nat) (rest : List Char) :
    value (fuel + 1) ('"' :: rest) =
      (stringBody rest).map fun (text, rest) => (.string text, rest) := rfl

theorem value_object (fuel : Nat) (rest : List Char) :
    value (fuel + 1) ('\x7b' :: '"' :: rest) =
      (members fuel ('"' :: rest)).map fun (found, rest) => (.object found, rest) := rfl

theorem members_string (fuel : Nat) (rest : List Char) :
    members (fuel + 1) ('"' :: rest) = (do
      let (key, rest) ← stringBody rest
      match skipBlanks rest with
      | ':' :: rest => do
        let (first, rest) ← value fuel rest
        match skipBlanks rest with
        | '\x7d' :: rest => return ([(key, first)], rest)
        | ',' :: rest => do
          let (more, rest) ← members fuel rest
          return ((key, first) :: more, rest)
        | rest => .error rest
      | rest => .error rest) := rfl

end Parser

open Json.Parser

/-- The text of a member whose value is a string. -/
def stringMember (write : Char → List Char) (member : String × String) : List Char :=
  quoted write member.1 ++ ':' :: quoted write member.2

/-- Members whose values are strings, taken apart. -/
def stringMembers (members : List (String × String)) : List (Option String × Document) :=
  members.map fun (key, text) => (some key, .string (some text))

variable {write : Char → List Char}

theorem quoted_append (text : String) (rest : List Char) :
    quoted write text ++ rest = '"' :: (text.toList.flatMap write ++ '"' :: rest) := by
  simp [quoted]

theorem stringMember_append (member : String × String) (rest : List Char) :
    stringMember write member ++ rest =
      '"' :: (member.1.toList.flatMap write ++ '"' :: ':' :: (quoted write member.2 ++ rest)) := by
  rw [stringMember, List.append_assoc, List.cons_append, quoted_append]

theorem length_le_commaSeparated (texts : List (List Char)) :
    texts.length ≤ (commaSeparated texts).length + 1 := by
  induction texts with
  | nil => simp
  | cons first rest ih =>
    cases rest with
    | nil => simp
    | cons second rest =>
      simp only [commaSeparated, List.length_append, List.length_cons] at ih ⊢
      omega

theorem toMembers_stringMembers (room : Nat) (members : List (String × String)) :
    Document.toMembers room (stringMembers members) =
      .ok (members.map fun (key, text) => (key, .string text)) := by
  induction members with
  | nil => rfl
  | cons member rest ih =>
    change (do
      let value ← Document.toValue room (.string (some member.2))
      return (member.1, value) :: (← Document.toMembers room (stringMembers rest))) = _
    rw [ih]
    rfl

theorem commaSeparated_stringMember (first : String × String) (more : List (String × String))
    (rest : List Char) : ∃ tail,
      commaSeparated ((first :: more).map (stringMember write)) ++ rest = '"' :: tail := by
  cases more with
  | nil => exact ⟨_, stringMember_append first rest⟩
  | cons second more =>
    simp only [List.map_cons, commaSeparated, List.append_assoc]
    exact ⟨_, stringMember_append first _⟩

section Written

variable (written : ∀ c, WrittenFor (write c) c)

include written

theorem pieces_written (text rest : List Char) :
    ∃ found, pieces (text.flatMap write ++ '"' :: rest) = .ok (found, rest) ∧
      joined found = some text := by
  induction text with
  | nil => exact ⟨[], rfl, rfl⟩
  | cons c text ih =>
    obtain ⟨found, read, text⟩ := ih
    obtain ⟨piece, first, join⟩ := written c
    refine ⟨piece :: found, ?_, ?_⟩
    · rw [List.flatMap_cons, List.append_assoc, first, read]
      rfl
    · rw [join, text]
      rfl

theorem stringBody_written (text : String) (rest : List Char) :
    stringBody (text.toList.flatMap write ++ '"' :: rest) = .ok (some text, rest) := by
  obtain ⟨found, read, text⟩ := pieces_written written text.toList rest
  unfold stringBody
  rw [read]
  simp [Except.map, text]

theorem value_quoted (fuel : Nat) (text : String) (rest : List Char) :
    value (fuel + 1) (quoted write text ++ rest) = .ok (.string (some text), rest) := by
  rw [quoted_append, value_string, stringBody_written written]
  rfl

theorem members_last (fuel : Nat) (member : String × String) (rest : List Char) :
    members (fuel + 2) (stringMember write member ++ '\x7d' :: rest) =
      .ok (stringMembers [member], rest) := by
  rw [stringMember_append, members_string, stringBody_written written]
  simp [bind, Except.bind, pure, Except.pure, skipBlanks_cons, isBlank, value_quoted written,
    stringMembers]

theorem members_next {fuel : Nat} {rest unread : List Char} {more : List (String × String)}
    (read : members (fuel + 1) rest = .ok (stringMembers more, unread))
    (member : String × String) :
    members (fuel + 2) (stringMember write member ++ ',' :: rest) =
      .ok (stringMembers (member :: more), unread) := by
  rw [stringMember_append, members_string, stringBody_written written]
  simp [bind, Except.bind, pure, Except.pure, skipBlanks_cons, isBlank, value_quoted written, read,
    stringMembers]

theorem members_written (first : String × String) (more : List (String × String)) {fuel : Nat}
    (enough : more.length + 2 ≤ fuel) (rest : List Char) :
    members fuel (commaSeparated ((first :: more).map (stringMember write)) ++ '\x7d' :: rest) =
      .ok (stringMembers (first :: more), rest) := by
  obtain ⟨fuel, rfl⟩ : ∃ less, fuel = less + 2 := ⟨fuel - 2, by omega⟩
  induction more generalizing first fuel with
  | nil => exact members_last written fuel first rest
  | cons second more ih =>
    rw [List.length_cons] at enough
    obtain ⟨fuel, rfl⟩ : ∃ less, fuel = less + 1 := ⟨fuel - 1, by omega⟩
    have read := ih second fuel (by omega)
    simp only [List.map_cons, commaSeparated, List.append_assoc, List.cons_append] at read ⊢
    exact members_next written read first

/-- An object of strings reads back, whatever blanks follow it. -/
theorem parse_written (first : String × String) (more : List (String × String)) {blanks : List Char}
    (blank : skipBlanks blanks = []) :
    Document.parse (String.ofList
      ('\x7b' :: (commaSeparated ((first :: more).map (stringMember write)) ++ '\x7d' :: blanks))) =
      .ok (.object (stringMembers (first :: more))) := by
  obtain ⟨tail, shape⟩ : ∃ tail, commaSeparated ((first :: more).map (stringMember write)) ++
      '\x7d' :: blanks = '"' :: tail := commaSeparated_stringMember first more _
  have commas := length_le_commaSeparated ((first :: more).map (stringMember write))
  have length := congrArg List.length shape
  simp only [List.length_map, List.length_cons, List.length_append] at commas length
  have enough : more.length + 2 ≤ 2 * (tail.length + 2) + 1 := by omega
  have read := members_written written first more enough blanks
  rw [shape] at read ⊢
  have value : value (2 * ('\x7b' :: '"' :: tail).length + 2) ('\x7b' :: '"' :: tail) =
      .ok (.object (stringMembers (first :: more)), blanks) := by
    rw [List.length_cons, List.length_cons, value_object, read]
    rfl
  unfold Document.parse
  rw [String.toList_ofList]
  dsimp only
  rw [value]
  dsimp only
  rw [blank]

end Written

end QueryRewriting.Json
