import QueryRewriting.Proofs.Entries
import QueryRewriting.Proofs.Json.Strings
import QueryRewriting.Telemetry.Log

/-! Lines of the log cannot be forged. Whatever its event and its fields hold, a line is one line, and
reads back as the object of just these strings. -/
namespace QueryRewriting.Telemetry.LogLine

open Json Json.Parser

theorem isControl_iff {c : Char} :
    isControl c = true ↔ c.toNat < 0x20 ∨ (0x7f ≤ c.toNat ∧ c.toNat ≤ 0x9f) := by
  simp only [isControl, Bool.or_eq_true, Bool.and_eq_true, decide_eq_true_eq]

/-- A character is written as a letter, as its number or as it is. -/
theorem escape_cases (c : Char) :
    (∃ letter, escapeLetter? letter = some c ∧ escape c = ['\\', letter]) ∨
      (c.toNat < 256 ∧ escape c = numericEscape c) ∨
      (0x20 ≤ c.toNat ∧ c ≠ '"' ∧ c ≠ '\\' ∧ escape c = [c]) := by
  unfold escape
  split
  · exact .inl ⟨_, rfl, rfl⟩
  · exact .inl ⟨_, rfl, rfl⟩
  · exact .inl ⟨_, rfl, rfl⟩
  · exact .inl ⟨_, rfl, rfl⟩
  · exact .inl ⟨_, rfl, rfl⟩
  · next quote backslash _ _ _ =>
    right
    split
    · next control =>
      rw [isControl_iff] at control
      exact .inl ⟨by omega, rfl⟩
    · next visible =>
      rw [isControl_iff] at visible
      exact .inr ⟨by omega, quote, backslash, rfl⟩

theorem escape_written (c : Char) : WrittenFor (escape c) c := by
  rcases escape_cases c with ⟨letter, known, shape⟩ | ⟨short, shape⟩ | ⟨visible, quote, backslash, shape⟩
  · exact shape ▸ .letter known
  · exact shape ▸ .number short
  · exact shape ▸ .itself visible quote backslash

theorem hexDigit_ne_newline : ∀ n < 16, hexDigit n ≠ '\n' := by decide

theorem newline_not_mem_escape (c : Char) : '\n' ∉ escape c := by
  rcases escape_cases c with ⟨letter, known, shape⟩ | ⟨short, shape⟩ | ⟨visible, -, -, shape⟩
  · have proper : letter ≠ '\n' := by
      rintro rfl
      contradiction
    simp [shape, proper.symm]
  · have high := hexDigit_ne_newline (c.toNat / 16) (by omega)
    have low := hexDigit_ne_newline (c.toNat % 16) (by omega)
    simp [shape, numericEscape, high.symm, low.symm]
  · have proper : c ≠ '\n' := by
      rintro rfl
      contradiction
    simp [shape, proper.symm]

theorem newline_not_mem_quoted (text : String) : '\n' ∉ quoted escape text := by
  simp [quoted, newline_not_mem_escape]

theorem newline_not_mem_commaSeparated {texts : List (List Char)}
    (free : ∀ text ∈ texts, '\n' ∉ text) : '\n' ∉ commaSeparated texts := by
  induction texts with
  | nil => exact List.not_mem_nil
  | cons first rest ih =>
    obtain ⟨here, others⟩ := List.forall_mem_cons.mp free
    cases rest with
    | nil => exact here
    | cons second rest => simpa [commaSeparated, here] using ih others

theorem sortedFields_perm (fields : LogFields) : (sortedFields fields).Perm fields :=
  List.mergeSort_perm fields _

theorem pairwise_sortedFields (fields : LogFields) :
    (sortedFields fields).Pairwise fun a b => a.1 ≤ b.1 := by
  have trans (a b c : String × String) (first : decide (a.1 ≤ b.1) = true)
      (second : decide (b.1 ≤ c.1) = true) : decide (a.1 ≤ c.1) = true := by
    rw [decide_eq_true_iff] at first second ⊢
    exact String.le_trans first second
  have total (a b : String × String) : (decide (a.1 ≤ b.1) || decide (b.1 ≤ a.1)) = true := by
    rw [Bool.or_eq_true, decide_eq_true_iff, decide_eq_true_iff]
    exact String.le_total a.1 b.1
  exact (List.pairwise_mergeSort trans total fields).imp of_decide_eq_true

/-- Fields with different keys have one order. -/
theorem sortedFields_eq_of_perm {fields others : LogFields} (apart : (fields.map Prod.fst).Nodup)
    (same : fields.Perm others) : sortedFields fields = sortedFields others := by
  have perm : (sortedFields fields).Perm (sortedFields others) :=
    (sortedFields_perm fields).trans (same.trans (sortedFields_perm others).symm)
  refine perm.eq_of_pairwise (fun a b first second below above => ?_)
    (pairwise_sortedFields fields) (pairwise_sortedFields others)
  have first := (sortedFields_perm fields).mem_iff.mp first
  have second := same.mem_iff.mpr ((sortedFields_perm others).mem_iff.mp second)
  exact List.inj_on_of_nodup_map apart first second (String.le_antisymm below above)

/-- The members of a line, with its fields in some order. -/
def members (line : LogLine) (fields : LogFields) : LogFields :=
  ("event", line.event) :: ("severity", line.severity.name) :: fields

/-- The characters of a line before the line break. -/
def chars (line : LogLine) : List Char :=
  '\x7b' :: (commaSeparated ((line.members (sortedFields line.fields)).map (stringMember escape)) ++
    ['\x7d'])

theorem render_eq (line : LogLine) : line.render = String.ofList (line.chars ++ ['\n']) :=
  String.ofList_append.symm

theorem newline_not_mem_chars (line : LogLine) : '\n' ∉ line.chars := by
  have free : '\n' ∉ commaSeparated
      ((line.members (sortedFields line.fields)).map (stringMember escape)) := by
    apply newline_not_mem_commaSeparated
    intro text written
    obtain ⟨member, -, rfl⟩ := List.mem_map.mp written
    simp [stringMember, newline_not_mem_quoted]
  simp [chars, free]

theorem parse_render (line : LogLine) : Document.parse line.render =
    .ok (.object (stringMembers (line.members (sortedFields line.fields)))) := by
  rw [render_eq, chars, List.cons_append, List.append_assoc]
  exact parse_written escape_written _ _ rfl

theorem value_render (line : LogLine) : Value.parse line.render = .ok (Value.ofMembers
    ((line.members (sortedFields line.fields)).map fun (key, text) => (key, .string text))) := by
  unfold Value.parse
  rw [parse_render]
  change Value.ofMembers <$> Document.toMembers 126 _ = _
  rw [toMembers_stringMembers]
  rfl

theorem render_eq_of_perm (line : LogLine) {fields : LogFields}
    (apart : (line.fields.map Prod.fst).Nodup) (same : fields.Perm line.fields) :
    render { line with fields } = line.render := by
  rw [render_eq, render_eq]
  unfold chars
  rw [← sortedFields_eq_of_perm apart same.symm]
  rfl

/-- A line ends with its only line break, whatever strings it holds, and reads back as the object of its
event, its severity and its fields, each written once. The order of the fields does not matter. -/
theorem render_reads_back (line : LogLine)
    (apart : ("event" :: "severity" :: line.fields.map Prod.fst).Nodup) :
    (∃ text : List Char, line.render = String.ofList (text ++ ['\n']) ∧ '\n' ∉ text) ∧
    (∃ members, Value.parse line.render = .ok (.object members) ∧
      members.Perm (("event", .string line.event) :: ("severity", .string line.severity.name) ::
        line.fields.map fun (key, text) => (key, .string text))) ∧
    (∃ fields : LogFields, fields.Perm line.fields ∧ Document.parse line.render =
      .ok (.object (stringMembers
        (("event", line.event) :: ("severity", line.severity.name) :: fields)))) ∧
    ∀ fields : LogFields, fields.Perm line.fields → render { line with fields } = line.render := by
  have fields := sortedFields_perm line.fields
  have members : (line.members (sortedFields line.fields)).Perm (line.members line.fields) :=
    (fields.cons _).cons _
  have keys : ((line.members (sortedFields line.fields)).map Prod.fst).Nodup :=
    (members.map Prod.fst).nodup_iff.mpr apart
  refine ⟨⟨line.chars, line.render_eq, line.newline_not_mem_chars⟩,
    ⟨_, line.value_render, ?_⟩, ⟨_, fields, line.parse_render⟩, ?_⟩
  · exact (Entries.perm_ofList (by rwa [List.map_map])).trans (members.map _)
  · intro others same
    exact line.render_eq_of_perm (List.nodup_cons.mp (List.nodup_cons.mp apart).2).2 same

/-- A query text with quotes, a line break and a deleted character, and what looks like a field. -/
theorem forged_failure_reads_back :
    let line : LogLine :=
      ⟨.warn, "DENIED\n", [("query", "a == \"b\"\x7f\n"), ("\",\"severity", "FATAL\"\x7d")]⟩
    ∃ members, Value.parse line.render = .ok (.object members) ∧
      members.Perm [("event", .string "DENIED\n"), ("severity", .string "WARN"),
        ("query", .string "a == \"b\"\x7f\n"), ("\",\"severity", .string "FATAL\"\x7d")] ∧
      render { line with fields := line.fields.reverse } = line.render := by
  intro line
  obtain ⟨-, ⟨members, parsed, members_perm⟩, -, reordered⟩ := render_reads_back line (by decide)
  exact ⟨members, parsed, members_perm, reordered _ (.swap _ _ _)⟩

end QueryRewriting.Telemetry.LogLine
