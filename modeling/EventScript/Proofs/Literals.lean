import EventScript.Procedure
import EventScript.Proofs.Rendering

/-!
# Literals read back

A literal is read from behind its opening quote. A backslash takes the character behind it out of
its usual meaning, and the first quote that stands for itself ends the literal. A text comes out as
it went in, whatever it says and whatever follows, so it can neither end its literal early nor run
into what is behind. A whole line is read as a literal where the directive, the literal and nothing
else stand in it.
-/
namespace EventScript.Assembly

/-- What a character behind a backslash stands for. -/
def unescape? : Char → Option Char
  | '\\' => some '\\'
  | '"' => some '"'
  | 'n' => some '\n'
  | _ => none

/-- The text of a literal, and what is behind its closing quote. -/
def readLiteral? : List Char → Option (List Char × List Char)
  | [] => none
  | '"' :: rest => some ([], rest)
  | ['\\'] => none
  | '\\' :: c :: rest =>
    (unescape? c).bind fun plain => (readLiteral? rest).map fun (text, behind) =>
      (plain :: text, behind)
  | c :: rest => (readLiteral? rest).map fun (text, behind) => (c :: text, behind)

/-- The text of a line that holds one literal and nothing else. -/
def readText? (line : String) : Option String :=
  ((margin ++ ".asciz \"").toList.isPrefixOf? line.toList).bind fun literal =>
    match readLiteral? literal with
    | some (text, []) => some (String.ofList text)
    | _ => none

/-- A character that is neither a quote nor a backslash stands for itself. -/
theorem readLiteral?_cons {c : Char} (quote : c ≠ '"') (slash : c ≠ '\\') (rest : List Char) :
    readLiteral? (c :: rest) =
      (readLiteral? rest).map fun (text, behind) => (c :: text, behind) := by
  rw [readLiteral?]
  · exact quote
  · exact fun same _ => slash same
  · exact fun _ _ same _ => slash same

/-- A character in its written form is read as one character. -/
theorem readLiteral?_escapeChar (c : Char) (rest : List Char) :
    readLiteral? (escapeChar c ++ rest) =
      (readLiteral? rest).map fun (text, behind) => (c :: text, behind) := by
  unfold escapeChar
  split
  case h_4 slash quote _ => exact readLiteral?_cons quote slash rest
  all_goals
    simp only [List.cons_append, List.nil_append, readLiteral?, unescape?, Option.bind_some]

/-- A text in its written form is read up to the quote behind it. -/
theorem readLiteral?_escape (text rest : List Char) :
    readLiteral? (text.flatMap escapeChar ++ '"' :: rest) = some (text, rest) := by
  induction text with
  | nil => rfl
  | cons c text inductionHypothesis =>
    rw [List.flatMap_cons, List.append_assoc, readLiteral?_escapeChar, inductionHypothesis,
      Option.map_some]

/-- A literal is read up to a quote, and what is behind that makes no difference to its text. -/
theorem eq_append_of_readLiteral? {literal text rest : List Char}
    (read : readLiteral? literal = some (text, rest)) :
    ∃ body, literal = body ++ '"' :: rest ∧
      ∀ other, readLiteral? (body ++ '"' :: other) = some (text, other) := by
  induction literal using readLiteral?.induct generalizing text with
  | case1 => cases read
  | case2 behind =>
    obtain ⟨rfl, rfl⟩ : [] = text ∧ behind = rest := by simpa [readLiteral?] using read
    exact ⟨[], rfl, fun _ => rfl⟩
  | case3 => cases read
  | case4 c behind inductionHypothesis =>
    simp only [readLiteral?, Option.bind_eq_some_iff, Option.map_eq_some_iff] at read
    obtain ⟨plain, meant, ⟨inner, last⟩, later, same⟩ := read
    obtain ⟨rfl, rfl⟩ : plain :: inner = text ∧ last = rest := by simpa using same
    obtain ⟨body, rfl, alike⟩ := inductionHypothesis later
    refine ⟨'\\' :: c :: body, rfl, fun other => ?_⟩
    simp only [List.cons_append, readLiteral?, meant, alike, Option.bind_some, Option.map_some]
  | case5 c behind quote slash pair inductionHypothesis =>
    have plain : c ≠ '\\' := by
      rintro rfl
      cases behind with
      | nil => exact slash rfl rfl
      | cons next behind => exact pair next behind rfl rfl
    rw [readLiteral?_cons quote plain, Option.map_eq_some_iff] at read
    obtain ⟨⟨inner, last⟩, later, same⟩ := read
    obtain ⟨rfl, rfl⟩ : c :: inner = text ∧ last = rest := by simpa using same
    obtain ⟨body, rfl, alike⟩ := inductionHypothesis later
    refine ⟨c :: body, rfl, fun other => ?_⟩
    rw [List.cons_append, readLiteral?_cons quote plain, alike, Option.map_some]

/-- No part of a text in writing ends a literal, wherever it is cut off. -/
theorem readLiteral?_of_prefix {text front : List Char}
    (starts : front <+: text.flatMap escapeChar) : readLiteral? front = none := by
  obtain ⟨later, split⟩ := starts
  rw [Option.eq_none_iff_forall_ne_some]
  rintro ⟨shorter, rest⟩ read
  obtain ⟨body, rfl, alike⟩ := eq_append_of_readLiteral? read
  -- The whole literal would end where the part does, and would leave its own closing quote over.
  have whole : readLiteral? (text.flatMap escapeChar ++ ['"']) =
      some (shorter, rest ++ later ++ ['"']) := by
    rw [← split, ← alike (rest ++ later ++ ['"'])]
    simp
  rw [readLiteral?_escape] at whole
  simp at whole

/-- The text of a literal is read from its line. -/
theorem readText?_literal (text : String) : readText? (Line.literal text).render = some text := by
  have opened : (margin ++ ".asciz \"").toList.isPrefixOf? (Line.literal text).render.toList =
      some (text.toList.flatMap escapeChar ++ ['"']) := by
    rw [List.isPrefixOf?_eq_some_iff_append_eq]
    simp [Line.render, escape]
  rw [readText?, opened, Option.bind_some, readLiteral?_escape]
  exact congrArg some (String.ofList_toList)

/-- Lines of different texts differ. -/
theorem Line.render_literal_injective {text other : String}
    (same : (Line.literal other).render = (Line.literal text).render) : other = text := by
  have read := readText?_literal other
  rw [same, readText?_literal] at read
  exact (Option.some.inj read).symm

/-- A line that does not end in a quote holds no literal alone. -/
theorem readText?_of_getLast? {line : String} (last : line.toList.getLast? ≠ some '"') :
    readText? line = none := by
  cases opened : (margin ++ ".asciz \"").toList.isPrefixOf? line.toList with
  | none => rw [readText?, opened, Option.bind_none]
  | some literal =>
    rw [readText?, opened, Option.bind_some]
    split
    next text read =>
      obtain ⟨body, rfl, _⟩ := eq_append_of_readLiteral? read
      rw [List.isPrefixOf?_eq_some_iff_append_eq, ← List.append_assoc] at opened
      rw [← opened, List.getLast?_concat] at last
      exact absurd rfl last
    · rfl

/-- A line whose margin another character follows than that of the directive holds no literal. -/
theorem readText?_of_ne {line : String} (c : Char) (rest : List Char)
    (starts : line.toList = margin.toList ++ c :: rest) (other : c ≠ '.') :
    readText? line = none := by
  cases opened : (margin ++ ".asciz \"").toList.isPrefixOf? line.toList with
  | none => rw [readText?, opened, Option.bind_none]
  | some literal =>
    rw [List.isPrefixOf?_eq_some_iff_append_eq, starts, String.toList_append,
      List.append_assoc] at opened
    have same := List.append_cancel_left opened
    cases other (List.cons.inj same).1.symm

/-- The text of a line that is a literal. -/
def Line.text? : Line → Option String
  | literal text => some text
  | _ => none

/-- Whether a line is none that a caller has written, and begins as an instruction of the machine
where it is an instruction. -/
def Line.isOwn : Line → Bool
  | instruction mnemonic _ => "VM_".toList.isPrefixOf mnemonic.toList
  | raw _ => false
  | _ => true

/-- An instruction of the machine holds no literal. -/
theorem readText?_instruction {mnemonic : String} (machine : "VM_".toList <+: mnemonic.toList)
    (operands : List String) : readText? (Assembly.instruction mnemonic operands) = none := by
  obtain ⟨rest, named⟩ := machine
  obtain ⟨behind, written⟩ : ∃ behind, (Assembly.instruction mnemonic operands).toList =
      margin.toList ++ (mnemonic.toList ++ behind) := by
    cases operands with
    | nil => exact ⟨[], by simp [Assembly.instruction]⟩
    | cons first others =>
      refine ⟨(gap (max 1 (mnemonicWidth - mnemonic.utf8ByteSize)) ++
        String.intercalate ", " (first :: others)).toList, ?_⟩
      simp only [Assembly.instruction, String.toList_append, List.append_assoc]
  rw [← named] at written
  exact readText?_of_ne 'V' _ written (by decide)

/-- From a line in writing the text is read that it has as a literal, and none from any other line.
-/
theorem readText?_render {line : Line} (own : line.isOwn = true) :
    readText? line.render = line.text? := by
  cases line with
  | comment text =>
    exact readText?_of_ne ';' (' ' :: text.toList) (by simp [Line.render]) (by decide)
  | instruction mnemonic operands =>
    exact readText?_instruction (List.isPrefixOf_iff_prefix.mp own) _
  | branch comparison operand value target =>
    exact readText?_instruction ⟨"IF_CONST ".toList ++ comparison.symbol.toList, by simp⟩ _
  | jump target => exact readText?_instruction ⟨"JUMP".toList, rfl⟩ _
  | label name => exact readText?_of_getLast? (by simp [Line.render, Ledger.symbol])
  | stop => exact readText?_instruction ⟨"STOP".toList, rfl⟩ _
  | literal text => exact readText?_literal text
  | raw text => cases own
  | blank => exact readText?_of_getLast? (by simp [Line.render])

/-- A text is written as a literal on one line of its own, between quotes. Read from behind the
first of them, the text comes out as it went in, and the reading ends at the last one, whatever
follows there. No part of the written text ends the literal before. Two texts never share a line. -/
theorem literals_delimit_themselves (workshop : Workshop) (draft : Draft) (text : String) :
    ∃ line after, (Step.literal text).run workshop draft = .ok .none after ∧
      after.lines = draft.lines ++ [line] ∧
      line = "        .asciz \"" ++ escape text ++ "\"" ∧
      (∀ rest, readLiteral? ((escape text).toList ++ '"' :: rest) = some (text.toList, rest)) ∧
      (∀ front, front <+: (escape text).toList → readLiteral? front = none) ∧
      Unbroken (escape text) ∧ Unbroken line ∧
      ∀ other, (Line.literal other).render = line → other = text := by
  have written : (escape text).toList = text.toList.flatMap escapeChar := String.toList_ofList
  refine ⟨(Line.literal text).render, _, rfl, ?_, rfl, ?_, ?_, unbroken_escape text,
    Line.unbroken_render_literal text, fun other => Line.render_literal_injective⟩
  · simp [Draft.lines]
  · intro rest
    rw [written]
    exact readLiteral?_escape text.toList rest
  · intro front starts
    rw [written] at starts
    exact readLiteral?_of_prefix starts

example : readLiteral? ((escape "\\\"\n").toList ++ '"' :: ['"', '\\']) =
    some (['\\', '"', '\n'], ['"', '\\']) := by decide

end EventScript.Assembly
