import Mathlib
import EventScript.Assembly.Line

/-!
# Instructions read back

An instruction in writing is taken apart again. Behind the margin stands the mnemonic, which the
first space ends, and behind the gap stand the operands, with a comma and a space between each two.
The parts come out as they went in where the mnemonic is one word, no operand holds the separator,
and the first operand neither is empty nor begins with a space. The reader knows of no instruction
set: a comment reads as an instruction too. It knows of no column either: where the operands begin
is told by the number of bytes in the mnemonic.
-/
namespace EventScript.Assembly

/-- The parts of a text between its separators, which are found from the left. -/
def splitOperands : List Char → List (List Char)
  | [] => [[]]
  | ',' :: ' ' :: rest => [] :: splitOperands rest
  | c :: rest => (splitOperands rest).modifyHead (c :: ·)

/-- The mnemonic and the operands of a line behind the margin. -/
def readInstruction? (line : String) : Option (String × List String) :=
  (margin.toList.isPrefixOf? line.toList).map fun words =>
    let operands := (words.dropWhile (· != ' ')).dropWhile (· == ' ')
    (String.ofList (words.takeWhile (· != ' ')),
      if operands = [] then [] else (splitOperands operands).map String.ofList)

/-- A text that holds no separator. -/
def Whole (text : List Char) : Prop := ¬[',', ' '] <:+: text

instance : DecidablePred Whole := fun text => inferInstanceAs (Decidable ¬[',', ' '] <:+: text)

/-- What is behind the first character of a whole text is whole. -/
theorem Whole.tail {c : Char} {text : List Char} (whole : Whole (c :: text)) : Whole text :=
  fun inside => whole (List.infix_cons inside)

/-- A text without commas is whole. -/
theorem whole_of_not_mem {text : List Char} (noComma : ',' ∉ text) : Whole text :=
  fun inside => noComma (inside.subset List.mem_cons_self)

/-- A character that begins no separator goes to the part ahead of it. -/
theorem splitOperands_cons {c : Char} {text : List Char}
    (within : ∀ rest, c = ',' → text ≠ ' ' :: rest) :
    splitOperands (c :: text) = (splitOperands text).modifyHead (c :: ·) := by
  rw [splitOperands]
  rintro rest rfl rfl
  exact within rest rfl rfl

/-- A whole text is one part. -/
theorem splitOperands_whole {text : List Char} (whole : Whole text) :
    splitOperands text = [text] := by
  induction text with
  | nil => rfl
  | cons c text inductionHypothesis =>
    have within : ∀ rest, c = ',' → text ≠ ' ' :: rest := by
      rintro rest rfl rfl
      exact whole (List.prefix_append [',', ' '] rest).isInfix
    rw [splitOperands_cons within, inductionHypothesis whole.tail]
    rfl

/-- A whole text in front of a separator is the first part. A comma at its end does not make a
separator with the comma behind it. -/
theorem splitOperands_append {text : List Char} (whole : Whole text) (rest : List Char) :
    splitOperands (text ++ ',' :: ' ' :: rest) = text :: splitOperands rest := by
  induction text with
  | nil => rfl
  | cons c text inductionHypothesis =>
    have within : ∀ others, c = ',' → text ++ ',' :: ' ' :: rest ≠ ' ' :: others := by
      rintro others rfl same
      cases text with
      | nil => simp at same
      | cons next text =>
        obtain rfl : next = ' ' := (List.cons.inj same).1
        exact whole (List.prefix_append [',', ' '] text).isInfix
    rw [List.cons_append, splitOperands_cons within, inductionHypothesis whole.tail]
    rfl

/-- Joined operands are split again, if each of them is whole. -/
theorem splitOperands_intercalate {operands : List (List Char)} (several : operands ≠ [])
    (whole : ∀ operand ∈ operands, Whole operand) :
    splitOperands ([',', ' '].intercalate operands) = operands := by
  induction operands with
  | nil => exact absurd rfl several
  | cons first rest inductionHypothesis =>
    have wholeFirst : Whole first := whole first List.mem_cons_self
    cases rest with
    | nil => simpa using splitOperands_whole wholeFirst
    | cons second others =>
      have split := inductionHypothesis (List.cons_ne_nil second others)
        fun operand member => whole operand (List.mem_cons_of_mem first member)
      rw [List.intercalate_cons_cons, List.append_assoc, List.cons_append, List.cons_append,
        List.nil_append, splitOperands_append wholeFirst, split]

/-- A word is a text without spaces. -/
theorem bne_of_not_mem {word : List Char} (letters : ' ' ∉ word) :
    ∀ c ∈ word, (c != ' ') = true := by
  intro c member
  rw [bne_iff_ne]
  rintro rfl
  exact letters member

/-- Behind a gap comes the first character that is no space. -/
theorem dropWhile_gap {text : List Char} (starts : text.head? ≠ some ' ') (width : Nat) :
    (List.replicate width ' ' ++ text).dropWhile (· == ' ') = text := by
  have spaces : ∀ c ∈ List.replicate width ' ', (c == ' ') = true := by simp
  rw [List.dropWhile_append_of_pos spaces]
  cases text with
  | nil => rfl
  | cons c rest =>
    have solid : ¬c = ' ' := fun blank => starts (by rw [blank, List.head?_cons])
    simp [solid]

/-- Joined operands begin as the first of them does. -/
theorem head?_intercalate {first : List Char} (filled : first ≠ []) (rest : List (List Char)) :
    ([',', ' '].intercalate (first :: rest)).head? = first.head? := by
  obtain ⟨c, others, rfl⟩ := List.exists_cons_of_ne_nil filled
  cases rest <;> simp

/-- An instruction in writing is read back: its mnemonic, and its operands one by one. -/
theorem readInstruction?_instruction {mnemonic : String} {operands : List String}
    (word : ' ' ∉ mnemonic.toList) (whole : ∀ operand ∈ operands, Whole operand.toList)
    (starts : ∀ first ∈ operands.head?, first ≠ "" ∧ first.toList.head? ≠ some ' ') :
    readInstruction? (instruction mnemonic operands) = some (mnemonic, operands) := by
  have letters := bne_of_not_mem word
  cases operands with
  | nil =>
    have taken : margin.toList.isPrefixOf? (instruction mnemonic []).toList =
        some mnemonic.toList := by
      rw [List.isPrefixOf?_eq_some_iff_append_eq, instruction, String.toList_append]
    simp [readInstruction?, taken, List.takeWhile_eq_self_iff.mpr letters,
      List.dropWhile_eq_nil_iff.mpr letters]
  | cons first rest =>
    obtain ⟨filled, solid⟩ := starts first rfl
    have several : first.toList ≠ [] := by simpa using filled
    -- The gap is at least one space wide, and the first of its spaces ends the mnemonic.
    obtain ⟨width, wide⟩ : ∃ width,
        max 1 (mnemonicWidth - mnemonic.utf8ByteSize) = width + 1 :=
      Nat.exists_eq_add_one_of_ne_zero (by omega)
    let joined := [',', ' '].intercalate (first.toList :: rest.map String.toList)
    have taken : margin.toList.isPrefixOf? (instruction mnemonic (first :: rest)).toList =
        some (mnemonic.toList ++ ' ' :: (List.replicate width ' ' ++ joined)) := by
      rw [List.isPrefixOf?_eq_some_iff_append_eq]
      simp [instruction, wide, gap, joined, List.replicate_succ, String.toList_intercalate]
    have starting : joined.head? = first.toList.head? := head?_intercalate several _
    have eaten : (List.replicate width ' ' ++ joined).dropWhile (· == ' ') = joined :=
      dropWhile_gap (starting ▸ solid) width
    have found : joined ≠ [] := by
      rw [← List.isSome_head?, starting, List.isSome_head?]
      exact several
    have split : splitOperands joined = first.toList :: rest.map String.toList :=
      splitOperands_intercalate (List.cons_ne_nil _ _) (by simpa using whole)
    have front : (mnemonic.toList ++ ' ' :: (List.replicate width ' ' ++ joined)).takeWhile
        (· != ' ') = mnemonic.toList := by
      simp [List.takeWhile_append_of_pos letters]
    have behind : ((mnemonic.toList ++ ' ' :: (List.replicate width ' ' ++ joined)).dropWhile
        (· != ' ')).dropWhile (· == ' ') = joined := by
      simpa [List.dropWhile_append_of_pos letters] using eaten
    simp only [readInstruction?, taken, Option.map_some, front, behind, if_neg found, split]
    simp

/-- What stands in front of the operands of an instruction. -/
def lead (mnemonic : String) : String :=
  margin ++ mnemonic ++ gap (max 1 (mnemonicWidth - mnemonic.utf8ByteSize))

/-- An instruction with operands is its lead and the joined operands. -/
theorem instruction_of_ne_nil (mnemonic : String) {operands : List String}
    (several : operands ≠ []) :
    instruction mnemonic operands = lead mnemonic ++ String.intercalate ", " operands := by
  obtain ⟨first, rest, rfl⟩ := List.exists_cons_of_ne_nil several
  rfl

/-- A space is one byte. -/
theorem utf8ByteSize_gap (width : Nat) : (gap width).utf8ByteSize = width := by
  induction width with
  | zero => rfl
  | succ width inductionHypothesis =>
    have longer : gap (width + 1) = " " ++ gap width := by
      simp [gap, List.replicate_succ, String.ofList_cons]
    rw [longer, String.utf8ByteSize_append, inductionHypothesis, Nat.add_comm]
    rfl

/-- The lead of a mnemonic that fits in its column ends with the column. -/
theorem utf8ByteSize_lead {mnemonic : String} (short : mnemonic.utf8ByteSize ≤ 23) :
    (lead mnemonic).utf8ByteSize = 32 := by
  have indented : margin.utf8ByteSize = 8 := by decide
  rw [lead, String.utf8ByteSize_append, String.utf8ByteSize_append, utf8ByteSize_gap, indented,
    mnemonicWidth]
  omega

/-- A mnemonic that does not fit is followed by one space. -/
theorem lead_of_long {mnemonic : String} (long : 23 < mnemonic.utf8ByteSize) :
    lead mnemonic = margin ++ mnemonic ++ " " := by
  have narrow : max 1 (mnemonicWidth - mnemonic.utf8ByteSize) = 1 := by
    rw [mnemonicWidth]
    omega
  rw [lead, narrow]
  rfl

/-- A mnemonic and operands that can be told apart in writing: the mnemonic is one word, no operand
is empty or holds the separator, and the first one does not begin with a space. -/
structure Legible (mnemonic : String) (operands : List String) : Prop where
  word : ' ' ∉ mnemonic.toList
  filled : ∀ operand ∈ operands, operand ≠ ""
  whole : ∀ operand ∈ operands, Whole operand.toList
  solid : ∀ first ∈ operands.head?, first.toList.head? ≠ some ' '

/-- A legible instruction in writing is read back. -/
theorem Legible.read {mnemonic : String} {operands : List String}
    (legible : Legible mnemonic operands) :
    readInstruction? (instruction mnemonic operands) = some (mnemonic, operands) :=
  readInstruction?_instruction legible.word legible.whole fun first member =>
    ⟨legible.filled first (List.mem_of_mem_head? member), legible.solid first member⟩

/-- From an instruction in writing its mnemonic and its operands are recovered, if they are legible,
so no other legible instruction is written like it. Without operands it ends with the mnemonic. With
operands they begin at byte 32, or one space behind a mnemonic of more than 23 bytes. -/
theorem instructions_recovered {mnemonic : String} {operands : List String}
    (legible : Legible mnemonic operands) :
    readInstruction? (instruction mnemonic operands) = some (mnemonic, operands) ∧
      (∀ other others, Legible other others →
        instruction other others = instruction mnemonic operands →
          other = mnemonic ∧ others = operands) ∧
      (operands = [] → instruction mnemonic operands = margin ++ mnemonic) ∧
      (operands ≠ [] →
        instruction mnemonic operands = lead mnemonic ++ String.intercalate ", " operands ∧
        (mnemonic.utf8ByteSize ≤ 23 → (lead mnemonic).utf8ByteSize = 32) ∧
        (23 < mnemonic.utf8ByteSize → lead mnemonic = margin ++ mnemonic ++ " ")) := by
  refine ⟨legible.read, fun other others also same => ?_, ?_, fun several => ?_⟩
  · have both : some (other, others) = some (mnemonic, operands) := by
      rw [← also.read, same, legible.read]
    simpa using both
  · rintro rfl
    rfl
  · exact ⟨instruction_of_ne_nil mnemonic several, utf8ByteSize_lead, lead_of_long⟩

/-- Operands may end in a comma, begin with a space or be a comma, and a mnemonic may have letters
of more than one byte. -/
theorem awkward_instruction_recovered :
    Legible "VM_Ä" ["a,", " b", ","] ∧
      instruction "VM_Ä" ["a,", " b", ","] = "        VM_Ä                   a,,  b, ," ∧
      readInstruction? "        VM_Ä                   a,,  b, ," =
        some ("VM_Ä", ["a,", " b", ","]) ∧
      (lead "VM_Ä").utf8ByteSize = 32 := by
  have legible : Legible "VM_Ä" ["a,", " b", ","] :=
    ⟨by decide, by decide, by decide, by decide⟩
  have written : instruction "VM_Ä" ["a,", " b", ","] =
      "        VM_Ä                   a,,  b, ," := by decide
  obtain ⟨read, -, -, placed⟩ := instructions_recovered legible
  obtain ⟨-, column, -⟩ := placed (List.cons_ne_nil _ _)
  exact ⟨legible, written, written ▸ read, column (by decide)⟩

end EventScript.Assembly
