import EventScript.Proofs.Instructions
import EventScript.Proofs.Rendering

/-!
# Entries read back

What a script leaves behind is a list of entries, each a text. An entry that ends in a dollar sign
and a colon is the definition of a label, whatever stands before these two. Any other entry is idle,
that is blank or a comment, or it is one of the three instructions that decide where to go on, or it
is of no concern here and is shown as it stands. The reader knows the characters of an entry alone.
A jump has its target behind the column of mnemonics, with all spaces that the target begins with,
since names of labels may begin with spaces.
-/
namespace EventScript

open Assembly (Comparison Line Operand splitOperands)

/-- What an entry says about where to go on. Labels are given by their symbols. -/
inductive Sense where
  | idle
  | label (symbol : String)
  | stop
  | jump (symbol : String)
  /-- Goes on at the symbol if the operand compares with the value. -/
  | test (comparison : Comparison) (operand : String) (value : Int) (symbol : String)
  | shown
deriving DecidableEq, Repr

/-- The symbol of a label in an entry, of one that it goes on at or of the one that it defines. -/
def Sense.symbol? : Sense → Option String
  | label symbol => some symbol
  | jump symbol => some symbol
  | test _ _ _ symbol => some symbol
  | _ => none

/-- The comparisons by the words that entries have for them. -/
def comparisonWords : List (String × Comparison) :=
  [(".EQ", .equal), (".NE", .unequal), (".LT", .less), (".GT", .greater), (".LTE", .lessOrEqual),
    (".GTE", .greaterOrEqual)]

/-- Whether an entry is blank or a comment. -/
def isIdle (entry : String) : Bool :=
  match entry.toList.dropWhile (· == ' ') with
  | [] => true
  | c :: _ => c == ';'

/-- The words of a test: a comparison and, behind a gap, an operand, a value and a symbol. -/
def readTest? (words : String) : Option Sense :=
  let operands := (words.toList.dropWhile (· != ' ')).dropWhile (· == ' ')
  match (splitOperands operands).map String.ofList with
  | [operand, value, symbol] => do
    let comparison ← comparisonWords.lookup (String.ofList (words.toList.takeWhile (· != ' ')))
    return .test comparison operand (← value.toInt?) symbol
  | _ => none

/-- What an entry says. -/
def sense (entry : String) : Sense :=
  match between? "" "$:" entry with
  | some name => .label (name ++ "$")
  | none =>
    if isIdle entry = true then .idle
    else if entry = "        VM_STOP" then .stop
    else
      match between? "        VM_JUMP                 " "" entry with
      | some symbol => .jump symbol
      | none => ((between? "        VM_IF_CONST " ", 0" entry).bind readTest?).getD .shown

/-- Whether an entry that begins in some way can be no comment and none of the three instructions,
whatever it goes on with. -/
def isOrdinary (front : String) : Bool :=
  !isIdle front &&
    ["        VM_STOP", "        VM_JUMP                 ", "        VM_IF_CONST "].all fun other =>
      !other.toList.isPrefixOf front.toList && !front.toList.isPrefixOf other.toList

section Fronts

variable {front other rest : String}

/-- An entry that is not idle does not become so by what it goes on with. -/
theorem isIdle_append (busy : isIdle front = false) (rest : String) :
    isIdle (front ++ rest) = false := by
  unfold isIdle at busy ⊢
  rw [String.toList_append]
  cases words : front.toList.dropWhile (· == ' ') with
  | nil => rw [words] at busy; cases busy
  | cons c others =>
    rw [words] at busy
    have solid : front.toList.dropWhile (· == ' ') ≠ [] := by simp [words]
    rw [List.dropWhile_append, words]
    exact busy

/-- A text is not met again behind another one from which it differs somewhere. -/
theorem not_prefix_append (notShorter : ¬other.toList <+: front.toList)
    (notLonger : ¬front.toList <+: other.toList) : ¬other.toList <+: (front ++ rest).toList := by
  intro met
  rw [String.toList_append] at met
  rcases List.prefix_or_prefix_of_prefix met (List.prefix_append _ _) with shorter | longer
  · exact notShorter shorter
  · exact notLonger longer

/-- Only an entry that begins as it should is read behind its beginning. -/
theorem between?_eq_none {entry : String} (back : String)
    (other : ¬front.toList <+: entry.toList) : between? front back entry = none := by
  cases found : between? front back entry with
  | none => rfl
  | some middle =>
    have begins : front.toList <+: entry.toList := by
      rw [eq_of_between? found, String.append_assoc, String.toList_append]
      exact List.prefix_append _ _
    exact absurd begins other

/-- An entry that is no definition of a label is not read as one. -/
theorem between?_definition_eq_none {entry : String} (other : ∀ name, entry ≠ name ++ "$:") :
    between? "" "$:" entry = none := by
  cases found : between? "" "$:" entry with
  | none => rfl
  | some name =>
    have same := eq_of_between? found
    rw [String.empty_append] at same
    exact absurd same (other name)

/-- The definition of a label is read as one, whatever its name says. -/
theorem sense_definition (name : String) : sense (name ++ "$:") = .label (name ++ "$") := by
  have found := between?_append "" name "$:"
  rw [String.empty_append] at found
  rw [sense, found]

/-- An idle entry. -/
theorem sense_of_isIdle {entry : String} (idle : isIdle entry = true)
    (other : ∀ name, entry ≠ name ++ "$:") : sense entry = .idle := by
  rw [sense, between?_definition_eq_none other]
  exact if_pos idle

/-- An entry that is not idle and begins neither as the stop nor as a jump is a test, or it is
shown. -/
theorem sense_of_busy {entry : String} (other : ∀ name, entry ≠ name ++ "$:")
    (busy : isIdle entry = false) (noStop : ¬"        VM_STOP".toList <+: entry.toList)
    (noJump : ¬"        VM_JUMP                 ".toList <+: entry.toList) :
    sense entry = ((between? "        VM_IF_CONST " ", 0" entry).bind readTest?).getD .shown := by
  have unlike : entry ≠ "        VM_STOP" := by
    rintro rfl
    exact noStop List.prefix_rfl
  rw [sense, between?_definition_eq_none other]
  simp only [busy, Bool.false_eq_true, if_false, if_neg unlike, between?_eq_none _ noJump]

/-- An entry with an ordinary beginning is shown, unless it is the definition of a label. -/
theorem sense_of_isOrdinary (ordinary : isOrdinary front = true)
    (other : ∀ name, front ++ rest ≠ name ++ "$:") : sense (front ++ rest) = .shown := by
  simp only [isOrdinary, List.all_cons, List.all_nil, Bool.and_true, Bool.and_eq_true,
    Bool.not_eq_true', ← Bool.not_eq_true, List.isPrefixOf_iff_prefix] at ordinary
  obtain ⟨busy, ⟨stopShorter, stopLonger⟩, ⟨jumpShorter, jumpLonger⟩, testShorter, testLonger⟩ :=
    ordinary
  rw [sense_of_busy other (isIdle_append (Bool.eq_false_iff.mpr busy) rest)
    (not_prefix_append stopShorter stopLonger) (not_prefix_append jumpShorter jumpLonger),
    between?_eq_none _ (not_prefix_append testShorter testLonger)]
  rfl

end Fronts

/-- The stop is read as one. -/
theorem sense_stop : sense "        VM_STOP" = .stop := by
  have busy : isIdle "        VM_STOP" = false := by decide
  have other : ∀ name, "        VM_STOP" ≠ name ++ "$:" := fun name => ne_definition rfl
  rw [sense, between?_definition_eq_none other]
  simp only [busy, Bool.false_eq_true, if_false, if_true]

/-- A jump is read with its target, whatever the name of the target says. -/
theorem sense_jump (name : String) :
    sense ("        VM_JUMP                 " ++ (name ++ "$")) = .jump (name ++ "$") := by
  have busy : isIdle "        VM_JUMP                 " = false := by decide
  have other : ∀ label, "        VM_JUMP                 " ++ (name ++ "$") ≠ label ++ "$:" := by
    intro label
    rw [← String.append_assoc]
    exact append_ne_definition rfl (by decide)
  have noStop : "        VM_JUMP                 " ++ (name ++ "$") ≠ "        VM_STOP" := by
    intro same
    have met : "        VM_JUMP                 ".toList <+: "        VM_STOP".toList := by
      rw [← same, String.toList_append]
      exact List.prefix_append _ _
    revert met
    decide
  have found := between?_append "        VM_JUMP                 " (name ++ "$") ""
  rw [String.append_empty] at found
  rw [sense, between?_definition_eq_none other]
  simp only [isIdle_append busy, found, Bool.false_eq_true, if_false, if_neg noStop]

/-- Whether a text has neither spaces nor commas. -/
def isWord (text : String) : Bool := text.toList.all fun c => c != ' ' && c != ','

/-- A word has no comma. -/
theorem comma_not_mem {text : String} (word : isWord text = true) : ',' ∉ text.toList :=
  fun member => by cases List.all_eq_true.mp word ',' member

/-- A word does not begin with a space, whatever stands behind it. -/
theorem head?_ne_space {text : String} (word : isWord text = true) (rest : List Char) :
    (text.toList ++ ',' :: rest).head? ≠ some ' ' := by
  cases letters : text.toList with
  | nil => simp
  | cons c others =>
    rw [List.cons_append, List.head?_cons]
    rintro ⟨⟩
    cases List.all_eq_true.mp word ' ' (by simp [letters])

/-- Digits make a word. -/
theorem isWord_of_isReserved {name : String} (reserved : isReserved name = true) :
    isWord name = true := by
  refine List.all_eq_true.mpr fun c member => ?_
  have digit : c.isDigit = true := List.all_eq_true.mp reserved c member
  rw [Bool.and_eq_true, bne_iff_ne, bne_iff_ne]
  constructor <;> (rintro rfl; cases digit)

/-- Decimals with a sign are words. -/
theorem isWord_repr (value : Int) : isWord value.repr = true := by
  cases value with
  | ofNat number => exact isWord_of_isReserved (isReserved_toString number)
  | negSucc number =>
    change isWord ("-" ++ (number + 1).repr) = true
    rw [isWord, String.toList_append, List.all_append, Bool.and_eq_true]
    exact ⟨rfl, isWord_of_isReserved (isReserved_toString (number + 1))⟩

/-- The words of a test are read one by one. -/
theorem readTest?_words (comparison : Comparison) {operand symbol : String} (value : Int)
    (width : Nat) (operandWord : isWord operand = true) (symbolWord : isWord symbol = true) :
    readTest? (comparison.symbol ++ Assembly.gap (width + 1) ++
        String.intercalate ", " [operand, value.repr, symbol]) =
      some (.test comparison operand value symbol) := by
  let words := comparison.symbol ++ Assembly.gap (width + 1) ++
    String.intercalate ", " [operand, value.repr, symbol]
  let parts := [operand, value.repr, symbol].map String.toList
  have spaceless : ∀ c ∈ comparison.symbol.toList, (c != ' ') = true :=
    Assembly.bne_of_not_mem (by cases comparison <;> decide)
  have written : words.toList = comparison.symbol.toList ++ ' ' :: (List.replicate width ' ' ++
      [',', ' '].intercalate parts) := by
    simp [words, Assembly.gap, List.replicate_succ, parts]
  have solid : ([',', ' '].intercalate parts).head? ≠ some ' ' := by
    simpa [parts] using head?_ne_space operandWord
      (' ' :: (value.repr.toList ++ ',' :: ' ' :: symbol.toList))
  have token : words.toList.takeWhile (· != ' ') = comparison.symbol.toList := by
    simp [written, List.takeWhile_append_of_pos spaceless]
  have behind : (words.toList.dropWhile (· != ' ')).dropWhile (· == ' ') =
      [',', ' '].intercalate parts := by
    rw [written, List.dropWhile_append_of_pos spaceless]
    exact Assembly.dropWhile_gap solid width
  have split : splitOperands ([',', ' '].intercalate parts) = parts := by
    refine Assembly.splitOperands_intercalate (List.cons_ne_nil _ _) ?_
    simp only [parts, List.map_cons, List.map_nil, List.mem_cons, List.not_mem_nil, or_false]
    rintro part (rfl | rfl | rfl)
    · exact Assembly.whole_of_not_mem (comma_not_mem operandWord)
    · exact Assembly.whole_of_not_mem (comma_not_mem (isWord_repr value))
    · exact Assembly.whole_of_not_mem (comma_not_mem symbolWord)
  have named : comparisonWords.lookup comparison.symbol = some comparison := by
    cases comparison <;> decide
  change readTest? words = _
  simp only [readTest?, token, behind, split]
  simp [parts, named, Int.toInt?_repr]

/-- A test is read with all that it says, where its operand and its target are words. -/
theorem sense_branch (comparison : Comparison) {operand target : String} (value : Int)
    (operandWord : isWord operand = true) (targetWord : isWord target = true) :
    sense (Line.branch comparison operand value target).render =
      .test comparison operand value (target ++ "$") := by
  obtain ⟨width, wide⟩ : ∃ width,
      max 1 (Assembly.mnemonicWidth - ("VM_IF_CONST " ++ comparison.symbol).utf8ByteSize) =
        width + 1 := Nat.exists_eq_add_one_of_ne_zero (by omega)
  have written : (Line.branch comparison operand value target).render =
      "        VM_IF_CONST " ++ (comparison.symbol ++ Assembly.gap (width + 1) ++
        String.intercalate ", " [operand, value.repr, target ++ "$"]) ++ ", 0" := by
    rw [Line.render, Assembly.instruction_of_ne_nil _ (List.cons_ne_nil _ _), Assembly.lead, wide]
    have indented : Assembly.margin ++ ("VM_IF_CONST " ++ comparison.symbol) =
        "        VM_IF_CONST " ++ comparison.symbol := by
      rw [← String.append_assoc]
      rfl
    rw [indented]
    simp [String.append_assoc, Ledger.symbol, toString]
  have busy : isIdle "        VM_IF_CONST " = false := by decide
  have other : ∀ label, (Line.branch comparison operand value target).render ≠ label ++ "$:" := by
    intro label
    rw [Line.render_branch]
    exact append_ne_definition rfl (by decide)
  have targetSymbol : isWord (target ++ "$") = true := by
    rw [isWord, String.toList_append, List.all_append, Bool.and_eq_true]
    exact ⟨targetWord, rfl⟩
  have read := readTest?_words comparison value width operandWord targetSymbol
  generalize comparison.symbol ++ Assembly.gap (width + 1) ++
    String.intercalate ", " [operand, value.repr, target ++ "$"] = words at read written
  have found := between?_append "        VM_IF_CONST " words ", 0"
  rw [written] at other ⊢
  rw [sense_of_busy other, found, Option.bind_some, read, Option.getD_some]
  all_goals rw [String.append_assoc]
  · exact isIdle_append busy _
  · exact not_prefix_append (by decide) (by decide)
  · exact not_prefix_append (by decide) (by decide)

namespace Assembly

/-- What a line says about where to go on. -/
def Line.sense : Line → Sense
  | comment _ => .idle
  | blank => .idle
  | label name => .label (name ++ "$")
  | jump target => .jump (target ++ "$")
  | branch comparison operand value target => .test comparison operand value (target ++ "$")
  | stop => .stop
  | _ => .shown

/-- Whether a line can be told in writing from lines of other kinds. -/
def Line.isLegible : Line → Bool
  | instruction mnemonic _ => isOrdinary (margin ++ mnemonic)
  | branch _ operand _ target => isWord operand && isWord target
  | _ => true

/-- Whether a line can be read back for what it is. -/
def Line.isClear (line : Line) : Bool := line.isTame && line.isLegible

/-- A clear line is tame. -/
theorem Line.isTame_of_isClear {line : Line} (clear : line.isClear = true) : line.isTame = true :=
  ((Bool.and_eq_true _ _).mp clear).1

/-- A clear line in writing is read as what it is. -/
theorem Line.sense_render {line : Line} (clear : line.isClear = true) :
    EventScript.sense line.render = line.sense := by
  obtain ⟨tame, legible⟩ := (Bool.and_eq_true _ _).mp clear
  cases line with
  | comment text =>
    refine sense_of_isIdle ?_ fun name => ne_definition (Line.isTame_render_comment tame)
    simp [isIdle, render, margin]
  | instruction mnemonic operands =>
    have other : ∀ name, (instruction mnemonic operands).render ≠ name ++ "$:" :=
      fun name => ne_definition (Line.isTame_render_instruction tame)
    obtain ⟨rest, written⟩ : ∃ rest, (instruction mnemonic operands).render =
        margin ++ mnemonic ++ rest := by
      cases operands with
      | nil => exact ⟨"", String.append_empty.symm⟩
      | cons first others => exact ⟨_, String.append_assoc ..⟩
    rw [written] at other ⊢
    exact sense_of_isOrdinary legible other
  | branch comparison operand value target =>
    obtain ⟨operandWord, targetWord⟩ := (Bool.and_eq_true _ _).mp legible
    exact sense_branch comparison value operandWord targetWord
  | jump target =>
    rw [render_jump]
    exact sense_jump target
  | label name =>
    rw [render_label]
    exact sense_definition name
  | stop => exact sense_stop
  | literal text =>
    have ordinary : isOrdinary "        .asciz \"" = true := by decide
    have other : ∀ name, (literal text).render ≠ name ++ "$:" :=
      fun name => append_ne_definition rfl (by decide)
    have written : (literal text).render = "        .asciz \"" ++ (escape text ++ "\"") := by
      rw [render, String.append_assoc]
      rfl
    rw [written] at other ⊢
    exact sense_of_isOrdinary ordinary other
  | raw text => cases tame
  | blank => exact sense_of_isIdle (by decide) fun name => ne_definition rfl

end Assembly

/-- A line in writing is the definition of a label only where it puts the label. -/
theorem render_eq_definition_iff {line : Line} (tame : line.isTame = true) (name : String) :
    line.render = name ++ "$:" ↔ line = .label name := by
  constructor
  · intro same
    cases line with
    | comment text => exact absurd same (ne_definition (Line.isTame_render_comment tame))
    | instruction mnemonic operands =>
      exact absurd same (ne_definition (Line.isTame_render_instruction tame))
    | branch comparison operand value target =>
      rw [Line.render_branch] at same
      exact absurd same (append_ne_definition rfl (by decide))
    | jump target =>
      rw [Line.render_jump, Ledger.symbol, ← String.append_assoc] at same
      exact absurd same (append_ne_definition rfl (by decide))
    | label other =>
      rw [Line.render_label] at same
      have equal : other = name := by simpa using same
      rw [equal]
    | stop => exact absurd same (ne_definition rfl)
    | literal text => exact absurd same (append_ne_definition rfl (by decide))
    | raw text => cases tame
    | blank => exact absurd same (ne_definition rfl)
  · rintro rfl
    exact Line.render_label name

end EventScript
