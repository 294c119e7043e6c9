import EventScript.Document
import EventScript.Proofs.Ledger

/-!
# Lines in writing

The text of a script is its lines, each ended by a newline. Splitting the text at newlines gives the
lines back as long as none of them has a newline of its own. Apart from labels, no line of a script
looks like the definition of a label, which ends in a dollar sign and a colon: what an instruction,
a comment or a literal ends in is a digit, a letter or a bracket, whatever texts and names it
carries. Before the body it is only the lines for the linker that can look so, since they end in a
name.
-/
namespace EventScript

open Assembly (Comparison Line Operand)

/-- The lines of a text, which newlines separate. -/
def textLines (text : String) : List String := (text.toList.splitOn '\n').map String.ofList

/-- A text without a newline. -/
def Unbroken (text : String) : Prop := '\n' ∉ text.toList

/-- Two texts in a row have no newline when neither has one. -/
@[simp]
theorem unbroken_append (first second : String) :
    Unbroken (first ++ second) ↔ Unbroken first ∧ Unbroken second := by
  simp [Unbroken]

/-- The last line of a text is ended like the others, so an empty line seems to follow it. -/
theorem joinLines_eq {lines : List String} (several : lines ≠ []) :
    joinLines lines = String.intercalate "\n" (lines ++ [""]) := by
  rw [joinLines, String.intercalate_append_of_ne_nil several (List.cons_ne_nil _ _)]
  simp

/-- Splitting joined lines gives them back, if none of them has a newline of its own. -/
theorem textLines_joinLines {lines : List String} (several : lines ≠ [])
    (unbroken : ∀ line ∈ lines, Unbroken line) :
    textLines (joinLines lines) = lines ++ [""] := by
  have parts : ∀ part ∈ (lines ++ [""]).map String.toList, '\n' ∉ part := by
    simp only [List.map_append, List.mem_append, List.mem_map]
    rintro _ (⟨line, member, rfl⟩ | ⟨line, member, rfl⟩)
    · exact unbroken line member
    · simp [List.mem_singleton.mp member]
  have newline : "\n".toList = ['\n'] := rfl
  rw [textLines, joinLines_eq several, String.toList_intercalate, newline,
    List.splitOn_intercalate '\n' parts (by simp), List.map_map]
  simp [Function.comp_def]

/-- A line with a newline of its own is two lines of the text. -/
theorem joinLines_append_broken {before : List String} (several : before ≠ [])
    (upper lower : String) (after : List String) :
    joinLines (before ++ (upper ++ "\n" ++ lower) :: after) =
      joinLines (before ++ upper :: lower :: after) := by
  simp only [joinLines, String.intercalate_append_of_ne_nil several (List.cons_ne_nil _ _),
    String.intercalate_cons_cons, String.intercalate_cons_append]

/-- What stands in a line between a beginning and an end. -/
def between? (front back line : String) : Option String :=
  ((front.toList.isPrefixOf? line.toList).bind back.toList.isSuffixOf?).map String.ofList

/-- Between a beginning and an end stands what was put there. -/
theorem between?_append (front middle back : String) :
    between? front back (front ++ middle ++ back) = some middle := by
  have opened : front.toList.isPrefixOf? (front ++ middle ++ back).toList =
      some (middle.toList ++ back.toList) := by
    rw [List.isPrefixOf?_eq_some_iff_append_eq]
    simp
  have closed : back.toList.isSuffixOf? (middle.toList ++ back.toList) = some middle.toList := by
    rw [List.isSuffixOf?_eq_some_iff_append_eq]
  rw [between?, opened, Option.bind_some, closed, Option.map_some, String.ofList_toList]

/-- What stands between a beginning and an end makes the line with them. -/
theorem eq_of_between? {front middle back line : String}
    (found : between? front back line = some middle) : line = front ++ middle ++ back := by
  obtain ⟨inner, between, rfl⟩ := Option.map_eq_some_iff.mp found
  obtain ⟨behind, opened, closed⟩ := Option.bind_eq_some_iff.mp between
  rw [List.isPrefixOf?_eq_some_iff_append_eq] at opened
  rw [List.isSuffixOf?_eq_some_iff_append_eq] at closed
  rw [← String.toList_inj, ← opened, ← closed]
  simp

/-- A text without newlines and colons. -/
def isTame (text : String) : Bool := text.toList.all fun c => c != '\n' && c != ':'

/-- Two texts in a row are tame when both are. -/
@[simp]
theorem isTame_append (first second : String) :
    isTame (first ++ second) = (isTame first && isTame second) := by
  simp [isTame]

/-- A tame text has no newline. -/
theorem unbroken_of_isTame {text : String} (tame : isTame text = true) : Unbroken text :=
  fun member => by cases List.all_eq_true.mp tame '\n' member

/-- A text of characters of one class is tame, if newlines and colons do not belong to the class. -/
theorem isTame_of_all {text : String} {belongs : Char → Bool}
    (all : text.toList.all belongs = true) (newline : belongs '\n' = false)
    (colon : belongs ':' = false) : isTame text = true := by
  refine List.all_eq_true.mpr fun c member => ?_
  have inside : belongs c = true := List.all_eq_true.mp all c member
  rw [Bool.and_eq_true, bne_iff_ne, bne_iff_ne]
  constructor
  · rintro rfl
    rw [newline] at inside
    cases inside
  · rintro rfl
    rw [colon] at inside
    cases inside

/-- A text of digits is tame. -/
theorem isTame_of_isReserved {name : String} (reserved : isReserved name = true) :
    isTame name = true := isTame_of_all reserved rfl rfl

/-- Decimals are tame. -/
@[simp]
theorem isTame_repr (number : Nat) : isTame number.repr = true :=
  isTame_of_isReserved (isReserved_toString number)

/-- Decimals with a sign are tame. -/
@[simp]
theorem isTame_repr_int (value : Int) : isTame value.repr = true := by
  cases value with
  | ofNat number => exact isTame_repr number
  | negSucc number =>
    change isTame ("-" ++ (number + 1).repr) = true
    rw [isTame_append, isTame_repr]
    rfl

/-- A text that ends in something tame is not the definition of a label. -/
theorem append_ne_definition {before after name : String} (tame : isTame after = true)
    (filled : after ≠ "") : before ++ after ≠ name ++ "$:" := by
  intro same
  have several : after.toList ≠ [] := by simpa using filled
  have last : after.toList.getLast? = some ':' := by
    rw [← List.getLast?_append_of_ne_nil before.toList several, ← String.toList_append, same]
    simp
  cases List.all_eq_true.mp tame ':' (List.mem_of_getLast? last)

/-- A tame text is not the definition of a label. -/
theorem ne_definition {text name : String} (tame : isTame text = true) : text ≠ name ++ "$:" := by
  rintro rfl
  rw [isTame_append] at tame
  cases (Bool.and_eq_true _ _ ▸ tame).2

/-- A text in a literal has no newline, whatever it says. -/
theorem unbroken_escape (text : String) : Unbroken (Assembly.escape text) := by
  rw [Unbroken, Assembly.escape, String.toList_ofList]
  intro member
  obtain ⟨c, _, inside⟩ := List.mem_flatMap.mp member
  unfold Assembly.escapeChar at inside
  split at inside
  case h_4 other => exact other (List.mem_singleton.mp inside).symm
  all_goals simp at inside

namespace Assembly

/-- A test in writing, with its target near the end. -/
theorem Line.render_branch (comparison : Comparison) (operand : String) (value : Int)
    (target : String) :
    (Line.branch comparison operand value target).render =
      Assembly.instruction ("VM_IF_CONST " ++ comparison.symbol) [operand, toString value, ""] ++
        Ledger.symbol target ++ ", 0" := by
  simp [Line.render, Assembly.instruction, String.append_assoc]

/-- A jump in writing, with its target at the end. -/
theorem Line.render_jump (target : String) :
    (Line.jump target).render = Assembly.instruction "VM_JUMP" [""] ++ Ledger.symbol target := by
  simp [Line.render, Assembly.instruction]

/-- The definition of a label. -/
theorem Line.render_label (name : String) : (Line.label name).render = name ++ "$:" := by
  rw [Line.render, Ledger.symbol, String.append_assoc]
  rfl

/-- A text takes one line as a literal, whatever it says. -/
theorem Line.unbroken_render_literal (text : String) : Unbroken (literal text).render := by
  rw [render, unbroken_append, unbroken_append, unbroken_append]
  exact ⟨⟨⟨unbroken_of_isTame rfl, unbroken_of_isTame rfl⟩, unbroken_escape text⟩,
    unbroken_of_isTame rfl⟩

/-- Whether what an operand carries is tame. -/
def Operand.isTame : Operand → Bool
  | text words => EventScript.isTame words
  | label name => EventScript.isTame name
  | _ => true

/-- Whether what a line carries is tame, apart from texts in literals and the labels that it goes on
at or puts into the script. -/
def Line.isTame : Line → Bool
  | comment text => EventScript.isTame text
  | instruction mnemonic operands =>
    EventScript.isTame mnemonic && operands.all Operand.isTame
  | branch _ operand _ _ => EventScript.isTame operand
  | raw _ => false
  | _ => true

/-- A gap is tame. -/
@[simp]
theorem isTame_gap (width : Nat) : EventScript.isTame (gap width) = true := by
  simp [EventScript.isTame, gap]

/-- Tame texts separated by commas are tame. -/
theorem isTame_intercalate {texts : List String} (tame : ∀ text ∈ texts, EventScript.isTame text) :
    EventScript.isTame (String.intercalate ", " texts) = true := by
  induction texts with
  | nil => rfl
  | cons first rest inductionHypothesis =>
    have firstTame := tame first List.mem_cons_self
    cases rest with
    | nil => simpa using firstTame
    | cons second rest =>
      have restTame :=
        inductionHypothesis fun text member => tame text (List.mem_cons_of_mem first member)
      rw [String.intercalate_cons_cons, isTame_append, isTame_append, firstTame, restTame]
      rfl

/-- An operand is written tamely where it carries something tame. -/
theorem Operand.isTame_render {operand : Operand} (tame : operand.isTame = true) :
    EventScript.isTame operand.render = true := by
  cases operand with
  | text words => exact tame
  | number value => exact isTame_repr_int value
  | label name =>
    have carried : EventScript.isTame name = true := tame
    rw [Operand.render, Ledger.symbol, isTame_append, carried]
    rfl
  | actor field depth =>
    cases field with
    | zero =>
      cases depth with
      | zero => rfl
      | succ depth =>
        simp only [render, expression, isTame_append, toString, isTame_repr]
        rfl
    | succ field =>
      cases depth with
      | zero =>
        simp only [render, expression, isTame_append, toString, isTame_repr]
        rfl
      | succ depth =>
        simp only [render, expression, isTame_append, toString, isTame_repr]
        rfl

/-- An instruction is written tamely where its parts are tame. -/
theorem isTame_instruction {mnemonic : String} {operands : List String}
    (named : EventScript.isTame mnemonic = true)
    (tame : ∀ operand ∈ operands, EventScript.isTame operand = true) :
    EventScript.isTame (Assembly.instruction mnemonic operands) = true := by
  have indented : EventScript.isTame margin = true := rfl
  cases operands with
  | nil => simp [Assembly.instruction, indented, named]
  | cons first rest =>
    simp [Assembly.instruction, indented, named, isTame_intercalate tame]

/-- A tame comment is written tamely. -/
theorem Line.isTame_render_comment {text : String} (tame : (comment text).isTame = true) :
    EventScript.isTame (comment text).render = true := by
  rw [render, isTame_append, isTame_append]
  exact tame

/-- A tame instruction is written tamely. -/
theorem Line.isTame_render_instruction {mnemonic : String} {operands : List Operand}
    (tame : (instruction mnemonic operands).isTame = true) :
    EventScript.isTame (instruction mnemonic operands).render = true := by
  obtain ⟨named, carried⟩ := (Bool.and_eq_true _ _).mp tame
  refine isTame_instruction named fun operand member => ?_
  obtain ⟨inner, listed, rfl⟩ := List.mem_map.mp member
  exact Operand.isTame_render (List.all_eq_true.mp carried inner listed)

end Assembly

namespace Options

/-- The lines that make a script known to the linker, which end in its name. -/
def globals (name : String) (exported : Bool) : List String :=
  (".globl ___bank_" ++ name) :: if exported then [".globl _" ++ name] else []

/-- The lines before the body of a script and before those for the linker. -/
def heading (options : Options) (reserves : Bool) (name : String) : List String :=
  options.includes.map (fun path => ".include \"" ++ path ++ "\"") ++
    (["", ".area _CODE_" ++ toString options.bank, ""] ++
      ((if reserves then localActorSymbol else []) ++
        ["___bank_" ++ name ++ " = " ++ toString options.bank]))

/-- The lines between those for the linker and the body of a script. -/
def entry (reserves : Bool) (name : String) : List String :=
  ["", "_" ++ name ++ "::"] ++ if reserves then localActorWords else []

/-- The lines for the linker stand among lines of other kinds. -/
theorem preamble_eq (options : Options) (reserves : Bool) (name : String) (exported : Bool) :
    options.preamble reserves name exported =
      options.heading reserves name ++ (globals name exported ++ entry reserves name) := by
  simp [preamble, heading, globals, entry]

/-- The two lines for the linker differ. -/
theorem nodup_globals (name : String) (exported : Bool) :
    (globals name exported).Nodup := by
  cases exported <;> simp [globals]

/-- The lines for the linker begin with a dot, so none of them is the definition of a generated
label. -/
theorem not_mem_globals {name digits : String} {exported : Bool}
    (reserved : isReserved digits = true) : digits ++ "$:" ∉ globals name exported := by
  intro member
  have dotted : '.' ∈ (digits ++ "$:").toList := by
    simp only [globals, List.mem_cons] at member
    rcases member with same | global
    · rw [same]
      simp
    · cases exported with
      | false => cases global
      | true =>
        rw [List.mem_singleton.mp global]
        simp
  have digit : '.' ∈ digits.toList := by simpa using dotted
  cases List.all_eq_true.mp reserved '.' digit

/-- A label of the events may be written like a line for the linker, though. -/
example : ".globl ___bank_a" ++ "$:" ∈ globals "a$:" false := by decide

variable {options : Options} {reserves : Bool} {name line label : String}

/-- Lines that are written where the local actor is reserved are tame, if they all are. -/
theorem isTame_of_reserves {lines : List String} (tame : lines.all isTame = true)
    (member : line ∈ if reserves then lines else []) : isTame line = true := by
  cases reserves with
  | false => cases member
  | true => exact List.all_eq_true.mp tame line member

/-- No line of a heading is the definition of a label. -/
theorem ne_definition_of_mem_heading (member : line ∈ options.heading reserves name) :
    line ≠ label ++ "$:" := by
  simp only [heading, List.mem_append, List.mem_map, List.mem_cons, List.not_mem_nil,
    or_false] at member
  rcases member with ⟨path, _, rfl⟩ | (rfl | rfl | rfl) | symbol | rfl
  · exact append_ne_definition rfl (by decide)
  · exact ne_definition rfl
  · apply ne_definition
    rw [isTame_append, toString, instToStringNat, isTame_repr]
    rfl
  · exact ne_definition rfl
  · exact ne_definition (isTame_of_reserves rfl symbol)
  · exact append_ne_definition (isTame_repr options.bank) Nat.repr_ne_empty

/-- No line between those for the linker and the body is the definition of a label. -/
theorem ne_definition_of_mem_entry (member : line ∈ entry reserves name) :
    line ≠ label ++ "$:" := by
  simp only [entry, List.mem_append, List.mem_cons, List.not_mem_nil, or_false] at member
  rcases member with (rfl | rfl) | word
  · exact ne_definition rfl
  · intro same
    have characters := congrArg String.toList same
    simp only [String.toList_append] at characters
    exact absurd (List.append_inj_right' characters rfl) (by decide)
  · exact ne_definition (isTame_of_reserves rfl word)

/-- Before the body of a script, only the lines for the linker can be definitions of labels. -/
theorem count_preamble (options : Options) (reserves : Bool) (name : String) (exported : Bool)
    (label : String) :
    (options.preamble reserves name exported).count (label ++ "$:") =
      (globals name exported).count (label ++ "$:") := by
  have first : (options.heading reserves name).count (label ++ "$:") = 0 :=
    List.count_eq_zero.mpr fun member => ne_definition_of_mem_heading member rfl
  have last : (entry reserves name).count (label ++ "$:") = 0 :=
    List.count_eq_zero.mpr fun member => ne_definition_of_mem_entry member rfl
  rw [preamble_eq, List.count_append, List.count_append, first, last, Nat.zero_add, Nat.add_zero]

/-- The lines of a heading have no newline of their own, if the names in them have none. -/
theorem unbroken_heading (includesUnbroken : ∀ path ∈ options.includes, Unbroken path)
    (named : Unbroken name) (member : line ∈ options.heading reserves name) : Unbroken line := by
  have bank : Unbroken (toString options.bank) := unbroken_of_isTame (isTame_repr options.bank)
  simp only [heading, List.mem_append, List.mem_map, List.mem_cons, List.not_mem_nil,
    or_false] at member
  rcases member with ⟨path, listed, rfl⟩ | (rfl | rfl | rfl) | symbol | rfl
  · simp only [unbroken_append]
    exact ⟨⟨unbroken_of_isTame rfl, includesUnbroken path listed⟩, unbroken_of_isTame rfl⟩
  · exact unbroken_of_isTame rfl
  · rw [unbroken_append]
    exact ⟨unbroken_of_isTame rfl, bank⟩
  · exact unbroken_of_isTame rfl
  · exact unbroken_of_isTame (isTame_of_reserves rfl symbol)
  · simp only [unbroken_append]
    exact ⟨⟨⟨unbroken_of_isTame rfl, named⟩, unbroken_of_isTame rfl⟩, bank⟩

/-- The lines for the linker have no newline of their own, if the name of the script has none. -/
theorem unbroken_globals {exported : Bool} (named : Unbroken name)
    (member : line ∈ globals name exported) : Unbroken line := by
  have dotted : ∀ {start : String}, Unbroken start → Unbroken (start ++ name) :=
    fun started => (unbroken_append _ _).mpr ⟨started, named⟩
  rcases List.mem_cons.mp member with rfl | global
  · exact dotted (unbroken_of_isTame rfl)
  · cases exported with
    | false => cases global
    | true =>
      obtain rfl := List.mem_singleton.mp global
      exact dotted (unbroken_of_isTame rfl)

/-- The lines behind those for the linker have no newline of their own either. -/
theorem unbroken_entry (named : Unbroken name) (member : line ∈ entry reserves name) :
    Unbroken line := by
  simp only [entry, List.mem_append, List.mem_cons, List.not_mem_nil, or_false] at member
  rcases member with (rfl | rfl) | word
  · exact unbroken_of_isTame rfl
  · simp only [unbroken_append]
    exact ⟨⟨unbroken_of_isTame rfl, named⟩, by simp [Unbroken]⟩
  · exact unbroken_of_isTame (isTame_of_reserves rfl word)

/-- The lines before the body of a script have no newline of their own, if the names in them have
none. -/
theorem unbroken_preamble {exported : Bool}
    (includesUnbroken : ∀ path ∈ options.includes, Unbroken path) (named : Unbroken name)
    (member : line ∈ options.preamble reserves name exported) : Unbroken line := by
  rw [preamble_eq, List.mem_append, List.mem_append] at member
  rcases member with first | global | last
  · exact unbroken_heading includesUnbroken named first
  · exact unbroken_globals named global
  · exact unbroken_entry named last

/-- The lines of a text are those before the body, those of the body, and the empty one that seems
to follow the last newline. -/
theorem textLines_preamble {exported : Bool} {body : List String}
    (includesUnbroken : ∀ path ∈ options.includes, Unbroken path) (named : Unbroken name)
    (unbroken : ∀ line ∈ body, Unbroken line) :
    textLines (joinLines (options.preamble reserves name exported ++ body)) =
      options.preamble reserves name exported ++ body ++ [""] := by
  apply textLines_joinLines
  · simp [preamble]
  · intro line member
    rcases List.mem_append.mp member with ahead | inside
    · exact unbroken_preamble includesUnbroken named ahead
    · exact unbroken line inside

end Options

end EventScript
