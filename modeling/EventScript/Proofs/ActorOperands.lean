import EventScript.Draft.Assembled
import EventScript.Proofs.Instructions
import EventScript.Proofs.Printing

/-!
# Operands of the local actor

The local actor lives in the reserved words at the bottom of the stack, and a script addresses it
from the top. What it writes for that changes with the depth, and what it means must not. Here the
lines are read as the assembler reads them: an operand is worked out to a number, in which the
symbol of the actor stands for the lowest word of a stack that holds the reserved words alone, and
this number is counted from the height of the stack. Read in this way, the lines that set and move
the actor access the reserved words in one order at every depth.
-/
namespace EventScript

open Assembly (Line Operand readInstruction? expression)

/-- The place that the symbol of the local actor stands for, counted from the top of the stack. -/
def actorPlace : Int := -localActorSize

/-- What a word of an expression stands for. -/
def wordValue? (word : List Char) : Option Int :=
  if word = "ACTOR".toList then some actorPlace
  else (String.ofList word).toNat?.map Int.ofNat

/-- A total with the signed words behind it. -/
def sumWords? (total : Int) : List (List Char) → Option Int
  | [] => some total
  | ['+'] :: word :: rest => (wordValue? word).bind fun value => sumWords? (total + value) rest
  | ['-'] :: word :: rest => (wordValue? word).bind fun value => sumWords? (total - value) rest
  | _ => none

/-- The text in the brackets of an expression. Any other text is taken as it is. -/
def withoutBrackets (text : List Char) : List Char :=
  (("^/(".toList.isPrefixOf? text).bind fun rest => ")/".toList.isSuffixOf? rest).getD text

/-- The number that an operand works out to. -/
def placeOf? (operand : String) : Option Int :=
  match (withoutBrackets operand.toList).splitOn ' ' with
  | [] => none
  | word :: rest => (wordValue? word).bind fun value => sumWords? value rest

/-- What an instruction does to a cell of the stack. Cells are counted from the bottom. -/
inductive Access where
  /-- A constant goes into the cell. -/
  | store (cell : Int) (value : String)
  /-- The actor is moved whose data begin at the cell. -/
  | move (cell : Int)
deriving DecidableEq, Repr

/-- What a line does to a stack of some height, as far as it is about an actor. -/
def access? (height : Nat) (line : String) : Option Access :=
  match readInstruction? line with
  | some ("VM_SET_CONST", [target, value]) =>
    (placeOf? target).map fun place => .store (height + place) value
  | some ("VM_ACTOR_MOVE_TO", [actor]) => (placeOf? actor).map fun place => .move (height + place)
  | _ => none

/-- A decimal stands for its number. -/
theorem wordValue?_toDigits (number : Nat) :
    wordValue? (Nat.toDigits 10 number) = some (number : Int) := by
  have other : Nat.toDigits 10 number ≠ "ACTOR".toList := by
    intro same
    have digit : 'A' ∈ Nat.toDigits 10 number := by simp [same]
    cases Nat.isDigit_of_mem_toDigits (by decide) (by decide) digit
  have read : (String.ofList (Nat.toDigits 10 number)).toNat? = some number :=
    Nat.toNat?_repr number
  rw [wordValue?, if_neg other, read]
  rfl

/-- A decimal has digits alone. -/
theorem not_mem_toDigits {c : Char} (other : c.isDigit = false) (number : Nat) :
    c ∉ Nat.toDigits 10 number := by
  intro member
  have digit := Nat.isDigit_of_mem_toDigits (by decide) (by decide) member
  rw [other] at digit
  cases digit

/-- The words of an expression come out as they went in. -/
theorem splitOn_expression {words : List (List Char)} (several : words ≠ [])
    (spaceless : ∀ word ∈ words, ' ' ∉ word) :
    (withoutBrackets (expression (String.ofList ([' '].intercalate words))).toList).splitOn ' ' =
      words := by
  have opened : "^/(".toList.isPrefixOf?
      (expression (String.ofList ([' '].intercalate words))).toList =
        some ([' '].intercalate words ++ ")/".toList) := by
    rw [List.isPrefixOf?_eq_some_iff_append_eq]
    simp [expression]
  have closed : ")/".toList.isSuffixOf? ([' '].intercalate words ++ ")/".toList) =
      some ([' '].intercalate words) := by
    rw [List.isSuffixOf?_eq_some_iff_append_eq]
  rw [withoutBrackets, opened, Option.bind_some, closed, Option.getD_some,
    List.splitOn_intercalate ' ' spaceless several]

/-- The words of a signed number, which are none where the number is zero. -/
def signedWords (sign : Char) (number : Nat) : List (List Char) :=
  if number = 0 then [] else [[sign], Nat.toDigits 10 number]

/-- The words of an operand of the local actor, in each of its four shapes. -/
theorem splitOn_actor (field depth : Nat) :
    (withoutBrackets (Operand.actor field depth).render.toList).splitOn ' ' =
      "ACTOR".toList :: (signedWords '+' field ++ signedWords '-' depth) := by
  have spaceless : ∀ word ∈ "ACTOR".toList :: (signedWords '+' field ++ signedWords '-' depth),
      ' ' ∉ word := by
    unfold signedWords
    have space : ∀ number, ' ' ∉ Nat.toDigits 10 number := not_mem_toDigits rfl
    split <;> split <;> simp [space]
  by_cases bare : field = 0 ∧ depth = 0
  · obtain ⟨rfl, rfl⟩ := bare
    decide
  · rw [← splitOn_expression (List.cons_ne_nil _ _) spaceless]
    congr 3
    rw [← String.toList_inj]
    cases field <;> cases depth <;> simp [Operand.render, signedWords, expression] at bare ⊢

/-- A number with a plus is added. -/
theorem sumWords?_plus (total : Int) (number : Nat) (rest : List (List Char)) :
    sumWords? total (signedWords '+' number ++ rest) = sumWords? (total + number) rest := by
  by_cases zero : number = 0 <;> simp [signedWords, zero, sumWords?, wordValue?_toDigits]

/-- A number with a minus is taken off. -/
theorem sumWords?_minus (total : Int) (number : Nat) (rest : List (List Char)) :
    sumWords? total (signedWords '-' number ++ rest) = sumWords? (total - number) rest := by
  by_cases zero : number = 0 <;> simp [signedWords, zero, sumWords?, wordValue?_toDigits]

/-- An operand of the local actor works out to its field, less the words above the actor. -/
theorem placeOf?_actor (field depth : Nat) :
    placeOf? (Operand.actor field depth).render = some (actorPlace + field - depth) := by
  have actor : wordValue? "ACTOR".toList = some actorPlace := rfl
  have summed := sumWords?_minus (actorPlace + field) depth []
  rw [List.append_nil] at summed
  simp only [placeOf?, splitOn_actor, actor, Option.bind_some, sumWords?_plus, summed, sumWords?]

example : placeOf? "^/(ACTOR + 1 - 2)/" = some (-5) := by cbv

/-- An operand of the local actor holds no comma and does not begin with a space. -/
theorem render_actor_solid (field depth : Nat) :
    ',' ∉ (Operand.actor field depth).render.toList ∧ (Operand.actor field depth).render ≠ "" ∧
      (Operand.actor field depth).render.toList.head? ≠ some ' ' := by
  have comma : ∀ number, ',' ∉ Nat.toDigits 10 number := not_mem_toDigits rfl
  cases field <;> cases depth <;> simp [Operand.render, expression, comma]

/-- Above the reserved words, the field of the local actor is in the cell of its own number, however
many words lie above. -/
theorem height_add_place (field depth : Nat) :
    ((localActorSize + depth : Nat) : Int) + (actorPlace + field - depth) = field := by
  simp only [actorPlace, localActorSize]
  omega

/-- A constant for a field of the local actor goes into the cell of the field. -/
theorem access?_store (field depth : Nat) {value : Operand} (noComma : ',' ∉ value.render.toList) :
    access? (localActorSize + depth)
        (Line.instruction "VM_SET_CONST" [.actor field depth, value]).render =
      some (.store field value.render) := by
  obtain ⟨solid, filled, starts⟩ := render_actor_solid field depth
  have read : readInstruction?
      (Line.instruction "VM_SET_CONST" [.actor field depth, value]).render =
        some ("VM_SET_CONST", [(Operand.actor field depth).render, value.render]) := by
    apply Assembly.readInstruction?_instruction
    · decide
    · simpa using ⟨Assembly.whole_of_not_mem solid, Assembly.whole_of_not_mem noComma⟩
    · simpa using ⟨filled, starts⟩
  simp only [access?, read, placeOf?_actor, Option.map_some, height_add_place]

/-- The actor that is moved begins in the cell of the field that is given. -/
theorem access?_move (field depth : Nat) :
    access? (localActorSize + depth)
        (Line.instruction "VM_ACTOR_MOVE_TO" [.actor field depth]).render =
      some (.move field) := by
  obtain ⟨solid, filled, starts⟩ := render_actor_solid field depth
  have read : readInstruction? (Line.instruction "VM_ACTOR_MOVE_TO" [.actor field depth]).render =
      some ("VM_ACTOR_MOVE_TO", [(Operand.actor field depth).render]) := by
    apply Assembly.readInstruction?_instruction
    · decide
    · simpa using Assembly.whole_of_not_mem solid
    · simpa using ⟨filled, starts⟩
  simp only [access?, read, placeOf?_actor, Option.map_some, height_add_place]

/-- A comment accesses no cell, and neither does a blank line. -/
theorem access?_frame (height : Nat) :
    access? height (Line.comment "Actor Set Active").render = none ∧
      access? height (Line.comment "Actor Move To").render = none ∧
      access? height Line.blank.render = none := ⟨rfl, rfl, rfl⟩

/-- The tiles whose place a signed word of 32 bits holds. -/
def tileReach : Interval := ⟨-16777216, 16777215⟩

/-- A tile within reach has its place, and any other is refused under its name. -/
theorem tilePlace_eq (axis : String) (tile : Int) :
    tilePlace axis tile =
      if tileReach.holds tile = true then .ok (128 * tile)
      else .error (.invalidArgument moveToCommand (.outOfRange axis tile)) := by
  have held : (Interval.signed 32).holds (tile * tileSize) = true ↔
      tileReach.holds tile = true := by
    rw [Interval.holds_iff, Interval.holds_iff]
    simp only [Interval.signed, tileSize, tileReach]
    norm_num
    omega
  have commuted : tile * tileSize = 128 * tile := Int.mul_comm tile tileSize
  by_cases near : tileReach.holds tile = true
  · rw [if_pos near, ← commuted]
    exact if_pos (held.mpr near)
  · rw [if_neg near]
    exact if_neg (mt held.mp near)

/-- A number in writing holds no comma. -/
theorem comma_not_mem_number (value : Int) : ',' ∉ (Operand.number value).render.toList :=
  comma_not_mem (isWord_repr value)

/-- The flags of a move hold no comma. -/
theorem comma_not_mem_flags (collide : Bool) (kind : MoveKind) :
    ',' ∉ (Operand.text (moveFlags collide kind)).render.toList := by
  cases collide <;> cases kind <;> decide

/-- What a line says in writing is added to what the lines of a draft say. -/
theorem lines_eq_append {before after : Draft} {added : List Line}
    (written : after.body = before.body ++ added) :
    after.lines = before.lines ++ added.map Line.render := by
  rw [Draft.lines_eq, Draft.lines_eq, written, List.map_append]

/-- Setting an actor accesses one cell, at every depth the same. -/
theorem accesses_setLines (depth slot : Nat) :
    ((setLines depth slot).map Line.render).filterMap (access? (localActorSize + depth)) =
      [.store 0 (toString slot)] := by
  obtain ⟨title, _, blank⟩ := access?_frame (localActorSize + depth)
  have stored := access?_store 0 depth (comma_not_mem_number slot)
  simp only [setLines, List.map_cons, List.map_nil, List.filterMap_cons, List.filterMap_nil, title,
    stored, blank]
  rfl

/-- Moving an actor accesses four cells one after the other, at every depth the same. -/
theorem accesses_moveLines (depth : Nat) (across along : Int) (collide : Bool) (kind : MoveKind) :
    ((moveLines depth across along collide kind).map Line.render).filterMap
        (access? (localActorSize + depth)) =
      [.store 1 (toString across), .store 2 (toString along), .store 3 (moveFlags collide kind),
        .move 0] := by
  obtain ⟨_, title, blank⟩ := access?_frame (localActorSize + depth)
  have first := access?_store 1 depth (comma_not_mem_number across)
  have second := access?_store 2 depth (comma_not_mem_number along)
  have third := access?_store 3 depth (comma_not_mem_flags collide kind)
  have last := access?_move 0 depth
  simp only [moveLines, List.map_cons, List.map_nil, List.filterMap_cons, List.filterMap_nil, title,
    first, second, third, last, blank]
  rfl

end EventScript
