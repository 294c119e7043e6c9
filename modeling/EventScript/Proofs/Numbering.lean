import EventScript.Proofs.Clarity

/-!
# Generated labels bracket their conditionals

The numbers of generated labels are handed out without gaps, two to each conditional, in the order
of lowering. A conditional takes both before its arms are lowered, so the numbers of its arms come
between its own and those of what follows it. Its test goes on at the first label, the jump behind
its arm for false goes on at the second, and nothing else among the lines of a script mentions the
two. The lines from its test to its second label are its span. Spans nest like the conditionals do:
the span of a conditional in an arm lies wholly in that arm.

This is proved of the lines. Since these are clear, it is true of the entries as well, that is of
the symbols that a reader of the output comes upon.
-/
namespace EventScript

open Assembly (Line)

/-- The label that a line goes on at or puts into the script. -/
def Assembly.Line.mention? : Line → Option String
  | .branch _ _ _ target => some target
  | .jump target => some target
  | .label name => some name
  | _ => none

/-- A jump mentions its target. -/
theorem mention?_jump (target : String) : (Line.jump target).mention? = some target := rfl

/-- A label in the script mentions itself. -/
theorem mention?_label (name : String) : (Line.label name).mention? = some name := rfl

/-- The label that the test of a conditional goes on at. -/
theorem Condition.mention?_test (condition : Condition) (chosen : String) :
    (condition.test chosen).mention? = some chosen := by
  cases condition <;> rfl

/-- The label that the line of a position mentions. -/
def mentionAt? (lines : List Line) (position : Nat) : Option String :=
  lines[position]?.bind Line.mention?

section Positions

variable {first second : List Line} {line : Line} {name : String} {position : Nat}

/-- A label that the first of some lines do not mention is looked for behind them. -/
theorem mentionAt?_append (free : ∀ line ∈ first, line.mention? ≠ some name) :
    mentionAt? (first ++ second) position = some name ↔
      first.length ≤ position ∧ mentionAt? second (position - first.length) = some name := by
  rcases Nat.lt_or_ge position first.length with inside | behind
  · have silent : mentionAt? (first ++ second) position ≠ some name := by
      rw [mentionAt?, List.getElem?_append_left inside, List.getElem?_eq_getElem inside]
      exact free _ (List.getElem_mem inside)
    simp [silent, Nat.not_le.mpr inside]
  · rw [mentionAt?, List.getElem?_append_right behind]
    simp [behind, mentionAt?]

/-- A label is mentioned in the first line or behind it. -/
theorem mentionAt?_cons :
    mentionAt? (line :: second) position = some name ↔
      (position = 0 ∧ line.mention? = some name) ∨
        (0 < position ∧ mentionAt? second (position - 1) = some name) := by
  cases position <;> simp [mentionAt?]

/-- A label that no line mentions is mentioned at no position. -/
theorem mentionAt?_of_free (free : ∀ line ∈ first, line.mention? ≠ some name) :
    mentionAt? first position ≠ some name := by
  intro found
  obtain ⟨line, there, mentions⟩ := Option.bind_eq_some_iff.mp found
  exact free line (List.mem_of_getElem? there) mentions

end Positions

/-- Where a conditional stands among lines: the positions of its test, of the jump to its end, which
comes right before its first label, and of its second label. -/
structure Span where
  test : Nat
  leave : Nat
  join : Nat
deriving DecidableEq, Repr

namespace Span

/-- A span behind some more lines. -/
def shift (span : Span) (count : Nat) : Span :=
  ⟨span.test + count, span.leave + count, span.join + count⟩

/-- A span lies wholly inside one arm of another, the arm for false or the arm for true. -/
def Within (inner outer : Span) : Prop :=
  (outer.test < inner.test ∧ inner.join < outer.leave) ∨
    (outer.leave + 1 < inner.test ∧ inner.join < outer.join)

/-- Of two spans the later one lies behind the earlier one or in one of its arms. -/
def Apart (earlier later : Span) : Prop := earlier.join < later.test ∨ later.Within earlier

/-- A conditional has a span among lines, with two labels that no line outside the four of its frame
mentions. -/
def Brackets (span : Span) (lines : List Line) (condition : Condition) (chosen join : String) :
    Prop :=
  ∃ before whenFalse whenTrue after : List Line,
    lines = before ++ condition.test chosen :: (whenFalse ++ .jump join :: .label chosen ::
      (whenTrue ++ .label join :: after)) ∧
    span = ⟨before.length, before.length + whenFalse.length + 1,
      before.length + whenFalse.length + whenTrue.length + 3⟩ ∧
    ∀ line ∈ before ++ whenFalse ++ whenTrue ++ after,
      line.mention? ≠ some chosen ∧ line.mention? ≠ some join

variable {span earlier later : Span} {lines : List Line} {condition : Condition}
  {chosen join : String}

/-- A span ends among its lines. -/
theorem Brackets.join_lt (brackets : span.Brackets lines condition chosen join) :
    span.join < lines.length := by
  obtain ⟨before, whenFalse, whenTrue, after, rfl, rfl, _⟩ := brackets
  simp only [List.length_append, List.length_cons]
  omega

/-- Both labels of a conditional are mentioned among its lines. -/
theorem Brackets.exists_mention? (brackets : span.Brackets lines condition chosen join) :
    (∃ line ∈ lines, line.mention? = some chosen) ∧ ∃ line ∈ lines, line.mention? = some join := by
  obtain ⟨before, whenFalse, whenTrue, after, rfl, _, _⟩ := brackets
  exact ⟨⟨.label chosen, by simp, rfl⟩, ⟨.jump join, by simp, rfl⟩⟩

/-- More lines around a conditional shift its span, where they do not mention its labels. -/
theorem Brackets.surround (brackets : span.Brackets lines condition chosen join)
    {first last : List Line}
    (free : ∀ line ∈ first ++ last, line.mention? ≠ some chosen ∧ line.mention? ≠ some join) :
    (span.shift first.length).Brackets (first ++ lines ++ last) condition chosen join := by
  obtain ⟨before, whenFalse, whenTrue, after, rfl, rfl, others⟩ := brackets
  refine ⟨first ++ before, whenFalse, whenTrue, after ++ last, by simp, ?_, ?_⟩
  · simp only [shift, mk.injEq, List.length_append]
    omega
  · intro line member
    simp only [List.mem_append] at member free others
    grind

/-- The four corners of a span are its test, the jump to its end, and its two labels. -/
theorem Brackets.corners (brackets : span.Brackets lines condition chosen join) :
    lines[span.test]? = some (condition.test chosen) ∧ lines[span.leave]? = some (.jump join) ∧
      lines[span.leave + 1]? = some (.label chosen) ∧ lines[span.join]? = some (.label join) := by
  obtain ⟨before, whenFalse, whenTrue, after, split, rfl, -⟩ := brackets
  have standing : ∀ (front : List Line) {line : Line} {back : List Line} {position : Nat},
      lines = front ++ line :: back → front.length = position →
        lines[position]? = some line := by
    rintro front line back _ rfl rfl
    simp
  refine ⟨standing before split rfl, ?_, ?_, ?_⟩
  · exact standing (before ++ condition.test chosen :: whenFalse) (by simpa using split)
      (by simp; omega)
  · exact standing (before ++ condition.test chosen :: (whenFalse ++ [.jump join]))
      (by simpa using split) (by simp; omega)
  · exact standing (before ++ condition.test chosen :: (whenFalse ++ .jump join ::
      .label chosen :: whenTrue)) (by simpa using split) (by simp; omega)

/-- The labels of a conditional are mentioned at the corners of its span alone. -/
theorem Brackets.mentionAt?_iff (brackets : span.Brackets lines condition chosen join)
    (distinct : chosen ≠ join) (position : Nat) :
    (mentionAt? lines position = some chosen ↔
        position = span.test ∨ position = span.leave + 1) ∧
      (mentionAt? lines position = some join ↔
        position = span.leave ∨ position = span.join) := by
  obtain ⟨before, whenFalse, whenTrue, after, rfl, rfl, others⟩ := brackets
  simp only [List.mem_append, or_imp, forall_and] at others
  obtain ⟨⟨⟨⟨chosenBefore, chosenFalse⟩, chosenTrue⟩, chosenAfter⟩,
    ⟨⟨joinBefore, joinFalse⟩, joinTrue⟩, joinAfter⟩ := others
  rw [mentionAt?_append chosenBefore, mentionAt?_append joinBefore]
  simp only [mentionAt?_cons, mentionAt?_append chosenFalse, mentionAt?_append chosenTrue,
    mentionAt?_append joinFalse, mentionAt?_append joinTrue, mentionAt?_of_free chosenAfter,
    mentionAt?_of_free joinAfter, condition.mention?_test, mention?_jump, mention?_label,
    Option.some.injEq, distinct, distinct.symm, and_true, and_false, or_false, false_or]
  omega

/-- The labels of a conditional are put behind the jump to its end, and at its end. -/
theorem Brackets.position_eq (brackets : span.Brackets lines condition chosen join)
    (distinct : chosen ≠ join) (position : Nat) :
    (lines[position]? = some (.label chosen) → position = span.leave + 1) ∧
      (lines[position]? = some (.label join) → position = span.join) := by
  obtain ⟨tested, left, -, -⟩ := brackets.corners
  obtain ⟨chosenOnly, joinOnly⟩ := brackets.mentionAt?_iff distinct position
  constructor
  · intro found
    rcases chosenOnly.mp (by rw [mentionAt?, found]; rfl) with rfl | here
    · have same := Option.some.inj (tested.symm.trans found)
      cases condition <;> cases same
    · exact here
  · intro found
    rcases joinOnly.mp (by rw [mentionAt?, found]; rfl) with rfl | here
    · cases Option.some.inj (left.symm.trans found)
    · exact here

/-- Shifting two spans alike keeps them apart. -/
theorem Apart.shift (apart : earlier.Apart later) (count : Nat) :
    (earlier.shift count).Apart (later.shift count) := by
  simp only [Apart, Within, Span.shift] at apart ⊢
  omega

end Span

namespace Event

/-- The enabled conditionals among events and under them, in the order of lowering. -/
def conditionals (events : List Event) : List Event := (inOrder events).filter isConditional

/-- Where there are no events, there are no conditionals. -/
theorem conditionals_nil : conditionals [] = [] := by
  rw [conditionals, inOrder, List.filter_nil]

/-- A disabled event is passed over, and so is what stands under it. -/
theorem conditionals_disabled {event : Event} (rest : List Event)
    (disabled : event.disabled = true) : conditionals (event :: rest) = conditionals rest := by
  rw [conditionals, inOrder_disabled rest disabled, conditionals]

/-- An action is no conditional. -/
theorem conditionals_act {event : Event} {action : Action} (rest : List Event)
    (enabled : ¬event.disabled = true) (read : event.read = .ok (.act action)) :
    conditionals (event :: rest) = conditionals rest := by
  rw [conditionals, inOrder_act rest enabled read,
    List.filter_cons_of_neg (by simp [isConditional_of_act read]), conditionals]

/-- A conditional comes before those in its arm for false, and these before those in its arm for
true. -/
theorem conditionals_choose {event : Event} {condition : Condition} (rest : List Event)
    (enabled : ¬event.disabled = true) (read : event.read = .ok (.choose condition)) :
    conditionals (event :: rest) =
      event :: (conditionals (event.childrenOf "false") ++
        (conditionals (event.childrenOf "true") ++ conditionals rest)) := by
  rw [conditionals, filter_inOrder_choose _ rest enabled read,
    List.filter_cons_of_pos (isConditional_of_choose read)]
  rfl

end Event

open Event (conditionals)

/-- A straight line mentions no label. -/
theorem mention?_of_isStraight {line : Line} (straight : line.isStraight = true) :
    line.mention? = none := by
  cases line <;> first | rfl | cases straight

variable {setting : Setting}

/-- The lines of a sound action mention no reserved label. -/
theorem Action.Sound.not_reserved {action : Action} (sound : action.Sound setting) {line : Line}
    (member : line ∈ action.lines setting) {name : String} (mentions : line.mention? = some name) :
    isReserved name = false := by
  cases action with
  | label other =>
    have allowed := sound.allowed other (Or.inl rfl)
    rw [Action.lines_label allowed, List.mem_singleton] at member
    subst member
    obtain rfl := Option.some.inj mentions
    exact allowed
  | goto other =>
    have allowed := sound.allowed other (Or.inr rfl)
    rw [Action.lines_goto allowed, List.mem_singleton] at member
    subst member
    obtain rfl := Option.some.inj mentions
    exact allowed
  | stop =>
    rw [Action.lines_stop] at member
    simp only [List.mem_cons, List.not_mem_nil, or_false] at member
    rcases member with rfl | rfl <;> cases mentions
  | _ =>
    rw [mention?_of_isStraight (sound.straight rfl line member)] at mentions
    cases mentions

/-- The lines before the test of a conditional mention no label. -/
theorem Condition.mention?_opening (condition : Condition) :
    ∀ line ∈ condition.opening, line.mention? = none := by
  cases condition <;> simp [opening, Line.mention?]

/-- The lines behind the second label of a conditional mention no label. -/
theorem Condition.mention?_closing (condition : Condition) :
    ∀ line ∈ condition.closing, line.mention? = none := by
  cases condition <;> simp [closing, Line.mention?]

/-- A line of a conditional that mentions a label mentions one of its two labels, or stands in an
arm of it. -/
theorem Condition.mention?_frame {condition : Condition} {chosen join name : String}
    {whenFalse whenTrue : List Line} {line : Line}
    (member : line ∈ condition.frame chosen join whenFalse whenTrue)
    (mentions : line.mention? = some name) :
    name = chosen ∨ name = join ∨ line ∈ whenFalse ∨ line ∈ whenTrue := by
  simp only [frame, List.mem_append, List.mem_cons] at member
  rcases member with inOpening | rfl | inFalse | rfl | rfl | inTrue | rfl | inClosing
  · rw [condition.mention?_opening line inOpening] at mentions
    cases mentions
  · exact .inl (Option.some.inj (mentions.symm.trans (condition.mention?_test chosen)))
  · exact .inr (.inr (.inl inFalse))
  · exact .inr (.inl (Option.some.inj mentions).symm)
  · exact .inl (Option.some.inj mentions).symm
  · exact .inr (.inr (.inr inTrue))
  · exact .inr (.inl (Option.some.inj mentions).symm)
  · rw [condition.mention?_closing line inClosing] at mentions
    cases mentions

namespace Numbered

variable {events : List Event} {lines : List Line} {number last : Nat}

/-- Every conditional takes two numbers. -/
theorem last_eq (numbered : Numbered setting number events lines last) :
    last = number + 2 * (conditionals events).length := by
  induction numbered with
  | nil number => simp [Event.conditionals_nil]
  | skip disabled _ inductionHypothesis =>
    rwa [Event.conditionals_disabled _ disabled]
  | act enabled read _ _ inductionHypothesis =>
    rwa [Event.conditionals_act _ enabled read]
  | choose enabled read _ _ _ falseHypothesis trueHypothesis inductionHypothesis =>
    simp only [Event.conditionals_choose _ enabled read, List.length_cons, List.length_append]
    omega

/-- The reserved labels that numbered lines mention are those whose numbers are taken by them. -/
theorem exists_of_mention? (numbered : Numbered setting number events lines last) {line : Line}
    (member : line ∈ lines) {name : String} (mentions : line.mention? = some name)
    (reserved : isReserved name = true) :
    ∃ taken, number ≤ taken ∧ taken < last ∧ name = toString taken := by
  induction numbered with
  | nil number => cases member
  | skip _ _ inductionHypothesis => exact inductionHypothesis member
  | act enabled read sound rest inductionHypothesis =>
    rcases List.mem_append.mp member with own | later
    · rw [sound.not_reserved own mentions] at reserved
      cases reserved
    · exact inductionHypothesis later
  | @choose event condition events whenFalse whenTrue lines number middle behind last enabled read
      onFalse onTrue rest falseHypothesis trueHypothesis inductionHypothesis =>
    have risen := onFalse.last_eq
    have further := onTrue.last_eq
    have onward := rest.last_eq
    have widen : ∀ {low high}, number ≤ low → high ≤ last →
        (∃ taken, low ≤ taken ∧ taken < high ∧ name = toString taken) →
        ∃ taken, number ≤ taken ∧ taken < last ∧ name = toString taken := by
      rintro low high least most ⟨taken, above, below, decimal⟩
      exact ⟨taken, least.trans above, below.trans_le most, decimal⟩
    rcases List.mem_append.mp member with framed | later
    · rcases Condition.mention?_frame framed mentions with rfl | rfl | inFalse | inTrue
      · exact ⟨number, Nat.le_refl _, by omega, rfl⟩
      · exact ⟨number + 1, by omega, by omega, rfl⟩
      · exact widen (by omega) (by omega) (falseHypothesis inFalse)
      · exact widen (by omega) (by omega) (trueHypothesis inTrue)
    · exact widen (by omega) (Nat.le_refl _) (inductionHypothesis later)

end Numbered

/-- Lines that mention no generated label of some numbers in a row. -/
def Foreign (low high : Nat) (lines : List Line) : Prop :=
  ∀ line ∈ lines, ∀ number, low ≤ number → number < high →
    line.mention? ≠ some (toString number)

section Foreign

variable {low high number : Nat} {first second : List Line}

/-- Lines in a row are foreign when they all are. -/
theorem foreign_append :
    Foreign low high (first ++ second) ↔ Foreign low high first ∧ Foreign low high second := by
  simp [Foreign, or_imp, forall_and]

/-- A line and those behind it are foreign when both are. -/
theorem foreign_cons {line : Line} :
    Foreign low high (line :: second) ↔ Foreign low high [line] ∧ Foreign low high second :=
  @foreign_append low high [line] second

/-- No lines are foreign to all numbers. -/
theorem foreign_nil : Foreign low high [] := by simp [Foreign]

/-- Lines that mention no label are foreign to all numbers. -/
theorem foreign_of_mention? (silent : ∀ line ∈ first, line.mention? = none) :
    Foreign low high first := by
  intro line member number _ _ mentions
  rw [silent line member] at mentions
  cases mentions

/-- A line that mentions the label of another number. -/
theorem foreign_singleton {line : Line} (mentions : line.mention? = some (toString number))
    (outside : number < low ∨ high ≤ number) : Foreign low high [line] := by
  intro other member taken above below same
  rw [List.mem_singleton.mp member, mentions] at same
  have equal : number = taken := toString_injective (Option.some.inj same)
  omega

/-- The lines before the test of a conditional are foreign to all numbers. -/
theorem Condition.foreign_opening (condition : Condition) : Foreign low high condition.opening :=
  foreign_of_mention? condition.mention?_opening

/-- The lines behind the second label of a conditional are foreign to all numbers. -/
theorem Condition.foreign_closing (condition : Condition) : Foreign low high condition.closing :=
  foreign_of_mention? condition.mention?_closing

/-- Numbered lines are foreign to the numbers that they do not take. -/
theorem Numbered.foreign {events : List Event} {lines : List Line} {last : Nat}
    (numbered : Numbered setting number events lines last) (apart : high ≤ number ∨ last ≤ low) :
    Foreign low high lines := by
  intro line member other above below mentions
  obtain ⟨taken, least, most, same⟩ :=
    numbered.exists_of_mention? member mentions (isReserved_toString other)
  have equal : other = taken := toString_injective same
  omega

end Foreign

/-- Conditionals in a row have spans among lines, with the labels of two numbers in a row each. -/
inductive Placed (lines : List Line) : Nat → List Event → List Span → Prop where
  | nil (number : Nat) : Placed lines number [] []
  | cons {event : Event} {condition : Condition} {span : Span} {number : Nat}
    {events : List Event} {spans : List Span} (read : event.read = .ok (.choose condition))
    (brackets : span.Brackets lines condition (toString number) (toString (number + 1)))
    (rest : Placed lines (number + 2) events spans) :
    Placed lines number (event :: events) (span :: spans)

namespace Placed

variable {lines : List Line} {number : Nat} {events more : List Event} {spans others : List Span}

/-- What is placed after something else counts on from it. -/
theorem append (placed : Placed lines number events spans)
    (further : Placed lines (number + 2 * events.length) more others) :
    Placed lines number (events ++ more) (spans ++ others) := by
  induction placed with
  | nil number => exact further
  | @cons event condition span number events spans read brackets _ inductionHypothesis =>
    have next : number + 2 * (event :: events).length = number + 2 + 2 * events.length := by
      simp only [List.length_cons]
      omega
    rw [next] at further
    exact .cons read brackets (inductionHypothesis further)

/-- Foreign lines around conditionals shift their spans. -/
theorem surround (placed : Placed lines number events spans) {whole first last : List Line}
    {count : Nat} (split : whole = first ++ lines ++ last) (measured : first.length = count)
    (foreignFirst : Foreign number (number + 2 * events.length) first)
    (foreignLast : Foreign number (number + 2 * events.length) last) :
    Placed whole number events (spans.map (·.shift count)) := by
  subst split measured
  induction placed with
  | nil number => exact .nil number
  | @cons event condition span number events spans read brackets _ inductionHypothesis =>
    have foreign : Foreign number (number + 2 * (event :: events).length) (first ++ last) := by
      intro line member
      exact (List.mem_append.mp member).elim (foreignFirst line) (foreignLast line)
    simp only [List.length_cons] at foreign foreignFirst foreignLast
    refine .cons read (brackets.surround fun line member => ?_) (inductionHypothesis ?_ ?_)
    · exact ⟨foreign line member number (by omega) (by omega),
        foreign line member (number + 1) (by omega) (by omega)⟩
    · intro line member other above below
      exact foreignFirst line member other (by omega) (by omega)
    · intro line member other above below
      exact foreignLast line member other (by omega) (by omega)

/-- Each conditional has one span. -/
theorem length_eq (placed : Placed lines number events spans) : spans.length = events.length := by
  induction placed with
  | nil number => rfl
  | cons read brackets _ inductionHypothesis =>
    rw [List.length_cons, List.length_cons, inductionHypothesis]

/-- The conditional of an index has the labels of two numbers that the index tells. -/
theorem brackets (placed : Placed lines number events spans) {index : Nat} {event : Event}
    {span : Span} (listed : events[index]? = some event) (found : spans[index]? = some span) :
    ∃ condition, event.read = .ok (.choose condition) ∧ span.Brackets lines condition
      (toString (number + 2 * index)) (toString (number + 2 * index + 1)) := by
  induction placed generalizing index with
  | nil number => cases listed
  | @cons event condition span number events spans read brackets _ inductionHypothesis =>
    cases index with
    | zero =>
      obtain rfl := Option.some.inj listed
      obtain rfl := Option.some.inj found
      exact ⟨condition, read, brackets⟩
    | succ index =>
      have counted : number + 2 * (index + 1) = number + 2 + 2 * index := by omega
      rw [counted]
      exact inductionHypothesis listed found

/-- Where numbers begin at one, the conditional of an index has the labels of two numbers of its
own. -/
theorem own_brackets (placed : Placed lines 1 events spans) {index : Nat} {event : Event}
    {span : Span} (listed : events[index]? = some event) (found : spans[index]? = some span) :
    ∃ condition, event.read = .ok (.choose condition) ∧ span.Brackets lines condition
      (toString (2 * index + 1)) (toString (2 * index + 2)) ∧
        toString (2 * index + 1) ≠ toString (2 * index + 2) := by
  obtain ⟨condition, read, brackets⟩ := placed.brackets listed found
  rw [Nat.add_comm 1, Nat.add_assoc] at brackets
  refine ⟨condition, read, brackets, fun same => ?_⟩
  have equal := toString_injective same
  omega

/-- Every number that placed conditionals take is mentioned. -/
theorem exists_mention? (placed : Placed lines number events spans) {taken : Nat}
    (least : number ≤ taken) (most : taken < number + 2 * events.length) :
    ∃ line ∈ lines, line.mention? = some (toString taken) := by
  induction placed with
  | nil number => simp at most; omega
  | @cons event condition span number events spans read brackets _ inductionHypothesis =>
    obtain ⟨chosenMentioned, joinMentioned⟩ := brackets.exists_mention?
    rw [List.length_cons] at most
    by_cases isChosen : taken = number
    · exact isChosen ▸ chosenMentioned
    · by_cases isJoin : taken = number + 1
      · exact isJoin ▸ joinMentioned
      · exact inductionHypothesis (by omega) (by omega)

/-- A placed span ends among the lines. -/
theorem join_lt (placed : Placed lines number events spans) {span : Span}
    (member : span ∈ spans) : span.join < lines.length := by
  induction placed with
  | nil number => cases member
  | cons read brackets _ inductionHypothesis =>
    rcases List.mem_cons.mp member with rfl | later
    · exact brackets.join_lt
    · exact inductionHypothesis later

end Placed

/-- The span of a conditional that stands first among lines. -/
def Condition.span (condition : Condition) (whenFalse whenTrue : List Line) : Span :=
  ⟨condition.opening.length, condition.opening.length + whenFalse.length + 1,
    condition.opening.length + whenFalse.length + whenTrue.length + 3⟩

/-- The spans of a conditional, of the conditionals in its arms and of those behind it, given those
in each arm and in the lines behind as if these stood alone. -/
def Condition.spans (condition : Condition) (whenFalse whenTrue : List Line)
    (falseSpans trueSpans others : List Span) : List Span :=
  let own := condition.span whenFalse whenTrue
  own :: (falseSpans.map (·.shift (own.test + 1)) ++ (trueSpans.map (·.shift (own.leave + 2)) ++
    others.map (·.shift (own.join + condition.closing.length + 1))))

section Frame

variable {condition : Condition} {whenFalse whenTrue lines : List Line}
  {falseSpans trueSpans others : List Span}

/-- The conditionals in the arms of a conditional, and those behind it, are placed where they are
found when they are looked for in each part alone. -/
theorem Placed.frame {event : Event} {number : Nat} {falseEvents trueEvents events : List Event}
    (read : event.read = .ok (.choose condition))
    (falsePlaced : Placed whenFalse (number + 2) falseEvents falseSpans)
    (truePlaced : Placed whenTrue (number + 2 + 2 * falseEvents.length) trueEvents trueSpans)
    (placed : Placed lines (number + 2 + 2 * falseEvents.length + 2 * trueEvents.length) events
      others)
    (falseForeign : ∀ low high, high ≤ number + 2 ∨ number + 2 + 2 * falseEvents.length ≤ low →
      Foreign low high whenFalse)
    (trueForeign : ∀ low high, high ≤ number + 2 + 2 * falseEvents.length ∨
      number + 2 + 2 * falseEvents.length + 2 * trueEvents.length ≤ low →
      Foreign low high whenTrue)
    (foreign : ∀ low high, high ≤ number + 2 + 2 * falseEvents.length + 2 * trueEvents.length →
      Foreign low high lines) :
    Placed (condition.frame (toString number) (toString (number + 1)) whenFalse whenTrue ++ lines)
      number (event :: (falseEvents ++ (trueEvents ++ events)))
      (condition.spans whenFalse whenTrue falseSpans trueSpans others) := by
  -- The three parts of the frame around the arms mention the two numbers of the conditional only.
  have entry : ∀ low high, number + 1 < low →
      Foreign low high (condition.opening ++ [condition.test (toString number)]) :=
    fun low high above => foreign_append.mpr ⟨condition.foreign_opening,
      foreign_singleton (condition.mention?_test _) (.inl (by omega))⟩
  have turn : ∀ low high, number + 1 < low →
      Foreign low high [.jump (toString (number + 1)), .label (toString number)] :=
    fun low high above => foreign_cons.mpr ⟨foreign_singleton rfl (.inl above),
      foreign_singleton rfl (.inl (by omega))⟩
  have exit : ∀ low high, number + 1 < low →
      Foreign low high (.label (toString (number + 1)) :: condition.closing) :=
    fun low high above => foreign_cons.mpr ⟨foreign_singleton rfl (.inl above),
      condition.foreign_closing⟩
  have own : (condition.span whenFalse whenTrue).Brackets
      (condition.frame (toString number) (toString (number + 1)) whenFalse whenTrue ++ lines)
      condition (toString number) (toString (number + 1)) := by
    refine ⟨condition.opening, whenFalse, whenTrue, condition.closing ++ lines,
      condition.frame_append _ _ _ _ _, rfl, ?_⟩
    have free : Foreign number (number + 2)
        (condition.opening ++ whenFalse ++ whenTrue ++ (condition.closing ++ lines)) := by
      simp only [foreign_append]
      exact ⟨⟨⟨condition.foreign_opening, falseForeign _ _ (by omega)⟩,
        trueForeign _ _ (by omega)⟩, condition.foreign_closing, foreign _ _ (by omega)⟩
    exact fun line member => ⟨free line member number (by omega) (by omega),
      free line member (number + 1) (by omega) (by omega)⟩
  refine .cons read own (.append ?_ (.append ?_ ?_))
  · exact falsePlaced.surround (by simp [Condition.frame]) (by simp [Condition.span])
      (entry _ _ (by omega)) (foreign_append.mpr ⟨turn _ _ (by omega), foreign_append.mpr
        ⟨trueForeign _ _ (by omega), foreign_append.mpr ⟨exit _ _ (by omega),
          foreign _ _ (by omega)⟩⟩⟩)
  · exact truePlaced.surround (by simp [Condition.frame]) (by simp [Condition.span]; omega)
      (foreign_append.mpr ⟨entry _ _ (by omega), foreign_append.mpr
        ⟨falseForeign _ _ (by omega), turn _ _ (by omega)⟩⟩)
      (foreign_append.mpr ⟨exit _ _ (by omega), foreign _ _ (by omega)⟩)
  · exact placed.surround (by simp [Condition.frame]) (by simp [Condition.span]; omega)
      (foreign_append.mpr ⟨entry _ _ (by omega), foreign_append.mpr
        ⟨falseForeign _ _ (by omega), foreign_append.mpr ⟨turn _ _ (by omega), foreign_append.mpr
          ⟨trueForeign _ _ (by omega), exit _ _ (by omega)⟩⟩⟩⟩) foreign_nil

/-- The spans in the arms of a conditional lie in its arms, and those behind it lie behind it. -/
theorem pairwise_spans (falseApart : falseSpans.Pairwise Span.Apart)
    (trueApart : trueSpans.Pairwise Span.Apart) (apart : others.Pairwise Span.Apart)
    (falseInside : ∀ span ∈ falseSpans, span.join < whenFalse.length)
    (trueInside : ∀ span ∈ trueSpans, span.join < whenTrue.length) :
    (condition.spans whenFalse whenTrue falseSpans trueSpans others).Pairwise Span.Apart := by
  have shifted : ∀ {spans : List Span} (count : Nat), spans.Pairwise Span.Apart →
      (spans.map (·.shift count)).Pairwise Span.Apart :=
    fun count apart => apart.map _ fun _ _ apart => apart.shift count
  rw [Condition.spans, List.pairwise_cons, List.pairwise_append, List.pairwise_append]
  refine ⟨?_, shifted _ falseApart, ⟨shifted _ trueApart, shifted _ apart, ?_⟩, ?_⟩
  · intro span member
    simp only [List.mem_append, List.mem_map] at member
    rcases member with ⟨inner, member, rfl⟩ | ⟨inner, member, rfl⟩ | ⟨later, member, rfl⟩
    · have inside := falseInside inner member
      simp only [Span.Apart, Span.Within, Span.shift, Condition.span]
      omega
    · have inside := trueInside inner member
      simp only [Span.Apart, Span.Within, Span.shift, Condition.span]
      omega
    · simp only [Span.Apart, Span.shift, Condition.span]
      omega
  · simp only [List.mem_map]
    rintro _ ⟨inner, member, rfl⟩ _ ⟨later, _, rfl⟩
    have inside := trueInside inner member
    simp only [Span.Apart, Span.shift, Condition.span]
    omega
  · simp only [List.mem_append, List.mem_map]
    rintro _ ⟨inner, member, rfl⟩ _ (⟨later, _, rfl⟩ | ⟨later, _, rfl⟩)
    all_goals
      have inside := falseInside inner member
      simp only [Span.Apart, Span.shift, Condition.span]
      omega

end Frame

/-- Numbered lines hold a span for each conditional, and of two spans the later one lies behind the
earlier one or in one of its arms. -/
theorem Numbered.exists_spans {events : List Event} {lines : List Line} {number last : Nat}
    (numbered : Numbered setting number events lines last) :
    ∃ spans, Placed lines number (conditionals events) spans ∧ spans.Pairwise Span.Apart := by
  induction numbered with
  | nil number =>
    rw [Event.conditionals_nil]
    exact ⟨[], .nil number, .nil⟩
  | skip disabled _ inductionHypothesis =>
    rwa [Event.conditionals_disabled _ disabled]
  | @act event action events lines number last enabled read sound rest inductionHypothesis =>
    obtain ⟨spans, placed, apart⟩ := inductionHypothesis
    rw [Event.conditionals_act _ enabled read]
    have foreign : Foreign number (number + 2 * (conditionals events).length)
        (action.lines setting) := by
      intro line member other _ _ mentions
      have allowed := sound.not_reserved member mentions
      rw [isReserved_toString] at allowed
      cases allowed
    exact ⟨_, placed.surround (List.append_nil _).symm rfl foreign foreign_nil,
      apart.map _ fun _ _ apart => apart.shift _⟩
  | @choose event condition events whenFalse whenTrue lines number middle behind last enabled read
      onFalse onTrue rest falseHypothesis trueHypothesis inductionHypothesis =>
    obtain ⟨falseSpans, falsePlaced, falseApart⟩ := falseHypothesis
    obtain ⟨trueSpans, truePlaced, trueApart⟩ := trueHypothesis
    obtain ⟨spans, placed, apart⟩ := inductionHypothesis
    have risen := onFalse.last_eq
    have further := onTrue.last_eq
    subst risen further
    rw [Event.conditionals_choose _ enabled read]
    exact ⟨_, .frame read falsePlaced truePlaced placed (fun _ _ => onFalse.foreign)
        (fun _ _ => onTrue.foreign) (fun _ _ below => rest.foreign (.inl below)),
      pairwise_spans falseApart trueApart apart (fun _ => falsePlaced.join_lt)
        fun _ => truePlaced.join_lt⟩

/-- The lines of events that are lowered on an empty draft are numbered from one on. -/
theorem numbered_body {events : List Event} {draft : Draft}
    (succeeded : lowerEvents setting events {} = .ok () draft) :
    Numbered setting 1 events draft.body draft.ledger.nextLabel := by
  obtain ⟨_, lines, written, numbered⟩ :=
    appendsFrom_lowerEvents setting events 1 {} () draft rfl rfl succeeded
  have all : draft.body = lines := written
  exact all ▸ numbered

/-- The symbol that the entry of a position goes on at or defines. -/
def symbolAt? (entries : List String) (position : Nat) : Option String :=
  entries[position]?.bind fun entry => (sense entry).symbol?

/-- A question has a span among entries, with two symbols. Its test goes on at the first one, which
is defined right behind a jump to the second one, and the second one is defined at the end. No other
entry has one of the two. -/
structure Span.Spells (span : Span) (entries : List String) (question : Question)
    (chosen join : String) : Prop where
  ordered : span.test < span.leave ∧ span.leave + 1 < span.join
  tests : entries[span.test]?.map sense =
    some (.test question.comparison question.operand question.value chosen)
  leaves : entries[span.leave]?.map sense = some (.jump join)
  defines : entries[span.leave + 1]? = some (chosen ++ ":")
  ends : entries[span.join]? = some (join ++ ":")
  chosenOnly : ∀ position, symbolAt? entries position = some chosen ↔
    position = span.test ∨ position = span.leave + 1
  joinOnly : ∀ position, symbolAt? entries position = some join ↔
    position = span.leave ∨ position = span.join

section Written

variable {lines : List Line}

/-- The symbol in a clear line is that of the label it mentions. -/
theorem symbol?_render {line : Line} (clear : line.isClear = true) :
    (sense line.render).symbol? = line.mention?.map (· ++ "$") := by
  rw [Line.sense_render clear]
  cases line <;> rfl

/-- The symbols in clear lines are those of the labels they mention. -/
theorem symbolAt?_render (clear : ∀ line ∈ lines, line.isClear = true) (position : Nat)
    (name : String) :
    symbolAt? (lines.map Line.render) position = some (name ++ "$") ↔
      mentionAt? lines position = some name := by
  rw [symbolAt?, mentionAt?, List.getElem?_map]
  cases found : lines[position]? with
  | none => simp
  | some line =>
    rw [Option.map_some, Option.bind_some, Option.bind_some,
      symbol?_render (clear line (List.mem_of_getElem? found))]
    simp

/-- The symbols in clear lines are found by the labels they mention. -/
theorem exists_symbol?_iff (clear : ∀ line ∈ lines, line.isClear = true) (name : String) :
    (∃ entry ∈ lines.map Line.render, (sense entry).symbol? = some (name ++ "$")) ↔
      ∃ line ∈ lines, line.mention? = some name := by
  simp only [List.mem_map, exists_exists_and_eq_and]
  refine exists_congr fun line => and_congr_right fun member => ?_
  rw [symbol?_render (clear line member)]
  simp

/-- The span of a conditional among clear lines is that of its question among the entries. -/
theorem Span.Brackets.spells {span : Span} {condition : Condition} {chosen join : String}
    (brackets : span.Brackets lines condition chosen join) (distinct : chosen ≠ join)
    (clear : ∀ line ∈ lines, line.isClear = true) :
    span.Spells (lines.map Line.render) condition.question (chosen ++ "$") (join ++ "$") where
  ordered := by
    obtain ⟨before, whenFalse, whenTrue, after, -, rfl, -⟩ := brackets
    simp only
    omega
  tests := by
    have standing := brackets.corners.1
    rw [List.getElem?_map, standing, Option.map_some, Option.map_some,
      Line.sense_render (clear _ (List.mem_of_getElem? standing)), condition.test_eq]
    rfl
  leaves := by
    have standing := brackets.corners.2.1
    rw [List.getElem?_map, standing, Option.map_some, Option.map_some,
      Line.sense_render (clear _ (List.mem_of_getElem? standing))]
    rfl
  defines := by
    rw [List.getElem?_map, brackets.corners.2.2.1, Option.map_some, Line.render_label,
      String.append_assoc]
    rfl
  ends := by
    rw [List.getElem?_map, brackets.corners.2.2.2, Option.map_some, Line.render_label,
      String.append_assoc]
    rfl
  chosenOnly position := by
    rw [symbolAt?_render clear]
    exact (brackets.mentionAt?_iff distinct position).1
  joinOnly position := by
    rw [symbolAt?_render clear]
    exact (brackets.mentionAt?_iff distinct position).2

end Written

/-- Where a list of events is lowered on an empty draft without a fault, the symbols of digits and a
dollar sign in the entries are those of the numbers up to twice the number of its conditionals. The
conditional of each index has the two symbols of its own two numbers: its test puts the question of
the event and goes on at the first, the jump behind its arm for false goes on at the second, the
first is defined right behind that jump and the second at the end, and no other entry has one of
them. Of two conditionals the later one lies behind the earlier one or wholly in one of its arms. -/
theorem conditionals_bracketed (setting : Setting) (events : List Event) (draft : Draft)
    (succeeded : lowerEvents setting events {} = .ok () draft) :
    (∀ digits : String, (∀ c ∈ digits.toList, c.isDigit = true) →
      ((∃ entry ∈ draft.lines, (sense entry).symbol? = some (digits ++ "$")) ↔
        ∃ number, 1 ≤ number ∧ number ≤ 2 * (conditionals events).length ∧
          digits = toString number)) ∧
    ∃ spans : List Span, spans.length = (conditionals events).length ∧
      (∀ (index : Nat) (event : Event) (span : Span), (conditionals events)[index]? = some event →
        spans[index]? = some span → ∃ question, event.question? = some question ∧
          span.Spells draft.lines question (toString (2 * index + 1) ++ "$")
            (toString (2 * index + 2) ++ "$")) ∧
      spans.Pairwise Span.Apart := by
  have numbered := numbered_body succeeded
  have clear := isClear_of_ok succeeded
  obtain ⟨spans, placed, apart⟩ := numbered.exists_spans
  rw [draft.lines_eq]
  constructor
  · intro digits allDigits
    rw [exists_symbol?_iff clear]
    constructor
    · rintro ⟨line, member, mentions⟩
      obtain ⟨taken, least, most, decimal⟩ :=
        numbered.exists_of_mention? member mentions (List.all_eq_true.mpr allDigits)
      rw [numbered.last_eq] at most
      exact ⟨taken, least, by omega, decimal⟩
    · rintro ⟨number, least, most, rfl⟩
      exact placed.exists_mention? least (by omega)
  · refine ⟨spans, placed.length_eq, ?_, apart⟩
    intro index event span listed found
    obtain ⟨condition, read, brackets, distinct⟩ := placed.own_brackets listed found
    exact ⟨condition.question, Event.question?_of_choose read, brackets.spells distinct clear⟩

/-- A conditional with another one in its arm for true, and a third one behind it. -/
def ladderEvents : List Event :=
  [{ command := "EVENT_IF_TRUE", args := [("variable", .text "0")],
     children := [("true", [{ command := "EVENT_IF_TRUE", args := [("variable", .text "1")] }])] },
    { command := "EVENT_IF_TRUE", args := [("variable", .text "2")] }]

/-- The ladder has the generated labels 1 to 6, and those of its inner conditional, which asks
whether the second variable is greater than zero, are 3 and 4. -/
theorem ladder_bracketed :
    ∃ draft, lowerEvents {} ladderEvents {} = .ok () draft ∧
      (∃ entry ∈ draft.lines, (sense entry).symbol? = some "6$") ∧
      ∃ spans : List Span, spans.length = 3 ∧ spans.Pairwise Span.Apart ∧
        ∃ span, spans[1]? = some span ∧
          span.Spells draft.lines ⟨.greater, "VAR_VARIABLE_1", 0⟩ "3$" "4$" := by
  obtain ⟨draft, succeeded⟩ : ∃ draft, lowerEvents {} ladderEvents {} = .ok () draft :=
    ⟨_, by cbv⟩
  have three : (conditionals ladderEvents).length = 3 := by cbv
  obtain ⟨symbols, spans, counted, bracketed, apart⟩ :=
    conditionals_bracketed {} ladderEvents draft succeeded
  rw [three] at symbols counted
  have inner : (conditionals ladderEvents)[1]? = some (conditionals ladderEvents)[1] :=
    List.getElem?_eq_getElem _
  have found : spans[1]? = some spans[1] := List.getElem?_eq_getElem _
  obtain ⟨question, asked, spells⟩ := bracketed 1 _ _ inner found
  have greater : (conditionals ladderEvents)[1].question? =
      some ⟨.greater, "VAR_VARIABLE_1", 0⟩ := by cbv
  obtain rfl := Option.some.inj (greater.symm.trans asked)
  exact ⟨draft, succeeded, (symbols "6" (by simp)).mpr ⟨6, by decide, by decide, rfl⟩, spans,
    counted, apart, _, found, spells⟩

end EventScript
