import EventScript.Proofs.Ledger

/-!
# The ledger answers as its history says

A ledger keeps little of what it has been asked: a depth, a number and two lists of labels, from
which refused definitions take entries away again. The history keeps every request with its reply.
What a ledger replies can be told from the history alone. The depth is what was pushed less what was
popped, reduced to a word; as long as what was pushed fits in a word there is nothing to reduce. A
generated label counts those before it. A label is expected at the depth of its definition, or else
at the depth of the earliest jump to it that was accepted since a definition of it was last refused
for its depth.

The laws hold for every sequence of requests to a new ledger, those that are refused included.
-/
namespace EventScript.Ledger

/-- What a ledger can be asked. -/
inductive Request where
  | push (words : Nat)
  | pop (words : Nat)
  | freshLabel
  | define (name : String)
  | jump (name : String)
deriving DecidableEq, Repr

/-- What a ledger replies. -/
inductive Reply where
  | done
  | named (label : String)
  | refused (fault : Fault)
deriving DecidableEq, Repr

/-- The reply that a result of an operation is, and the ledger behind it. -/
def replied {α : Type} (reply : α → Reply) : EStateM.Result Fault Ledger α → Reply × Ledger
  | .ok value after => (reply value, after)
  | .error fault after => (.refused fault, after)

/-- Asks a ledger. A request that is refused has a ledger behind it as well. -/
def ask (ledger : Ledger) : Request → Reply × Ledger
  | .push words => replied (fun _ => .done) (push words ledger)
  | .pop words => replied (fun _ => .done) (pop words ledger)
  | .freshLabel => replied .named (freshLabel ledger)
  | .define name => replied (fun _ => .done) (define name ledger)
  | .jump name => replied (fun _ => .done) (jump name ledger)

/-- A request with the reply to it. -/
structure Exchange where
  request : Request
  reply : Reply
deriving DecidableEq, Repr

namespace Exchange

/-- The words that an exchange has put onto the stack. -/
def pushed : Exchange → Nat
  | ⟨.push words, _⟩ => words
  | _ => 0

/-- The words that an exchange has taken from the stack. A pop that is refused takes none. -/
def popped : Exchange → Nat
  | ⟨.pop words, .done⟩ => words
  | _ => 0

/-- Whether an exchange has generated a label. -/
def generates (exchange : Exchange) : Bool := exchange.request = .freshLabel

/-- Whether a label was put. -/
def defines (name : String) (exchange : Exchange) : Bool := exchange = ⟨.define name, .done⟩

/-- Whether a jump to a label was accepted. -/
def jumpsTo (name : String) (exchange : Exchange) : Bool := exchange = ⟨.jump name, .done⟩

/-- Whether a definition of a label was refused for its depth. -/
def withdraws (name : String) : Exchange → Bool
  | ⟨.define other, .refused (.stackImbalance _ _ _)⟩ => other = name
  | _ => false

end Exchange

/-- All exchanges so far, the latest first. -/
abbrev History := List Exchange

namespace History

/-- The words that have been put onto the stack. -/
def pushed (history : History) : Nat := (history.map Exchange.pushed).sum

/-- The words that have been taken from the stack. -/
def popped (history : History) : Nat := (history.map Exchange.popped).sum

/-- The depth of the stack: what was put there less what was taken from there, in a word. -/
def depth (history : History) : Nat :=
  (((history.pushed : Int) - (history.popped : Int)) % (depths : Int)).toNat

/-- How many labels have been generated. -/
def generated (history : History) : Nat := history.countP Exchange.generates

/-- The history before the earliest exchange of a kind since the latest one that cuts off what was
before it. -/
def earliest? (kind cuts : Exchange → Bool) : History → Option History
  | [] => none
  | exchange :: past =>
    if cuts exchange then none
    else (earliest? kind cuts past).or (if kind exchange then some past else none)

/-- The history before the definition of a label. -/
def definition? (history : History) (name : String) : Option History :=
  history.earliest? (Exchange.defines name) fun _ => false

/-- The history before the earliest accepted jump to a label since a definition of it was last
refused for its depth. -/
def firstJump? (history : History) (name : String) : Option History :=
  history.earliest? (Exchange.jumpsTo name) (Exchange.withdraws name)

/-- The depth that a label is expected at. A definition goes before a jump. -/
def expected? (history : History) (name : String) : Option Nat :=
  ((history.definition? name).or (history.firstJump? name)).map depth

/-- The reply to what happens to a label at the present depth. -/
def agreement (history : History) (name : String) : Reply :=
  match history.expected? name with
  | none => .done
  | some expected =>
    if expected = history.depth then .done
    else .refused (.stackImbalance name expected history.depth)

/-- The reply to a request after a history. -/
def reply (history : History) : Request → Reply
  | .push _ => .done
  | .pop words =>
    if words ≤ history.depth then .done else .refused (.stackUnderflow words history.depth)
  | .freshLabel => .named (toString (history.generated + 1))
  | .define name =>
    if (history.definition? name).isSome then .refused (.duplicateLabel name)
    else history.agreement name
  | .jump name => history.agreement name

/-- A history goes on with requests and the replies that it tells itself. -/
def retell (history : History) : List Request → History
  | [] => history
  | request :: rest => retell (⟨request, history.reply request⟩ :: history) rest

end History

/-- A ledger is asked one thing after another, whatever it replies. -/
def converse (history : History) (ledger : Ledger) : List Request → History × Ledger
  | [] => (history, ledger)
  | request :: rest =>
    let (reply, after) := ledger.ask request
    converse (⟨request, reply⟩ :: history) after rest

namespace History

section Searching

variable {kind cuts : Exchange → Bool} {history past : History}

/-- Where no exchange is a cut, what is found in the past is found before the latest exchange. -/
theorem earliest?_cons {exchange : Exchange} (uncut : cuts exchange = false) :
    earliest? kind cuts (exchange :: past) =
      (earliest? kind cuts past).or (if kind exchange then some past else none) := by
  rw [earliest?, uncut, if_neg Bool.false_ne_true]

/-- Nothing is found where no exchange since the latest cut is of the kind. -/
theorem earliest?_eq_none_iff :
    earliest? kind cuts history = none ↔
      ∀ other ∈ history.takeWhile (!cuts ·), kind other = false := by
  induction history with
  | nil => simp [earliest?]
  | cons exchange past inductionHypothesis =>
    cases cut : cuts exchange with
    | true => simp [earliest?, cut]
    | false =>
      rw [earliest?_cons cut, Option.or_eq_none_iff, inductionHypothesis,
        List.takeWhile_cons_of_pos (by simp [cut]), List.forall_mem_cons, and_comm]
      simp

/-- What is found is the past of an exchange of the kind. Neither it nor anything after it is a cut,
and nothing between it and the latest cut before it is of the kind. -/
theorem earliest?_eq_some_iff :
    earliest? kind cuts history = some past ↔
      ∃ since exchange, history = since ++ exchange :: past ∧ kind exchange = true ∧
        (∀ other ∈ since ++ [exchange], cuts other = false) ∧
        ∀ other ∈ past.takeWhile (!cuts ·), kind other = false := by
  induction history with
  | nil => simp [earliest?]
  | cons latest earlier inductionHypothesis =>
    rw [← earliest?_eq_none_iff]
    constructor
    · intro found
      cases cut : cuts latest with
      | true => simp [earliest?, cut] at found
      | false =>
        rw [earliest?_cons cut] at found
        cases before : earliest? kind cuts earlier with
        | some other =>
          obtain rfl : other = past := by simpa [before] using found
          obtain ⟨since, exchange, split, ofKind, uncut, first⟩ := inductionHypothesis.mp before
          refine ⟨latest :: since, exchange, by simp [split], ofKind, ?_, ?_⟩
          · simpa [cut] using uncut
          · exact earliest?_eq_none_iff.mpr first
        | none =>
          obtain ⟨ofKind, rfl⟩ : kind latest = true ∧ earlier = past := by
            simpa [before] using found
          exact ⟨[], latest, rfl, ofKind, by simpa using cut, before⟩
    · rintro ⟨since, exchange, split, ofKind, uncut, first⟩
      cases since with
      | nil =>
        obtain ⟨rfl, rfl⟩ : latest = exchange ∧ earlier = past := by simpa using split
        rw [earliest?_cons (by simpa using uncut), first, ofKind]
        rfl
      | cons other since =>
        obtain ⟨rfl, rfl⟩ : latest = other ∧ earlier = since ++ exchange :: past := by
          simpa using split
        obtain ⟨now, later⟩ : cuts latest = false ∧
            ∀ other ∈ since ++ [exchange], cuts other = false := by simpa using uncut
        have found := inductionHypothesis.mpr
          ⟨since, exchange, rfl, ofKind, later, earliest?_eq_none_iff.mp first⟩
        rw [earliest?_cons now, found, Option.some_or]

/-- What is found is shorter than the history that it is found in. -/
theorem length_lt_of_earliest? (found : earliest? kind cuts history = some past) :
    past.length < history.length := by
  obtain ⟨since, exchange, rfl, _⟩ := earliest?_eq_some_iff.mp found
  rw [List.length_append, List.length_cons]
  omega

end Searching

variable {exchange : Exchange} {history : History} {name : String}

/-- A label has the definition that it had, or else the latest exchange. -/
theorem definition?_cons :
    definition? (exchange :: history) name =
      (history.definition? name).or (if exchange.defines name then some history else none) :=
  earliest?_cons rfl

/-- A label has the first jump that it had, or else the latest exchange, unless that withdraws it.
-/
theorem firstJump?_cons :
    firstJump? (exchange :: history) name =
      if exchange.withdraws name then none
      else (history.firstJump? name).or (if exchange.jumpsTo name then some history else none) := by
  rw [firstJump?, earliest?]
  rfl

end History

/-- As long as the words that have been put onto the stack fit in one, the depth is their number
less that of the words that have been taken away. -/
def History.Exact (history : History) : Prop :=
  history.pushed < depths → history.depth + history.popped = history.pushed

/-- A ledger keeps of a history what it takes to reply as the history tells. -/
structure Recalls (ledger : Ledger) (history : History) : Prop where
  level : ledger.depth = history.depth
  exact : ∀ past : History, past <:+ history → past.Exact
  numbered : ledger.nextLabel = history.generated + 1
  stands : ∀ name, ledger.defined.lookup name = (history.definition? name).map History.depth
  awaits : ∀ name, ledger.pending.lookup name =
    if (history.definition? name).isSome then none else (history.firstJump? name).map History.depth
  ordered : ledger.unresolved.Pairwise fun first second =>
    ∀ early late, history.firstJump? first = some early → history.firstJump? second = some late →
      early.length < late.length

/-- A new ledger recalls the empty history. -/
theorem recalls_empty : Recalls {} [] where
  level := rfl
  exact := by
    intro past inside
    obtain rfl := List.suffix_nil.mp inside
    exact fun _ => rfl
  numbered := rfl
  stands := by simp [History.definition?, History.earliest?]
  awaits := by simp [History.firstJump?, History.earliest?]
  ordered := .nil

namespace Recalls

variable {ledger after : Ledger} {history : History} {exchange : Exchange} {name : String}

/-- A label is committed to the depth at which the history expects it. -/
theorem commitment_eq (recalls : ledger.Recalls history) (name : String) :
    ledger.commitment name = history.expected? name := by
  rw [Ledger.commitment_eq, recalls.stands, recalls.awaits, History.expected?]
  cases history.definition? name <;> simp

/-- The labels that wait are those without a definition that were jumped to. -/
theorem mem_unresolved_iff (recalls : ledger.Recalls history) (name : String) :
    name ∈ ledger.unresolved ↔
      history.definition? name = none ∧ (history.firstJump? name).isSome = true := by
  rw [unresolved, ← lookup_isSome_iff, recalls.awaits]
  cases history.definition? name <;> simp

/-- Taking labels from those that wait keeps their order, as long as none is left over that the
latest exchange withdraws. -/
theorem ordered_of_sublist (recalls : ledger.Recalls history)
    (fewer : after.unresolved.Sublist ledger.unresolved)
    (kept : ∀ name ∈ after.unresolved, exchange.withdraws name = false) :
    after.unresolved.Pairwise fun first second =>
      ∀ early late, History.firstJump? (exchange :: history) first = some early →
        History.firstJump? (exchange :: history) second = some late →
          early.length < late.length := by
  have same : ∀ name ∈ after.unresolved,
      History.firstJump? (exchange :: history) name = history.firstJump? name := by
    intro name member
    obtain ⟨past, jumped⟩ := Option.isSome_iff_exists.mp
      ((recalls.mem_unresolved_iff name).mp (fewer.subset member)).2
    rw [History.firstJump?_cons, kept name member, jumped]
    rfl
  refine (recalls.ordered.sublist fewer).imp_of_mem fun {first second} here there before => ?_
  rw [same first here, same second there]
  exact before

/-- The pasts of a history with one more exchange are those that it had, and itself. -/
theorem exact_cons (recalls : ledger.Recalls history)
    (exact : History.Exact (exchange :: history)) :
    ∀ past : History, past <:+ exchange :: history → past.Exact := by
  intro past inside
  rcases List.suffix_cons_iff.mp inside with rfl | earlier
  · exact exact
  · exact recalls.exact past earlier

/-- An exchange that moves no words leaves the depth as it is. -/
theorem still (recalls : ledger.Recalls history)
    (still : exchange.popped = 0 ∧ exchange.pushed = 0) :
    ledger.depth = History.depth (exchange :: history) ∧ History.Exact (exchange :: history) := by
  have exact := recalls.exact history List.suffix_rfl
  have pushed : History.pushed (exchange :: history) = history.pushed := by
    simp [History.pushed, still]
  have popped : History.popped (exchange :: history) = history.popped := by
    simp [History.popped, still]
  have level : History.depth (exchange :: history) = history.depth := by
    rw [History.depth, pushed, popped, History.depth]
  refine ⟨recalls.level.trans level.symm, ?_⟩
  rwa [History.Exact, pushed, popped, level]

/-- An exchange that is about no label leaves all labels as they are. -/
theorem quiet (recalls : ledger.Recalls history)
    (unlabelled : ∀ name, exchange.defines name = false ∧ exchange.jumpsTo name = false ∧
      exchange.withdraws name = false)
    (level : after.depth = History.depth (exchange :: history))
    (exact : History.Exact (exchange :: history))
    (numbered : after.nextLabel = History.generated (exchange :: history) + 1)
    (defined : after.defined = ledger.defined) (pending : after.pending = ledger.pending) :
    after.Recalls (exchange :: history) where
  level := level
  exact := recalls.exact_cons exact
  numbered := numbered
  stands := by
    intro name
    rw [defined, recalls.stands, History.definition?_cons, (unlabelled name).1]
    simp
  awaits := by
    intro name
    rw [pending, recalls.awaits, History.definition?_cons, History.firstJump?_cons,
      (unlabelled name).1, (unlabelled name).2.1, (unlabelled name).2.2]
    simp
  ordered := by
    have same : after.unresolved = ledger.unresolved := by rw [unresolved, unresolved, pending]
    exact recalls.ordered_of_sublist (same ▸ List.Sublist.refl _) fun name _ =>
      (unlabelled name).2.2

/-- A refusal that withdraws no label leaves all as it is. -/
theorem refused (recalls : ledger.Recalls history) {request : Request} {fault : Fault}
    (still : Exchange.popped ⟨request, .refused fault⟩ = 0 ∧
      Exchange.pushed ⟨request, .refused fault⟩ = 0 ∧
      Exchange.generates ⟨request, .refused fault⟩ = false)
    (kept : ∀ name, Exchange.withdraws name ⟨request, .refused fault⟩ = false) :
    ledger.Recalls (⟨request, .refused fault⟩ :: history) := by
  obtain ⟨level, exact⟩ := recalls.still ⟨still.1, still.2.1⟩
  refine recalls.quiet ?_ level exact ?_ rfl rfl
  · intro name
    exact ⟨by simp [Exchange.defines], by simp [Exchange.jumpsTo], kept name⟩
  · simpa [still, History.generated] using recalls.numbered

/-- Words are pushed. -/
theorem ask_push (recalls : ledger.Recalls history) (words : Nat) :
    ∃ after, ledger.ask (.push words) = (history.reply (.push words), after) ∧
      after.Recalls (⟨.push words, history.reply (.push words)⟩ :: history) := by
  have level := recalls.level
  have exact := recalls.exact history List.suffix_rfl
  have pushed : History.pushed (⟨.push words, .done⟩ :: history) = words + history.pushed := rfl
  have popped : History.popped (⟨.push words, .done⟩ :: history) = history.popped := by
    simp [History.popped, Exchange.popped]
  refine ⟨{ ledger with depth := (ledger.depth + words) % depths }, rfl,
    recalls.quiet ?_ ?_ ?_ ?_ rfl rfl⟩
  · simp [History.reply, Exchange.defines, Exchange.jumpsTo, Exchange.withdraws]
  · rw [History.reply, History.depth, pushed, popped]
    rw [History.depth] at level
    simp only [depths, UInt64.size] at level ⊢
    omega
  · simp only [History.reply, History.Exact, History.depth, pushed, popped, depths,
      UInt64.size] at exact ⊢
    omega
  · simpa [History.generated, Exchange.generates] using recalls.numbered

/-- Words are popped where the history has left so many on the stack. -/
theorem ask_pop (recalls : ledger.Recalls history) (words : Nat) :
    ∃ after, ledger.ask (.pop words) = (history.reply (.pop words), after) ∧
      after.Recalls (⟨.pop words, history.reply (.pop words)⟩ :: history) := by
  have level := recalls.level
  have exact := recalls.exact history List.suffix_rfl
  obtain ⟨short, refused⟩ | ⟨held, taken⟩ := pop_cases ledger words
  · have told : history.reply (.pop words) = .refused (.stackUnderflow words history.depth) := by
      rw [History.reply, if_neg (by omega)]
    rw [ask, refused, told, level]
    exact ⟨ledger, rfl, recalls.refused ⟨rfl, rfl, rfl⟩ fun _ => rfl⟩
  · have told : history.reply (.pop words) = .done := by
      rw [History.reply, if_pos (by omega)]
    have pushed : History.pushed (⟨.pop words, .done⟩ :: history) = history.pushed := by
      simp [History.pushed, Exchange.pushed]
    have popped : History.popped (⟨.pop words, .done⟩ :: history) = words + history.popped := rfl
    rw [ask, taken, told]
    refine ⟨{ ledger with depth := ledger.depth - words }, rfl,
      recalls.quiet ?_ ?_ ?_ ?_ rfl rfl⟩
    · simp [Exchange.defines, Exchange.jumpsTo, Exchange.withdraws]
    · rw [History.depth, pushed, popped]
      rw [History.depth] at level
      simp only [depths, UInt64.size] at level ⊢
      omega
    · simp only [History.Exact, History.depth, pushed, popped, depths, UInt64.size] at level exact ⊢
      omega
    · simpa [History.generated, Exchange.generates] using recalls.numbered

/-- A generated label is named by the number of labels that were generated, itself included. -/
theorem ask_freshLabel (recalls : ledger.Recalls history) :
    ∃ after, ledger.ask .freshLabel = (history.reply .freshLabel, after) ∧
      after.Recalls (⟨.freshLabel, history.reply .freshLabel⟩ :: history) := by
  rw [ask, freshLabel_eq, recalls.numbered]
  obtain ⟨level, exact⟩ :=
    @still ledger history ⟨.freshLabel, history.reply .freshLabel⟩ recalls ⟨rfl, rfl⟩
  refine ⟨ledger.take, rfl, recalls.quiet ?_ level exact ?_ rfl rfl⟩
  · simp [History.reply, Exchange.defines, Exchange.jumpsTo, Exchange.withdraws]
  · rw [take_nextLabel, recalls.numbered]
    simp [History.generated, Exchange.generates]

/-- An exchange about a label moves neither the stack nor the numbers. -/
theorem about (recalls : ledger.Recalls history)
    (still : exchange.popped = 0 ∧ exchange.pushed = 0 ∧ exchange.generates = false)
    (depth : after.depth = ledger.depth) (nextLabel : after.nextLabel = ledger.nextLabel)
    (stands : ∀ other, after.defined.lookup other =
      (History.definition? (exchange :: history) other).map History.depth)
    (awaits : ∀ other, after.pending.lookup other =
      if (History.definition? (exchange :: history) other).isSome then none
      else (History.firstJump? (exchange :: history) other).map History.depth)
    (ordered : after.unresolved.Pairwise fun first second =>
      ∀ early late, History.firstJump? (exchange :: history) first = some early →
        History.firstJump? (exchange :: history) second = some late →
          early.length < late.length) :
    after.Recalls (exchange :: history) where
  level := depth.trans (recalls.still ⟨still.1, still.2.1⟩).1
  exact := recalls.exact_cons (recalls.still ⟨still.1, still.2.1⟩).2
  numbered := by simpa [still, nextLabel, History.generated] using recalls.numbered
  stands := stands
  awaits := awaits
  ordered := ordered

/-- A definition that the history refuses is refused, and one that it accepts is accepted. -/
theorem ask_define (recalls : ledger.Recalls history) (name : String) :
    ∃ after, ledger.ask (.define name) = (history.reply (.define name), after) ∧
      after.Recalls (⟨.define name, history.reply (.define name)⟩ :: history) := by
  have level := recalls.level
  have stands := recalls.stands name
  have expects := recalls.commitment_eq name
  obtain ⟨depth, found, duplicate⟩ | ⟨absent, expected, awaited, elsewhere, refused⟩ |
      ⟨absent, agreed, entered⟩ := define_cases ledger name
  · have defined : (history.definition? name).isSome = true := by
      rw [← Option.isSome_map (f := History.depth), ← stands, found]
      rfl
    have told : history.reply (.define name) = .refused (.duplicateLabel name) := by
      rw [History.reply, if_pos defined]
    rw [ask, duplicate, told]
    exact ⟨ledger, rfl, recalls.refused ⟨rfl, rfl, rfl⟩ fun _ => rfl⟩
  · have undefined : history.definition? name = none := by simpa [absent] using stands
    rw [Ledger.commitment_eq, absent, Option.none_or, awaited] at expects
    have told : history.reply (.define name) =
        .refused (.stackImbalance name expected history.depth) := by
      rw [History.reply, undefined, History.agreement, ← expects]
      simp [← level, elsewhere]
    rw [ask, refused, told, level]
    refine ⟨ledger.withdraw name, rfl, recalls.about ⟨rfl, rfl, rfl⟩ rfl rfl ?_ ?_ ?_⟩
    · intro other
      rw [withdraw, History.definition?_cons]
      simpa [Exchange.defines] using recalls.stands other
    · intro other
      rw [withdraw, lookup_filter_ne, recalls.awaits, History.definition?_cons,
        History.firstJump?_cons]
      by_cases same : other = name
      · simp [Exchange.withdraws, same]
      · simp [Exchange.defines, Exchange.jumpsTo, Exchange.withdraws, same, Ne.symm same]
    · apply recalls.ordered_of_sublist
      · rw [unresolved_withdraw]
        exact List.filter_sublist
      · intro other member
        rw [unresolved_withdraw, List.mem_filter, bne_iff_ne] at member
        simpa [Exchange.withdraws] using Ne.symm member.2
  · have undefined : history.definition? name = none := by simpa [absent] using stands
    have told : history.reply (.define name) = .done := by
      rw [Ledger.commitment_eq, absent, Option.none_or] at expects
      rw [History.reply, undefined, History.agreement, ← expects]
      cases awaited : ledger.pending.lookup name with
      | none => rfl
      | some expected => simp [← level, agreed expected awaited]
    rw [ask, entered, told]
    refine ⟨ledger.enter name, rfl, recalls.about ⟨rfl, rfl, rfl⟩ rfl rfl ?_ ?_ ?_⟩
    · intro other
      rw [enter, lookup_concat, recalls.stands, History.definition?_cons, level]
      by_cases same : other = name
      · simp [Exchange.defines, same, undefined]
      · simp [Exchange.defines, same, Ne.symm same]
    · intro other
      rw [enter, withdraw, lookup_filter_ne, recalls.awaits, History.definition?_cons,
        History.firstJump?_cons]
      by_cases same : other = name
      · simp [Exchange.defines, same, undefined]
      · simp [Exchange.defines, Exchange.jumpsTo, Exchange.withdraws, same, Ne.symm same]
    · apply recalls.ordered_of_sublist
      · rw [unresolved_enter]
        exact List.filter_sublist
      · exact fun _ _ => rfl

/-- A jump that the history refuses is refused, and one that it accepts is accepted. -/
theorem ask_jump (recalls : ledger.Recalls history) (name : String) :
    ∃ after, ledger.ask (.jump name) = (history.reply (.jump name), after) ∧
      after.Recalls (⟨.jump name, history.reply (.jump name)⟩ :: history) := by
  have level := recalls.level
  have expects := recalls.commitment_eq name
  obtain ⟨expected, committed, elsewhere, refused⟩ | ⟨committed, kept⟩ | ⟨free, awaited⟩ :=
    jump_cases ledger name
  · have told : history.reply (.jump name) =
        .refused (.stackImbalance name expected history.depth) := by
      rw [History.reply, History.agreement, ← expects, committed]
      simp [← level, elsewhere]
    rw [ask, refused, told, level]
    exact ⟨ledger, rfl, recalls.refused ⟨rfl, rfl, rfl⟩ fun _ => rfl⟩
  · have told : history.reply (.jump name) = .done := by
      rw [History.reply, History.agreement, ← expects, committed]
      simp [level]
    rw [ask, kept, told]
    refine ⟨ledger, rfl, recalls.about ⟨rfl, rfl, rfl⟩ rfl rfl ?_ ?_ ?_⟩
    · intro other
      rw [History.definition?_cons]
      simpa [Exchange.defines] using recalls.stands other
    · -- The label is committed, so this is not the first jump to it that counts.
      intro other
      rw [recalls.awaits, History.definition?_cons, History.firstJump?_cons]
      by_cases same : other = name
      · subst same
        rw [expects, History.expected?] at committed
        cases defined : history.definition? other with
        | some past => simp [Exchange.defines]
        | none =>
          obtain ⟨past, jumped, _⟩ : ∃ past, history.firstJump? other = some past ∧
              past.depth = ledger.depth := by simpa [defined] using committed
          simp [Exchange.defines, Exchange.withdraws, jumped]
      · simp [Exchange.defines, Exchange.jumpsTo, Exchange.withdraws, Ne.symm same]
    · exact recalls.ordered_of_sublist (.refl _) fun _ _ => rfl
  · have told : history.reply (.jump name) = .done := by
      rw [History.reply, History.agreement, ← expects, free]
    rw [free, History.expected?] at expects
    obtain ⟨undefined, unjumped⟩ : history.definition? name = none ∧
        history.firstJump? name = none := by simpa using expects.symm
    have latest : History.firstJump? (⟨.jump name, .done⟩ :: history) name = some history := by
      simp [History.firstJump?_cons, Exchange.withdraws, Exchange.jumpsTo, unjumped]
    have earlier : ∀ other ∈ ledger.unresolved, ∀ early,
        History.firstJump? (⟨.jump name, .done⟩ :: history) other = some early →
          early.length < history.length := by
      intro other member early found
      obtain ⟨_, past, jumped⟩ := ((recalls.mem_unresolved_iff other).mp member).imp_right
        Option.isSome_iff_exists.mp
      obtain rfl : past = early := by
        simpa [History.firstJump?_cons, Exchange.withdraws, jumped] using found
      exact History.length_lt_of_earliest? jumped
    rw [ask, awaited, told]
    refine ⟨ledger.await name, rfl, recalls.about ⟨rfl, rfl, rfl⟩ rfl rfl ?_ ?_ ?_⟩
    · intro other
      rw [await, History.definition?_cons]
      simpa [Exchange.defines] using recalls.stands other
    · intro other
      rw [await, lookup_concat, recalls.awaits, History.definition?_cons, History.firstJump?_cons,
        level]
      by_cases same : other = name
      · simp [Exchange.defines, Exchange.jumpsTo, Exchange.withdraws, same, undefined, unjumped]
      · simp [Exchange.defines, Exchange.jumpsTo, Exchange.withdraws, same, Ne.symm same]
    · rw [unresolved_await, List.pairwise_append]
      refine ⟨recalls.ordered_of_sublist (.refl _) fun _ _ => rfl, List.pairwise_singleton _ _, ?_⟩
      intro other member second isName early late before after
      obtain rfl : second = name := List.mem_singleton.mp isName
      obtain rfl : history = late := Option.some.inj (latest.symm.trans after)
      exact earlier other member early before

/-- A ledger that recalls a history replies as the history tells and recalls that as well. -/
theorem ask_eq (recalls : ledger.Recalls history) (request : Request) :
    ∃ after, ledger.ask request = (history.reply request, after) ∧
      after.Recalls (⟨request, history.reply request⟩ :: history) := by
  cases request with
  | push words => exact recalls.ask_push words
  | pop words => exact recalls.ask_pop words
  | freshLabel => exact recalls.ask_freshLabel
  | define name => exact recalls.ask_define name
  | jump name => exact recalls.ask_jump name

/-- A ledger that recalls a history goes on as the history retells itself. -/
theorem converse_eq (recalls : ledger.Recalls history) (requests : List Request) :
    ∃ after, converse history ledger requests = (history.retell requests, after) ∧
      after.Recalls (history.retell requests) := by
  induction requests generalizing history ledger with
  | nil => exact ⟨ledger, rfl, recalls⟩
  | cons request rest inductionHypothesis =>
    obtain ⟨next, replied, nextRecalls⟩ := recalls.ask_eq request
    rw [converse, replied, History.retell]
    exact inductionHypothesis nextRecalls

end Recalls

/-- Whatever a new ledger has been asked, its history is the one that retells itself, and the ledger
replies to the next request as that history tells. As long as the words pushed fit in a word, the
words on the stack are those pushed less those popped, now and whenever a label was last heard of. A
pop that is refused changes nothing. The labels that wait are those without a
definition that were jumped to since a definition of them was last refused for its depth, in the
order of those jumps. -/
theorem replies_told_by_history (requests : List Request) :
    ∃ history ledger, converse [] {} requests = (history, ledger) ∧
      history = History.retell [] requests ∧
      (∀ request, (ledger.ask request).1 = history.reply request) ∧
      ledger.depth = history.depth ∧
      (∀ past : History, past <:+ history → past.pushed < depths →
        past.depth + past.popped = past.pushed) ∧
      (∀ words, ledger.depth < words → (ledger.ask (.pop words)).2 = ledger) ∧
      (∀ name, name ∈ ledger.unresolved ↔
        history.definition? name = none ∧ (history.firstJump? name).isSome = true) ∧
      ledger.unresolved.Pairwise fun first second =>
        ∀ early late, history.firstJump? first = some early →
          history.firstJump? second = some late → early.length < late.length := by
  obtain ⟨ledger, conversed, recalls⟩ := recalls_empty.converse_eq requests
  refine ⟨_, ledger, conversed, rfl, ?_, recalls.level, recalls.exact, ?_,
    recalls.mem_unresolved_iff, recalls.ordered⟩
  · intro request
    obtain ⟨after, replied, _⟩ := recalls.ask_eq request
    rw [replied]
  · intro words short
    obtain ⟨_, refused⟩ | ⟨held, _⟩ := pop_cases ledger words
    · rw [ask, refused]
      rfl
    · omega

/-- A definition that is refused for its depth lets the label be jumped to at another one. -/
example :
    (converse [] {} [.jump "again", .push 1, .define "again", .jump "again", .define "again",
        .jump "again", .pop 2]).1.map Exchange.reply =
      [.refused (.stackUnderflow 2 1), .done, .done, .done,
        .refused (.stackImbalance "again" 0 1), .done, .done] := by
  decide

end EventScript.Ledger
