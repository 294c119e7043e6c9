import Mathlib
import EventScript.Draft.Action

/-!
# What the ledger answers

Each operation of the ledger either leaves it alone or moves it in one of a few ways, and the laws
below say which way is taken when. A refused definition is the one operation that reports a fault
and still moves the ledger: it withdraws the commitment of the label.

The names of generated labels are the decimals of numbers. They are told apart from one another by
their numbers, and from the labels of a script by being reserved.
-/
namespace EventScript

section Running

variable {ε σ α β : Type}

/-- The second of two acts runs on what the first one leaves, unless the first one fails. -/
@[simp]
theorem run_bind (first : EStateM ε σ α) (second : α → EStateM ε σ β) (state : σ) :
    (first >>= second) state =
      match first state with
      | .ok value after => second value after
      | .error fault after => .error fault after := rfl

/-- The second of two acts decides where the first succeeds. -/
theorem run_bind_of_ok {first : EStateM ε σ α} {state after : σ} {value : α}
    (ran : first state = .ok value after) (second : α → EStateM ε σ β) :
    (first >>= second) state = second value after := by
  simp [ran]

/-- Two acts succeed in a row when the first does and the second does on what the first leaves. -/
theorem run_bind_eq_ok_iff {first : EStateM ε σ α} {second : α → EStateM ε σ β} {state after : σ}
    {result : β} :
    (first >>= second) state = .ok result after ↔
      ∃ value middle, first state = .ok value middle ∧ second value middle = .ok result after := by
  cases ran : first state <;> simp [ran]

/-- Two acts fail in a row when the first does, or when the second does on what the first leaves. -/
theorem run_bind_eq_error_iff {first : EStateM ε σ α} {second : α → EStateM ε σ β}
    {state after : σ} {fault : ε} :
    (first >>= second) state = .error fault after ↔
      first state = .error fault after ∨
        ∃ value middle, first state = .ok value middle ∧
          second value middle = .error fault after := by
  cases ran : first state <;> simp [ran]

/-- A value is given without touching the state. -/
@[simp]
theorem run_pure (value : α) (state : σ) :
    (pure value : EStateM ε σ α) state = .ok value state := rfl

/-- Reading the state gives the state. -/
@[simp]
theorem run_get (state : σ) : (get : EStateM ε σ σ) state = .ok state state := rfl

/-- Setting the state forgets the state before. -/
@[simp]
theorem run_set (state after : σ) : (set after : EStateM ε σ PUnit) state = .ok ⟨⟩ after := rfl

/-- Changing the state gives nothing else. -/
@[simp]
theorem run_modify (change : σ → σ) (state : σ) :
    (modify change : EStateM ε σ PUnit) state = .ok ⟨⟩ (change state) := rfl

/-- A fault keeps the state that it arose in. -/
@[simp]
theorem run_throw (fault : ε) (state : σ) :
    (throw fault : EStateM ε σ α) state = .error fault state := rfl

end Running

/-- The first entry of a list answers for its own name and leaves every other to the rest. -/
theorem lookup_cons_ite {α : Type} (entry : String × α) (rest : List (String × α))
    (name : String) :
    (entry :: rest).lookup name = if name = entry.1 then some entry.2 else rest.lookup name := by
  obtain ⟨key, value⟩ := entry
  by_cases same : name = key
  · simp [same]
  · have unlike : (name == key) = false := beq_false_of_ne same
    simp [List.lookup_cons, unlike, same]

/-- The name of every generated label is reserved. -/
theorem isReserved_toString (number : Nat) : isReserved (toString number) = true := by
  have digits : ∀ c ∈ (toString number).toList, c.isDigit = true := by
    intro c member
    exact Nat.isDigit_of_mem_toDigits (b := 10) (n := number) (by decide) (by decide)
      (by simpa using member)
  simpa only [isReserved, List.all_eq_true] using digits

/-- Two generated labels with one name have one number. -/
theorem toString_injective {left right : Nat} (same : toString left = toString right) :
    left = right := Nat.repr_injective same

namespace Ledger

/-- The ledger without a commitment that only jumps have made. -/
def withdraw (ledger : Ledger) (name : String) : Ledger :=
  { ledger with pending := ledger.pending.filter (·.1 != name) }

/-- The ledger with a label that has come to stand in the script. -/
def enter (ledger : Ledger) (name : String) : Ledger :=
  { ledger.withdraw name with defined := ledger.defined ++ [(name, ledger.depth)] }

/-- The ledger with a first jump to a label. -/
def await (ledger : Ledger) (name : String) : Ledger :=
  { ledger with pending := ledger.pending ++ [(name, ledger.depth)] }

/-- The ledger with one more number taken for a generated label. -/
def take (ledger : Ledger) : Ledger := { ledger with nextLabel := ledger.nextLabel + 1 }

/-- The next label after one is taken has the next number. -/
@[simp]
theorem take_nextLabel (ledger : Ledger) : ledger.take.nextLabel = ledger.nextLabel + 1 := rfl

/-- Taking a number does not move the depth. -/
@[simp]
theorem take_depth (ledger : Ledger) : ledger.take.depth = ledger.depth := rfl

/-- A generated label is named by the number that it takes. -/
@[simp]
theorem freshLabel_eq (ledger : Ledger) :
    freshLabel ledger = .ok (toString ledger.nextLabel) ledger.take := rfl

/-- A label that a script may name itself, or one that has been generated. -/
def Knows (ledger : Ledger) (name : String) : Prop :=
  isReserved name = true → ∃ number < ledger.nextLabel, name = toString number

/-- Taking the entries of one name out of a list leaves the other names as they were. -/
theorem lookup_filter_ne (entries : List (String × Nat)) (name other : String) :
    (entries.filter (·.1 != name)).lookup other =
      if other = name then none else entries.lookup other := by
  induction entries with
  | nil => simp
  | cons entry rest inductionHypothesis =>
    by_cases removed : entry.1 = name
    · rw [List.filter_cons_of_neg (by simp [removed]), inductionHypothesis, lookup_cons_ite,
        removed]
      split <;> rfl
    · rw [List.filter_cons_of_pos (by simp [removed]), lookup_cons_ite, lookup_cons_ite,
        inductionHypothesis]
      by_cases same : other = entry.1
      · have distinct : other ≠ name := fun equal => removed (same ▸ equal)
        rw [if_pos same, if_neg distinct, if_pos same]
      · rw [if_neg same, if_neg same]

/-- An entry at the end of a list answers for its name where no earlier entry does. -/
theorem lookup_concat (entries : List (String × Nat)) (name other : String) (depth : Nat) :
    (entries ++ [(name, depth)]).lookup other =
      (entries.lookup other).or (if other = name then some depth else none) := by
  rw [List.lookup_append, lookup_cons_ite, List.lookup_nil]

/-- Exactly the names that a list holds are found in it. -/
theorem lookup_isSome_iff (entries : List (String × Nat)) (name : String) :
    (entries.lookup name).isSome = true ↔ name ∈ entries.map (·.1) := by
  induction entries with
  | nil => simp
  | cons entry rest inductionHypothesis =>
    rw [lookup_cons_ite, List.map_cons, List.mem_cons]
    by_cases same : name = entry.1
    · simp [same]
    · rw [if_neg same, inductionHypothesis]
      simp [same]

/-- A first jump adds its label to those that wait. -/
theorem unresolved_await (ledger : Ledger) (name : String) :
    (ledger.await name).unresolved = ledger.unresolved ++ [name] := by
  simp [unresolved, await]

/-- A refused definition takes its label from those that wait. -/
theorem unresolved_withdraw (ledger : Ledger) (name : String) :
    (ledger.withdraw name).unresolved = ledger.unresolved.filter (· != name) := by
  simp only [unresolved, withdraw, List.filter_map, Function.comp_def]

/-- A definition takes its label from those that wait. -/
theorem unresolved_enter (ledger : Ledger) (name : String) :
    (ledger.enter name).unresolved = ledger.unresolved.filter (· != name) :=
  unresolved_withdraw ledger name

/-- A definition answers before a jump does. -/
theorem commitment_eq (ledger : Ledger) (name : String) :
    ledger.commitment name = (ledger.defined.lookup name).or (ledger.pending.lookup name) := by
  cases stands : ledger.defined.lookup name <;> simp [commitment, stands]

/-- A first jump commits its label and no other. -/
theorem commitment_await {ledger : Ledger} {name : String} (free : ledger.commitment name = none)
    (other : String) :
    (ledger.await name).commitment other =
      if other = name then some ledger.depth else ledger.commitment other := by
  simp only [commitment_eq, await, lookup_concat, ← Option.or_assoc]
  by_cases same : other = name
  · subst same
    rw [← commitment_eq, free, if_pos rfl, Option.none_or]
  · rw [if_neg same, if_neg same, Option.or_none]

/-- A definition commits its label and no other. -/
theorem commitment_enter {ledger : Ledger} {name : String}
    (absent : ledger.defined.lookup name = none) (other : String) :
    (ledger.enter name).commitment other =
      if other = name then some ledger.depth else ledger.commitment other := by
  simp only [commitment_eq, enter, withdraw, lookup_concat, lookup_filter_ne]
  by_cases same : other = name
  · subst same
    simp only [absent, if_pos, Option.none_or, Option.some_or]
  · rw [if_neg same, if_neg same, if_neg same, Option.or_none]

/-- Two ledgers say the same of a label. -/
structure Agrees (name : String) (ledger other : Ledger) : Prop where
  defined : other.defined.lookup name = ledger.defined.lookup name
  pending : other.pending.lookup name = ledger.pending.lookup name

section Agreement

variable {name other : String} {ledger second third : Ledger}

/-- Where two ledgers agree about a label they commit it to the same depth. -/
theorem Agrees.commitment (agrees : ledger.Agrees name second) :
    second.commitment name = ledger.commitment name := by
  rw [commitment_eq, commitment_eq, agrees.defined, agrees.pending]

/-- Agreement is handed on. -/
theorem Agrees.trans (agrees : ledger.Agrees name second) (further : second.Agrees name third) :
    ledger.Agrees name third :=
  ⟨further.defined.trans agrees.defined, further.pending.trans agrees.pending⟩

/-- A definition changes nothing about another label. -/
theorem agrees_enter (distinct : name ≠ other) : ledger.Agrees name (ledger.enter other) := by
  constructor <;> simp [enter, withdraw, lookup_concat, lookup_filter_ne, distinct]

/-- A first jump changes nothing about another label. -/
theorem agrees_await (distinct : name ≠ other) : ledger.Agrees name (ledger.await other) := by
  constructor <;> simp [await, lookup_concat, distinct]

/-- A refused definition changes nothing about another label. -/
theorem agrees_withdraw (distinct : name ≠ other) : ledger.Agrees name (ledger.withdraw other) := by
  constructor <;> simp [withdraw, lookup_filter_ne, distinct]

end Agreement

/-- A definition meets a label that already stands, a commitment to another depth, or neither. -/
theorem define_cases (ledger : Ledger) (name : String) :
    (∃ depth, ledger.defined.lookup name = some depth ∧
        define name ledger = .error (.duplicateLabel name) ledger) ∨
      (ledger.defined.lookup name = none ∧ ∃ expected, ledger.pending.lookup name = some expected ∧
        expected ≠ ledger.depth ∧
        define name ledger =
          .error (.stackImbalance name expected ledger.depth) (ledger.withdraw name)) ∨
      (ledger.defined.lookup name = none ∧
        (∀ expected, ledger.pending.lookup name = some expected → expected = ledger.depth) ∧
        define name ledger = .ok () (ledger.enter name)) := by
  cases stands : ledger.defined.lookup name with
  | some depth => exact Or.inl ⟨depth, rfl, by simp [define, stands]⟩
  | none =>
    apply Or.inr
    cases awaited : ledger.pending.lookup name with
    | none =>
      exact Or.inr ⟨rfl, by simp, by simp [define, stands, awaited, enter, withdraw]⟩
    | some expected =>
      by_cases agreed : expected = ledger.depth
      · refine Or.inr ⟨rfl, by simpa using agreed, ?_⟩
        simp [define, stands, awaited, agreed, enter, withdraw]
      · refine Or.inl ⟨rfl, expected, rfl, agreed, ?_⟩
        simp [define, stands, awaited, agreed, withdraw]

/-- A jump meets a commitment to another depth, a commitment to its own depth, or none. -/
theorem jump_cases (ledger : Ledger) (name : String) :
    (∃ expected, ledger.commitment name = some expected ∧ expected ≠ ledger.depth ∧
        jump name ledger = .error (.stackImbalance name expected ledger.depth) ledger) ∨
      (ledger.commitment name = some ledger.depth ∧ jump name ledger = .ok () ledger) ∨
      (ledger.commitment name = none ∧ jump name ledger = .ok () (ledger.await name)) := by
  cases committed : ledger.commitment name with
  | none => exact Or.inr (Or.inr ⟨rfl, by simp [jump, committed, await]⟩)
  | some expected =>
    by_cases agreed : expected = ledger.depth
    · exact Or.inr (Or.inl ⟨by rw [agreed], by simp [jump, committed, agreed]⟩)
    · exact Or.inl ⟨expected, rfl, agreed, by simp [jump, committed, agreed]⟩

/-- A pop meets too few words or takes its words away. -/
theorem pop_cases (ledger : Ledger) (words : Nat) :
    (ledger.depth < words ∧
        pop words ledger = .error (.stackUnderflow words ledger.depth) ledger) ∨
      (words ≤ ledger.depth ∧
        pop words ledger = .ok () { ledger with depth := ledger.depth - words }) := by
  by_cases short : ledger.depth < words
  · exact Or.inl ⟨short, by simp [pop, short]⟩
  · exact Or.inr ⟨Nat.le_of_not_lt short, by simp [pop, short]⟩

end Ledger

end EventScript
