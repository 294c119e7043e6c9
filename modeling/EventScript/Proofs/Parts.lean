import EventScript.Proofs.LocalActor
import EventScript.Proofs.Rendering

/-!
# The parts of a text read back

The text of a script has optional lines in three places, a list of unknown length in front, and a
name and a body that may say anything, lines like those of the preamble included. It is read line by
line. Each reader takes from the front what one part has written there: the includes end at the
first blank line, since no line of an include is blank, and the optional lines are told from what
follows them in their absence. Everything behind the preamble is the body, up to the end of the last
line. So all parts come back, as long as none of them brings a newline of its own.
-/
namespace EventScript

/-- What the text of a script is made of. -/
structure Parts where
  includes : List String
  bank : Nat
  /-- Whether the local actor is reserved. -/
  reserves : Bool
  name : String
  exported : Bool
  body : List String
deriving DecidableEq, Repr

/-- The parts that a draft and its options bring into a text. -/
def Draft.parts (draft : Draft) (options : Options) (name : String) (exported : Bool) : Parts where
  includes := options.includes
  bank := options.bank
  reserves := draft.reservesLocalActor options
  name := name
  exported := exported
  body := draft.lines

/-- No part has a newline of its own. -/
structure Parts.OneLined (parts : Parts) : Prop where
  includes : ∀ path ∈ parts.includes, Unbroken path
  name : Unbroken parts.name
  body : ∀ line ∈ parts.body, Unbroken line

/-- Takes a value from the front of some lines. -/
abbrev LineReader := StateT (List String) Option

namespace LineReader

variable {α β : Type}

/-- What stands in the line in front between a beginning and an end. -/
def framed (front back : String) : LineReader String
  | [] => none
  | line :: rest => (between? front back line).map (·, rest)

/-- Particular lines. -/
def exactly (expected : List String) : LineReader Unit := fun lines =>
  (expected.isPrefixOf? lines).map ((), ·)

/-- Particular lines, where they are in front. -/
def optionally (expected : List String) : LineReader Bool := fun lines =>
  match exactly expected lines with
  | some (_, rest) => some (true, rest)
  | none => some (false, lines)

/-- The paths of includes, up to a blank line. -/
def includes : LineReader (List String)
  | [] => none
  | "" :: rest => some ([], rest)
  | line :: rest => do
    let path ← between? ".include \"" "\"" line
    let (paths, behind) ← includes rest
    return (path :: paths, behind)

/-- The number of a bank. -/
def bank : LineReader Nat := do
  let digits ← framed ".area _CODE_" ""
  digits.toNat?

/-- All lines but a blank one at the end. -/
def body : LineReader (List String) := fun lines => ([""].isSuffixOf? lines).map (·, [])

/-- The parts of a text, in the order of its lines. -/
def parts : LineReader Parts := do
  let includes ← includes
  let bank ← bank
  exactly [""]
  let reserves ← optionally localActorSymbol
  let name ← framed "___bank_" (" = " ++ toString bank)
  exactly [".globl ___bank_" ++ name]
  let exported ← optionally [".globl _" ++ name]
  exactly ["", "_" ++ name ++ "::"]
  exactly (if reserves then localActorWords else [])
  let body ← body
  return { includes, bank, reserves, name, exported, body }

/-- From some lines in front of others a reader takes a value and leaves the others. -/
def Reads (reader : LineReader α) (written rest : List String) (value : α) : Prop :=
  reader (written ++ rest) = some (value, rest)

/-- Readers in a row take what is written in a row. -/
theorem Reads.bind {first : LineReader α} {second : α → LineReader β}
    {written more rest : List String} {value : α} {result : β}
    (start : Reads first written (more ++ rest) value)
    (next : Reads (second value) more rest result) :
    Reads (first >>= second) (written ++ more) rest result := by
  rw [Reads, List.append_assoc]
  change (first (written ++ (more ++ rest))).bind _ = _
  rw [start]
  exact next

/-- Giving a value takes no line. -/
theorem reads_pure (value : α) (rest : List String) : Reads (pure value) [] rest value := rfl

/-- A line between a beginning and an end is read. -/
theorem reads_framed (front middle back : String) (rest : List String) :
    Reads (framed front back) [front ++ middle ++ back] rest middle := by
  rw [Reads, List.singleton_append, framed, between?_append]
  rfl

/-- Particular lines are read. -/
theorem reads_exactly (expected rest : List String) :
    Reads (exactly expected) expected rest () := by
  have found : expected.isPrefixOf? (expected ++ rest) = some rest := by
    rw [List.isPrefixOf?_eq_some_iff_append_eq]
  rw [Reads, exactly, found]
  rfl

/-- Optional lines are read where they are written, and missed where others are in front. -/
theorem reads_optionally {expected rest : List String} (present : Bool)
    (others : ¬expected <+: rest) :
    Reads (optionally expected) (if present then expected else []) rest present := by
  cases present with
  | true =>
    have found : exactly expected (expected ++ rest) = some ((), rest) :=
      reads_exactly expected rest
    simp [Reads, optionally, found]
  | false =>
    have missed : expected.isPrefixOf? rest = none := by
      rw [Option.eq_none_iff_forall_ne_some]
      intro behind found
      exact others ⟨behind, List.isPrefixOf?_eq_some_iff_append_eq.mp found⟩
    simp [Reads, optionally, exactly, missed]

/-- The paths of includes are read up to the blank line behind them. -/
theorem reads_includes (paths rest : List String) :
    Reads includes (paths.map (fun path => ".include \"" ++ path ++ "\"") ++ [""]) rest paths := by
  unfold Reads
  induction paths with
  | nil => rfl
  | cons path paths inductionHypothesis =>
    have filled : ".include \"" ++ path ++ "\"" ≠ "" := by simp
    rw [List.map_cons, List.cons_append, List.cons_append, includes, between?_append]
    · simp only [Option.bind_eq_bind, Option.bind_some, inductionHypothesis]
      rfl
    · exact filled

/-- The number of a bank is read from its decimal. -/
theorem reads_bank (number : Nat) (rest : List String) :
    Reads bank [".area _CODE_" ++ toString number] rest number := by
  have line := reads_framed ".area _CODE_" (toString number) "" rest
  rw [String.append_empty] at line
  have digits : Reads (liftM (toString number).toNat?) [] rest number := by
    have read : (toString number).toNat? = some number := Nat.toNat?_repr number
    rw [Reads, read]
    rfl
  rw [bank, ← List.append_nil [_]]
  exact Reads.bind line digits

/-- The lines of a body are read up to the end of the text. -/
theorem reads_body (lines : List String) : Reads body (lines ++ [""]) [] lines := by
  have found : [""].isSuffixOf? (lines ++ [""]) = some lines := by
    rw [List.isSuffixOf?_eq_some_iff_append_eq]
  rw [Reads, List.append_nil, body, found]
  rfl

/-- The line of the bank is not taken for one of the local actor. -/
theorem localActorSymbol_not_ahead (name bank : String) (rest : List String) :
    ¬localActorSymbol <+: ("___bank_" ++ name ++ bank) :: rest := by
  rw [localActorSymbol_eq, List.cons_prefix_cons]
  rintro ⟨same, _⟩
  have characters := congrArg String.toList same
  simp at characters

/-- The parts of a text are read from its lines. -/
theorem reads_parts (options : Options) (reserves : Bool) (name : String) (exported : Bool)
    (body : List String) :
    Reads parts (options.preamble reserves name exported ++ body ++ [""]) []
      { includes := options.includes, bank := options.bank, reserves, name, exported, body } := by
  have split : options.preamble reserves name exported ++ body ++ [""] =
      (options.includes.map (fun path => ".include \"" ++ path ++ "\"") ++ [""]) ++
        ([".area _CODE_" ++ toString options.bank] ++ ([""] ++
          ((if reserves then localActorSymbol else []) ++
            (["___bank_" ++ name ++ (" = " ++ toString options.bank)] ++
              ([".globl ___bank_" ++ name] ++ ((if exported then [".globl _" ++ name] else []) ++
                (["", "_" ++ name ++ "::"] ++ ((if reserves then localActorWords else []) ++
                  ((body ++ [""]) ++ []))))))))) := by
    simp [Options.preamble, String.append_assoc]
  rw [split]
  refine (reads_includes _ _).bind ((reads_bank _ _).bind ((reads_exactly _ _).bind ?_))
  refine (reads_optionally reserves (localActorSymbol_not_ahead _ _ _)).bind ?_
  refine (reads_framed _ _ _ _).bind ((reads_exactly _ _).bind ?_)
  -- Where the script is not exported, it is a blank line that stands where the symbol would.
  refine (reads_optionally exported (by simp)).bind ((reads_exactly _ _).bind ?_)
  exact (reads_exactly _ _).bind ((reads_body body).bind (reads_pure _ _))

end LineReader

/-- The parts of a text. -/
def Parts.ofText? (text : String) : Option Parts :=
  (LineReader.parts (textLines text)).map (·.1)

/-- A draft is assembled where every label that is jumped to is defined. -/
theorem Draft.assemble_eq_ok_iff {draft : Draft} {options : Options} {name text : String}
    {exported : Bool} :
    draft.assemble options name exported = .ok text ↔ draft.ledger.unresolved = [] ∧
      joinLines (options.preamble (draft.reservesLocalActor options) name exported ++ draft.lines) =
        text := by
  unfold Draft.assemble
  cases draft.ledger.unresolved <;> simp

/-- The parts of an assembled text are read from it, if none of them has a newline of its own. -/
theorem Parts.ofText?_of_assemble {draft : Draft} {options : Options} {name text : String}
    {exported : Bool} (unbroken : (draft.parts options name exported).OneLined)
    (assembled : draft.assemble options name exported = .ok text) :
    Parts.ofText? text = some (draft.parts options name exported) := by
  obtain ⟨-, rfl⟩ := Draft.assemble_eq_ok_iff.mp assembled
  have split : textLines (joinLines
      (options.preamble (draft.reservesLocalActor options) name exported ++ draft.lines)) =
        options.preamble (draft.reservesLocalActor options) name exported ++ draft.lines ++ [""] :=
    Options.textLines_preamble unbroken.includes unbroken.name unbroken.body
  have read := LineReader.reads_parts options (draft.reservesLocalActor options) name exported
    draft.lines
  rw [LineReader.Reads, List.append_nil] at read
  rw [Parts.ofText?, split, read]
  rfl

/-- Where every label that is jumped to is defined, a draft has a text, and all that the text is
made of is read from it, if no part has a newline of its own. So another draft of which this holds
has the same text only with the same includes in the same order, the same bank, the same decision on
the local actor, the same name, exported or not, and the same lines. -/
theorem text_determines_parts {draft : Draft} {options : Options} {name : String}
    (exported : Bool) (resolved : draft.ledger.unresolved = [])
    (unbroken : (draft.parts options name exported).OneLined) :
    ∃ text, draft.assemble options name exported = .ok text ∧
      Parts.ofText? text = some (draft.parts options name exported) ∧
      ∀ (other : Draft) (otherOptions : Options) (otherName : String) (otherExported : Bool),
        (other.parts otherOptions otherName otherExported).OneLined →
        other.assemble otherOptions otherName otherExported = .ok text →
          otherOptions.includes = options.includes ∧ otherOptions.bank = options.bank ∧
          other.reservesLocalActor otherOptions = draft.reservesLocalActor options ∧
          otherName = name ∧ otherExported = exported ∧ other.lines = draft.lines := by
  obtain ⟨text, assembled⟩ : ∃ text, draft.assemble options name exported = .ok text :=
    ⟨_, Draft.assemble_eq_ok_iff.mpr ⟨resolved, rfl⟩⟩
  have read := Parts.ofText?_of_assemble unbroken assembled
  refine ⟨text, assembled, read,
    fun other otherOptions otherName otherExported alsoUnbroken same => ?_⟩
  have alsoRead := Parts.ofText?_of_assemble alsoUnbroken same
  have parts : other.parts otherOptions otherName otherExported =
      draft.parts options name exported := Option.some.inj (alsoRead.symm.trans read)
  exact ⟨congrArg Parts.includes parts, congrArg Parts.bank parts, congrArg Parts.reserves parts,
    congrArg Parts.name parts, congrArg Parts.exported parts, congrArg Parts.body parts⟩

/-- A body between blank lines that is written like the end of a preamble. -/
def imitatingDraft : Draft :=
  { entries := #[⟨.blank, 0⟩, ⟨.raw ".globl _x", 0⟩, ⟨.blank, 0⟩, ⟨.raw "_x::", 0⟩, ⟨.blank, 0⟩] }

/-- Options with an include that is empty and one that has a quote. -/
def quotingOptions : Options := { includes := ["", "a\" b"], bank := 7, localActor := .always }

/-- The imitated lines are read as lines of the body, and the quote as part of a path. -/
theorem imitating_text_determines_parts :
    imitatingDraft.ledger.unresolved = [] ∧
      (imitatingDraft.parts quotingOptions "x = 7" false).OneLined ∧
      ∃ text, imitatingDraft.assemble quotingOptions "x = 7" false = .ok text ∧
        Parts.ofText? text = some
          { includes := ["", "a\" b"], bank := 7, reserves := true, name := "x = 7",
            exported := false, body := ["", ".globl _x", "", "_x::", ""] } := by
  have resolved : imitatingDraft.ledger.unresolved = [] := rfl
  have unbroken : (imitatingDraft.parts quotingOptions "x = 7" false).OneLined :=
    ⟨by simp [Draft.parts, quotingOptions, Unbroken], by simp [Draft.parts, Unbroken],
      by simp [Draft.parts, Draft.lines, imitatingDraft, Assembly.Line.render, Unbroken]⟩
  obtain ⟨text, assembled, read, -⟩ := text_determines_parts false resolved unbroken
  exact ⟨resolved, unbroken, text, assembled, read⟩

end EventScript
