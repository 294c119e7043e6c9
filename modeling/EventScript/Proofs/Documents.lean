import EventScript.Proofs.Judgement

/-!
# Scripts of one document

The scripts of a document are compiled as if each stood alone. A name that occurs twice is found
before any script is looked at, and it is the first script with a name from before it that is
reported. Where the names are distinct, the document gives what its scripts give alone, in their
order, or the fault of the first that fails. The law says nothing of what a script alone gives.
-/
namespace EventScript

/-- The entries that stand at the given places of a list, in the order of the places. -/
def rearrange {α : Type} (order : List Nat) (entries : List α) : List α :=
  order.filterMap fun place => entries[place]?

section Lists

variable {α β ε : Type}

/-- A list may be rearranged before or after its entries are changed. -/
theorem rearrange_map (order : List Nat) (entries : List α) (change : α → β) :
    rearrange order (entries.map change) = (rearrange order entries).map change := by
  rw [rearrange, rearrange, List.map_filterMap]
  simp only [List.getElem?_map]

/-- All places in their order give the list itself. -/
theorem rearrange_range (entries : List α) :
    rearrange (List.range entries.length) entries = entries := by
  induction entries with
  | nil => rfl
  | cons first rest inductionHypothesis =>
    rw [rearrange, List.length_cons, List.range_succ_eq_map, List.filterMap_cons,
      List.filterMap_map]
    exact congrArg (first :: ·) inductionHypothesis

/-- All places in any order give all entries. -/
theorem rearrange_perm {order : List Nat} {entries : List α}
    (all : order.Perm (List.range entries.length)) : (rearrange order entries).Perm entries := by
  have moved := all.filterMap fun place => entries[place]?
  rwa [show (List.range entries.length).filterMap (fun place => entries[place]?) = entries from
    rearrange_range entries] at moved

/-- A list is mapped to the results of its entries when all of them succeed. -/
theorem mapM_eq_ok_iff {give : α → Except ε β} {inputs : List α} {outputs : List β} :
    inputs.mapM give = .ok outputs ↔ inputs.map give = outputs.map .ok := by
  induction inputs generalizing outputs with
  | nil => cases outputs <;> simp [pure, Except.pure]
  | cons first rest inductionHypothesis =>
    rw [List.mapM_cons, bind_eq_ok_iff]
    constructor
    · rintro ⟨value, given, mapped⟩
      obtain ⟨values, others, mapped⟩ := bind_eq_ok_iff.mp mapped
      obtain rfl := Except.ok.inj mapped
      rw [List.map_cons, List.map_cons, given, inductionHypothesis.mp others]
    · intro mapped
      obtain ⟨value, values, rfl, given, others⟩ := List.map_eq_cons_iff.mp mapped.symm
      refine ⟨value, given.symm, ?_⟩
      rw [inductionHypothesis.mpr others.symm]
      rfl

/-- All entries succeed exactly when their list does. -/
theorem exists_mapM_eq_ok_iff {give : α → Except ε β} {inputs : List α} :
    (∃ outputs, inputs.mapM give = .ok outputs) ↔
      ∀ input ∈ inputs, ∃ output, give input = .ok output := by
  simp only [mapM_eq_ok_iff]
  induction inputs with
  | nil => simp
  | cons first rest inductionHypothesis =>
    rw [List.forall_mem_cons, ← inductionHypothesis]
    constructor
    · rintro ⟨outputs, mapped⟩
      obtain ⟨value, values, rfl, given, others⟩ := List.map_eq_cons_iff.mp mapped.symm
      exact ⟨⟨value, given.symm⟩, values, others.symm⟩
    · rintro ⟨⟨value, given⟩, values, others⟩
      exact ⟨value :: values, by rw [List.map_cons, List.map_cons, given, others]⟩

/-- A list that fails has the fault of the first entry that fails. -/
theorem exists_first_of_mapM_eq_error {give : α → Except ε β} {inputs : List α} {fault : ε}
    (failed : inputs.mapM give = .error fault) :
    ∃ before first after, inputs = before ++ first :: after ∧
      (∀ earlier ∈ before, ∃ output, give earlier = .ok output) ∧ give first = .error fault := by
  induction inputs with
  | nil => cases failed
  | cons head rest inductionHypothesis =>
    rw [List.mapM_cons] at failed
    cases given : give head with
    | error other =>
      rw [given] at failed
      obtain rfl := Except.error.inj failed
      exact ⟨[], head, rest, rfl, by simp, given⟩
    | ok value =>
      rw [given] at failed
      cases others : rest.mapM give with
      | ok values => simp [others, bind, Except.bind, pure, Except.pure] at failed
      | error other =>
        obtain rfl : other = fault := by simpa [others, bind, Except.bind] using failed
        obtain ⟨before, first, after, rfl, earlier, fails⟩ := inductionHypothesis others
        exact ⟨head :: before, first, after, rfl,
          List.forall_mem_cons.mpr ⟨⟨value, given⟩, earlier⟩, fails⟩

end Lists

/-- Names are distinct among themselves and new when none of them is repeated. -/
theorem firstRepeated?_eq_none_iff {seen names : List String} :
    firstRepeated? seen names = none ↔ names.Nodup ∧ ∀ name ∈ names, name ∉ seen := by
  induction names generalizing seen with
  | nil => simp [firstRepeated?]
  | cons name rest inductionHypothesis =>
    rw [firstRepeated?, List.nodup_cons, List.forall_mem_cons]
    by_cases known : name ∈ seen
    · simp [known]
    · rw [if_neg known, inductionHypothesis]
      simp only [List.mem_cons, not_or]
      constructor
      · rintro ⟨distinct, fresh⟩
        exact ⟨⟨fun again => (fresh name again).1 rfl, distinct⟩, known,
          fun other member => (fresh other member).2⟩
      · rintro ⟨⟨once, distinct⟩, -, fresh⟩
        exact ⟨distinct, fun other member => ⟨fun same => once (same ▸ member), fresh other member⟩⟩

/-- The name that is reported stands behind distinct new names, and is one of these or not new. -/
theorem exists_first_of_firstRepeated? {seen names : List String} {name : String}
    (found : firstRepeated? seen names = some name) :
    ∃ before after, names = before ++ name :: after ∧ before.Nodup ∧
      (∀ earlier ∈ before, earlier ∉ seen) ∧ (name ∈ before ∨ name ∈ seen) := by
  induction names generalizing seen with
  | nil => cases found
  | cons head rest inductionHypothesis =>
    rw [firstRepeated?] at found
    by_cases known : head ∈ seen
    · obtain rfl : head = name := by simpa [known] using found
      exact ⟨[], rest, rfl, List.nodup_nil, by simp, .inr known⟩
    · rw [if_neg known] at found
      obtain ⟨before, after, rfl, distinct, fresh, again⟩ := inductionHypothesis found
      refine ⟨head :: before, after, rfl, ?_, ?_, ?_⟩
      · exact List.nodup_cons.mpr
          ⟨fun member => fresh head member List.mem_cons_self, distinct⟩
      · exact List.forall_mem_cons.mpr
          ⟨known, fun earlier member old => fresh earlier member (List.mem_cons_of_mem _ old)⟩
      · rcases again with again | again
        · exact .inl (List.mem_cons_of_mem _ again)
        · rcases List.mem_cons.mp again with same | old
          · exact .inl (same ▸ List.mem_cons_self)
          · exact .inr old

namespace Document

/-- Whether the scripts of a document have distinct names. -/
def NamesDistinct (document : Document) : Prop := (document.scripts.map Script.name).Nodup

/-- The document with its scripts in another order. -/
def rearranged (document : Document) (order : List Nat) : Document :=
  { document with scripts := rearrange order document.scripts }

/-- Names are accepted when they are distinct. -/
theorem checkNames_eq_ok_iff (document : Document) :
    document.checkNames = .ok () ↔ document.NamesDistinct := by
  have distinct : firstRepeated? [] (document.scripts.map Script.name) = none ↔
      document.NamesDistinct := by
    rw [firstRepeated?_eq_none_iff, NamesDistinct]
    simp
  rw [← distinct, checkNames]
  split
  next found => simp [found]
  next none => simp [none]

/-- A document compiles to given texts when its names are distinct and its scripts compile to those
texts alone. -/
theorem compile_eq_ok_iff {options : Options} {document : Document} {outputs : List Compiled} :
    document.compile options = .ok outputs ↔ document.NamesDistinct ∧
      document.scripts.map (Script.compile options document.setting) = outputs.map .ok := by
  rw [compile, bind_eq_ok_iff, ← checkNames_eq_ok_iff, ← mapM_eq_ok_iff]
  constructor
  · rintro ⟨_, checked, mapped⟩
    exact ⟨checked, mapped⟩
  · rintro ⟨checked, mapped⟩
    exact ⟨(), checked, mapped⟩

/-- Of scripts whose names are not distinct, the first whose name occurs before is reported, even
where an earlier script would not compile. -/
theorem exists_repeated {document : Document} (options : Options)
    (repeated : ¬document.NamesDistinct) :
    ∃ (before : List Script) (script : Script) (after : List Script),
      document.scripts = before ++ script :: after ∧
      (before.map Script.name).Nodup ∧ script.name ∈ before.map Script.name ∧
      document.compile options = .error (.duplicateScript script.name) := by
  cases found : firstRepeated? [] (document.scripts.map Script.name) with
  | none =>
    have checked : document.checkNames = .ok () := by rw [checkNames, found]
    exact absurd ((checkNames_eq_ok_iff document).mp checked) repeated
  | some name =>
    obtain ⟨earlier, later, split, distinct, -, again⟩ := exists_first_of_firstRepeated? found
    obtain ⟨before, rest, listed, rfl, others⟩ := List.map_eq_append_iff.mp split
    obtain ⟨script, after, rfl, rfl, -⟩ := List.map_eq_cons_iff.mp others
    refine ⟨before, script, after, listed, distinct, by simpa using again, ?_⟩
    rw [compile, checkNames, found]
    rfl

/-- Where the names are distinct but not all scripts compile, the fault is that of the first script
that does not compile alone. -/
theorem exists_first_failure {document : Document} {options : Options}
    (distinct : document.NamesDistinct)
    (fails : ¬∀ script ∈ document.scripts,
      ∃ output, script.compile options document.setting = .ok output) :
    ∃ (before : List Script) (script : Script) (after : List Script) (fault : Fault),
      document.scripts = before ++ script :: after ∧
      (∀ earlier ∈ before, ∃ output, earlier.compile options document.setting = .ok output) ∧
      script.compile options document.setting = .error fault ∧
      document.compile options = .error fault := by
  rw [← exists_mapM_eq_ok_iff] at fails
  have compiled : document.compile options =
      document.scripts.mapM (Script.compile options document.setting) := by
    rw [compile, document.checkNames_eq_ok_iff.mpr distinct]
    rfl
  cases mapped : document.scripts.mapM (Script.compile options document.setting) with
  | ok outputs => exact absurd ⟨outputs, mapped⟩ fails
  | error fault =>
    obtain ⟨before, script, after, listed, earlier, failed⟩ := exists_first_of_mapM_eq_error mapped
    exact ⟨before, script, after, fault, listed, earlier, failed, compiled.trans mapped⟩

/-- A document compiles exactly when its names are distinct and every script compiles alone. -/
theorem exists_compile_eq_ok_iff {options : Options} {document : Document} :
    (∃ outputs, document.compile options = .ok outputs) ↔ document.NamesDistinct ∧
      ∀ script ∈ document.scripts,
        ∃ output, script.compile options document.setting = .ok output := by
  rw [← exists_mapM_eq_ok_iff]
  simp only [mapM_eq_ok_iff, compile_eq_ok_iff, exists_and_left]

variable {document : Document} {order : List Nat}

/-- Scripts have distinct names in any order. -/
theorem namesDistinct_rearranged (all : order.Perm (List.range document.scripts.length)) :
    (document.rearranged order).NamesDistinct ↔ document.NamesDistinct :=
  ((rearrange_perm all).map Script.name).nodup_iff

/-- In another order the scripts of a document compile or fail to compile as before. -/
theorem exists_compile_rearranged_iff (options : Options)
    (all : order.Perm (List.range document.scripts.length)) :
    (∃ outputs, (document.rearranged order).compile options = .ok outputs) ↔
      ∃ outputs, document.compile options = .ok outputs := by
  have same (script : Script) : script ∈ rearrange order document.scripts ↔
      script ∈ document.scripts := (rearrange_perm all).mem_iff
  rw [exists_compile_eq_ok_iff, exists_compile_eq_ok_iff, namesDistinct_rearranged all]
  simp only [rearranged, same]

/-- In another order the scripts of a document compile to their texts in that order. -/
theorem compile_rearranged {options : Options} {outputs : List Compiled}
    (all : order.Perm (List.range document.scripts.length))
    (compiled : document.compile options = .ok outputs) :
    (document.rearranged order).compile options = .ok (rearrange order outputs) := by
  obtain ⟨distinct, mapped⟩ := compile_eq_ok_iff.mp compiled
  refine compile_eq_ok_iff.mpr ⟨(namesDistinct_rearranged all).mpr distinct, ?_⟩
  rw [rearranged, ← rearrange_map, mapped, rearrange_map]

end Document

/-- A document whose names are not distinct is refused for the first script whose name occurs before
it. Any other document compiles exactly when each of its scripts compiles alone, to what they give
alone and in their order, and otherwise it fails with the fault of the first script that fails
alone. In any other order of its scripts a document compiles or not as before, to the same texts in
that order. -/
theorem scripts_compile_alone (options : Options) (document : Document) :
    (¬document.NamesDistinct → ∃ (before : List Script) (script : Script) (after : List Script),
      document.scripts = before ++ script :: after ∧ (before.map Script.name).Nodup ∧
        script.name ∈ before.map Script.name ∧
        document.compile options = .error (.duplicateScript script.name)) ∧
    (document.NamesDistinct →
      ((∃ outputs, document.compile options = .ok outputs) ↔ ∀ script ∈ document.scripts,
        ∃ output, script.compile options document.setting = .ok output) ∧
      (∀ outputs, document.compile options = .ok outputs ↔
        document.scripts.map (Script.compile options document.setting) = outputs.map .ok) ∧
      ((¬∀ script ∈ document.scripts,
          ∃ output, script.compile options document.setting = .ok output) →
        ∃ (before : List Script) (script : Script) (after : List Script) (fault : Fault),
          document.scripts = before ++ script :: after ∧
          (∀ earlier ∈ before,
            ∃ output, earlier.compile options document.setting = .ok output) ∧
          script.compile options document.setting = .error fault ∧
          document.compile options = .error fault)) ∧
    ∀ order : List Nat, order.Perm (List.range document.scripts.length) →
      ((∃ outputs, (document.rearranged order).compile options = .ok outputs) ↔
        ∃ outputs, document.compile options = .ok outputs) ∧
      ∀ outputs, document.compile options = .ok outputs →
        (document.rearranged order).compile options = .ok (rearrange order outputs) := by
  refine ⟨Document.exists_repeated options, fun distinct => ⟨?_, fun outputs => ?_, ?_⟩, ?_⟩
  · rw [Document.exists_compile_eq_ok_iff, and_iff_right distinct]
  · rw [Document.compile_eq_ok_iff, and_iff_right distinct]
  · exact Document.exists_first_failure distinct
  · exact fun order all => ⟨Document.exists_compile_rearranged_iff options all,
      fun outputs => Document.compile_rearranged all⟩

/-- A script that asks one question. -/
def questionScript (name : String) : Script :=
  { name := name,
    events := [{ command := "EVENT_IF_TRUE", args := [("variable", .text "0")] }] }

/-- Two scripts that ask the same question. -/
def questionsDocument : Document :=
  { setting := {}, scripts := [questionScript "A", questionScript "B"] }

/-- Two scripts of one name, the first of which would not compile. -/
def homonymsDocument : Document :=
  { setting := {}, scripts := [{ name := "A", events := [{ command := "EVENT_NONE" }] },
      questionScript "A"] }

/-- Two scripts with the same labels compile in either order to the same texts, and of two scripts
with one name the second is reported before the fault of the first. -/
theorem questions_compile_alone :
    (∃ first second, questionsDocument.compile {} = .ok [first, second] ∧
      (questionsDocument.rearranged [1, 0]).compile {} = .ok [second, first]) ∧
    homonymsDocument.compile {} = .error (.duplicateScript "A") := by
  obtain ⟨draft, succeeded, resolved⟩ : ∃ draft,
      lowerEvents {} (questionScript "").events {} = .ok () draft ∧
        draft.ledger.unresolved = [] := ⟨_, by cbv, by cbv⟩
  have alone (name : String) : ∃ output,
      (questionScript name).compile {} questionsDocument.setting = .ok output := by
    change lowerEvents {} (questionScript name).events {} = .ok () draft at succeeded
    simp [Script.compile, questionsDocument, succeeded, Draft.assemble, resolved, Except.map]
  obtain ⟨first, firstAlone⟩ := alone "A"
  obtain ⟨second, secondAlone⟩ := alone "B"
  obtain ⟨-, apart, reorder⟩ := scripts_compile_alone {} questionsDocument
  have distinct : questionsDocument.NamesDistinct := by
    simp [Document.NamesDistinct, questionsDocument, questionScript]
  have compiled : questionsDocument.compile {} = .ok [first, second] := by
    refine ((apart distinct).2.1 _).mpr ?_
    simp only [questionsDocument, List.map_cons, List.map_nil] at firstAlone secondAlone ⊢
    rw [firstAlone, secondAlone]
  refine ⟨⟨first, second, compiled, (reorder [1, 0] (by decide)).2 _ compiled⟩, ?_⟩
  have homonyms : ¬homonymsDocument.NamesDistinct := by
    simp [Document.NamesDistinct, homonymsDocument, questionScript]
  obtain ⟨before, script, after, listed, -, -, refused⟩ :=
    (scripts_compile_alone {} homonymsDocument).1 homonyms
  have member : script.name ∈ homonymsDocument.scripts.map Script.name := by
    rw [listed]
    simp
  have name : script.name = "A" := by
    simpa [homonymsDocument, questionScript] using member
  rw [refused, name]

end EventScript
