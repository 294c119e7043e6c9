import EventScript.CommandLine

/-!
# What arguments ask for

Arguments are words: options, some of which take the next word as theirs, and at most one word that
names an input. Words that are read without a complaint make up a request. A call for help counts
where all words before it are read in this way, whatever comes after it, and it is no call where an
option takes it as its own. Everything else is refused.
-/
namespace EventScript.CommandLine

/-- Words that turn one request into another, read from left to right. Of an option that comes
twice the later one counts. A word that names an input does not look like an option and comes where
no input is named yet; the empty word names none. -/
inductive Reads : Request → List String → Request → Prop where
  | done (request : Request) : Reads request [] request
  | output {request final : Request} {word directory : String} {rest : List String}
      (option : word = "-o" ∨ word = "--output")
      (later : Reads { request with outputDirectory := directory } rest final) :
    Reads request (word :: directory :: rest) final
  | configuration {request final : Request} {word path : String} {rest : List String}
      (option : word = "-c" ∨ word = "--config")
      (later : Reads { request with configuration := some path } rest final) :
    Reads request (word :: path :: rest) final
  | verbose {request final : Request} {word : String} {rest : List String}
      (option : word = "-v" ∨ word = "--verbose")
      (later : Reads { request with verbose := true } rest final) :
    Reads request (word :: rest) final
  | input {request final : Request} {word : String} {rest : List String}
      (plain : word.toList.head? ≠ some '-') (first : request.input = "")
      (later : Reads { request with input := word } rest final) :
    Reads request (word :: rest) final

/-- Arguments that are accepted: all of them are read, and an input is named. -/
def Accepts (arguments : List String) (request : Request) : Prop :=
  Reads {} arguments request ∧ request.input ≠ ""

/-- Arguments with a call for help, before which there is nothing to complain about. -/
def AsksForHelp (arguments : List String) : Prop :=
  ∃ before word after request, arguments = before ++ word :: after ∧ Reads {} before request ∧
    (word = "-h" ∨ word = "--help")

/-- A word that does not begin with a dash is none of the options. -/
theorem ne_option {word : String} (plain : word.toList.head? ≠ some '-') :
    ¬(word = "-o" ∨ word = "--output") ∧ ¬(word = "-c" ∨ word = "--config") ∧
      ¬(word = "-v" ∨ word = "--verbose") ∧ ¬(word = "-h" ∨ word = "--help") := by
  refine ⟨?_, ?_, ?_, ?_⟩
  all_goals
    rintro (rfl | rfl)
    · exact plain rfl
    · exact plain rfl

/-- A word that is no option with a word of its own is taken for one thing after the other. -/
theorem choose_cons {request : Request} {word : String} {rest : List String}
    (noOutput : ¬(word = "-o" ∨ word = "--output"))
    (noConfiguration : ¬(word = "-c" ∨ word = "--config")) :
    choose request (word :: rest) =
      if word = "-v" ∨ word = "--verbose" then choose { request with verbose := true } rest
      else if word = "-h" ∨ word = "--help" then .help
      else if word.toList.head? = some '-' then .refuse ("Unknown option '" ++ word ++ "'") true
      else if request.input = "" then choose { request with input := word } rest
      else .refuse "Multiple input files specified" false := by
  rw [choose.eq_def]
  dsimp only
  rw [if_neg noOutput, if_neg noConfiguration]

/-- What is read is chosen with the rest of the arguments still to come. -/
theorem Reads.choose_append {request final : Request} {words : List String}
    (reads : Reads request words final) (rest : List String) :
    choose request (words ++ rest) = choose final rest := by
  induction reads with
  | done request => rfl
  | output option _ inductionHypothesis =>
    rw [← inductionHypothesis]
    rcases option with rfl | rfl <;> rfl
  | configuration option _ inductionHypothesis =>
    rw [← inductionHypothesis]
    rcases option with rfl | rfl <;> rfl
  | verbose option _ inductionHypothesis =>
    rw [← inductionHypothesis, List.cons_append, choose_cons, if_pos option]
    · rcases option with rfl | rfl <;> decide
    · rcases option with rfl | rfl <;> decide
  | input plain first _ inductionHypothesis =>
    obtain ⟨noOutput, noConfiguration, noVerbose, noHelp⟩ := ne_option plain
    rw [← inductionHypothesis, List.cons_append, choose_cons noOutput noConfiguration,
      if_neg noVerbose, if_neg noHelp, if_neg plain, if_pos first]

/-- What a choice that is no refusal tells of the arguments. -/
def Choice.Explains (request : Request) (arguments : List String) : Choice → Prop
  | help => ∃ before word after final, arguments = before ++ word :: after ∧
      Reads request before final ∧ (word = "-h" ∨ word = "--help")
  | compile final => Reads request arguments final ∧ final.input ≠ ""
  | refuse _ _ => True

/-- What a choice tells of some arguments it tells of them behind further words that are read. -/
theorem Choice.Explains.behind {request next : Request} {rest : List String} {choice : Choice}
    (explains : choice.Explains next rest) (front : List String)
    (reads : ∀ words final, Reads next words final → Reads request (front ++ words) final) :
    choice.Explains request (front ++ rest) := by
  cases choice with
  | help =>
    obtain ⟨before, word, after, final, rfl, earlier, call⟩ := explains
    exact ⟨front ++ before, word, after, final, (List.append_assoc ..).symm,
      reads before final earlier, call⟩
  | compile final => exact ⟨reads rest final explains.1, explains.2⟩
  | refuse reason remind => trivial

/-- Every choice can be explained. -/
theorem explains_choose (request : Request) (arguments : List String) :
    (choose request arguments).Explains request arguments := by
  fun_induction choose request arguments with
  | case1 request missing => trivial
  | case2 request named => exact ⟨.done request, named⟩
  | case3 request word option => trivial
  | case4 request word option directory rest inductionHypothesis =>
    exact inductionHypothesis.behind [word, directory] fun _ _ => .output option
  | case5 request word _ option => trivial
  | case6 request word _ option path rest inductionHypothesis =>
    exact inductionHypothesis.behind [word, path] fun _ _ => .configuration option
  | case7 request word rest _ _ option inductionHypothesis =>
    exact inductionHypothesis.behind [word] fun _ _ => .verbose option
  | case8 request word rest _ _ _ call =>
    exact ⟨[], word, rest, request, rfl, .done request, call⟩
  | case9 request word rest _ _ _ _ dash => trivial
  | case10 request word rest _ _ _ _ plain first inductionHypothesis =>
    exact inductionHypothesis.behind [word] fun _ _ => .input plain first
  | case11 request word rest _ _ _ _ plain second => trivial

/-- The arguments that are chosen to be compiled are those that are accepted. -/
theorem choose_eq_compile_iff {arguments : List String} {request : Request} :
    choose {} arguments = .compile request ↔ Accepts arguments request := by
  constructor
  · intro chosen
    have explained := explains_choose {} arguments
    rwa [chosen] at explained
  · rintro ⟨reads, named⟩
    have read := reads.choose_append []
    rwa [List.append_nil, choose, if_neg named] at read

/-- The arguments that are answered with help are those that ask for it. -/
theorem choose_eq_help_iff {arguments : List String} :
    choose {} arguments = .help ↔ AsksForHelp arguments := by
  constructor
  · intro chosen
    have explained := explains_choose {} arguments
    rwa [chosen] at explained
  · rintro ⟨before, word, after, request, rfl, reads, call⟩
    rw [reads.choose_append, choose_cons, if_neg, if_pos call]
    all_goals rcases call with rfl | rfl <;> decide

end EventScript.CommandLine
