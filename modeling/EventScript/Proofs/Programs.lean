import EventScript.Proofs.Arguments
import EventScript.Proofs.Documents
import EventScript.Proofs.Storage

/-!
# What a run of the program comes to

A run reads and compiles before it makes the output directory and writes into it. Whatever is
refused before that leaves the disk as it was, and a run ends well when it was asked for help or
when everything that it set out to do was done. The laws hold for every format of configurations and
documents. They are about a disk in memory, a tree of directories and files without links, and they
take for granted that printing never fails and that arguments are text. They say nothing of what a
run prints, and nothing of the disk where the output directory could not be made.
-/
namespace EventScript.CommandLine

open Files (Disk)

/-- Whether a failure is one of making the output directory or of writing a file. -/
def Failure.IsOfOutput : Failure → Prop
  | outputDirectory _ _ | outputFile _ _ => True
  | configuration _ | document _ _ | compilation _ => False

/-- Whether something can be made of the text under a path. -/
def Loads {α : Type} (disk : Disk) (read : String → Except Fault α) (path : String) (value : α) :
    Prop :=
  ∃ text, disk.Holds path text ∧ read text = .ok value

/-- Whether options are those that a configuration gives, or the defaults where there is none. -/
def Configured (format : Format) (disk : Disk) (configuration : Option String)
    (options : Options) : Prop :=
  match configuration with
  | none => options = {}
  | some path => Loads disk format.readOptions path options

/-- A disk holds one text at most under a path, of which one thing is made. -/
theorem Loads.unique {α : Type} {disk : Disk} {read : String → Except Fault α} {path : String}
    {value other : α} (loads : Loads disk read path value) (again : Loads disk read path other) :
    value = other := by
  obtain ⟨text, holds, made⟩ := loads
  obtain ⟨words, otherHolds, otherMade⟩ := again
  obtain ⟨rfl, -⟩ := EStateM.Result.ok.inj (holds.symm.trans otherHolds)
  exact Except.ok.inj (made.symm.trans otherMade)

/-- A configuration gives one set of options at most. -/
theorem Configured.unique {format : Format} {disk : Disk} {configuration : Option String}
    {options other : Options}
    (configured : Configured format disk configuration options)
    (again : Configured format disk configuration other) : options = other := by
  cases configuration with
  | none => exact Eq.trans configured (Eq.symm again)
  | some path => exact Loads.unique configured again

/-- What a request needs before anything is written: its configuration, if it names one, and its
document are there and understood, and every script of the document compiles. -/
structure Prepared (format : Format) (disk : Disk) (request : Request) where
  options : Options
  document : Document
  scripts : List Compiled
  configured : Configured format disk request.configuration options
  read : Loads disk format.readDocument request.input document
  compiled : document.scripts.map (Script.compile options document.setting) = scripts.map .ok

/-- A document that is read has distinct names. -/
theorem Loads.namesDistinct {format : Format} {disk : Disk} {path : String} {document : Document}
    (loads : Loads disk format.readDocument path document) : document.NamesDistinct := by
  obtain ⟨text, -, read⟩ := loads
  obtain ⟨given, -, read⟩ := bind_eq_ok_iff.mp read
  obtain ⟨_, checked, same⟩ := bind_eq_ok_iff.mp read
  obtain rfl := Except.ok.inj same
  exact (Document.checkNames_eq_ok_iff _).mp checked

/-- The document of a request that is prepared compiles to its scripts. -/
theorem Prepared.compile_eq_ok {format : Format} {disk : Disk} {request : Request}
    (prepared : Prepared format disk request) :
    prepared.document.compile prepared.options = .ok prepared.scripts :=
  Document.compile_eq_ok_iff.mpr ⟨prepared.read.namesDistinct, prepared.compiled⟩

/-- The paths and texts of compiled scripts. -/
def outputs (request : Request) (scripts : List Compiled) : List (String × String) :=
  scripts.map fun script => (outputPath request script, script.text)

/-- What a request that is carried out in a session answers, and the disk that it leaves. -/
inductive Comes (format : Format) (request : Request) (session : Session) :
    Except Failure Unit → Disk → Prop where
  | refused {failure : Failure} (early : ¬failure.IsOfOutput)
      (unprepared : IsEmpty (Prepared format session.disk request)) :
    Comes format request session (.error failure) session.disk
  | unmade {cause : Files.Fault} {after : Session} (prepared : Prepared format session.disk request)
      (failed : Session.host.makeDirectories request.outputDirectory session =
        (.error cause, after)) :
    Comes format request session (.error (.outputDirectory request.outputDirectory cause))
      after.disk
  | unwritten {before later : List (String × String)} {path text : String} {made : Session}
      {middle after : Disk} {cause : Files.Fault} (prepared : Prepared format session.disk request)
      (done : Session.host.makeDirectories request.outputDirectory session = (.ok (), made))
      (split : outputs request prepared.scripts = before ++ (path, text) :: later)
      (stores : Disk.Stores before made.disk middle)
      (failed : Disk.writeText path text middle = .error cause after) :
    Comes format request session (.error (.outputFile path cause)) after
  | written {made : Session} {after : Disk} (prepared : Prepared format session.disk request)
      (done : Session.host.makeDirectories request.outputDirectory session = (.ok (), made))
      (stores : Disk.Stores (outputs request prepared.scripts) made.disk after) :
    Comes format request session (.ok ()) after

/-- Whether arguments ask for scripts to be compiled and written, and all of that is done. -/
def Succeeds (format : Format) (arguments : List String) (session : Session)
    (after : Disk) : Prop :=
  ∃ request, Accepts arguments request ∧
    ∃ (prepared : Prepared format session.disk request) (made : Session),
      Session.host.makeDirectories request.outputDirectory session = (.ok (), made) ∧
        Disk.Stores (outputs request prepared.scripts) made.disk after

section Running

variable {σ ε α β : Type} {first : ExceptT ε (StateM σ) α} {next : α → ExceptT ε (StateM σ) β}
  {state after : σ}

/-- An action that succeeds is followed by the next. -/
theorem run_then_of_ok {value : α} (done : first.run state = (.ok value, after)) :
    (first >>= next).run state = (next value).run after := by
  change (let result := first.run state; ExceptT.bindCont next result.1 result.2) = _
  rw [done]
  rfl

/-- An action that fails is the last. -/
theorem run_then_of_error {fault : ε} (failed : first.run state = (.error fault, after)) :
    (first >>= next).run state = (.error fault, after) := by
  change (let result := first.run state; ExceptT.bindCont next result.1 result.2) = _
  rw [failed]
  rfl

/-- An action that cannot fail is followed by the next. -/
theorem run_lift_then {action : StateM σ α} {value : α} (done : action state = (value, after)) :
    ((liftM action : ExceptT ε (StateM σ) α) >>= next).run state = (next value).run after := by
  refine run_then_of_ok ?_
  change (let result := action state; (Except.ok result.1, result.2)) = _
  rw [done]

end Running

variable {format : Format} {request : Request} {session : Session}

/-- Reading a text leaves the session, and gives the text that the disk holds. -/
theorem exists_readText (path : String) (session : Session) :
    ∃ answer, Session.host.readText path session = (answer, session) ∧
      ∀ text, answer = .ok text ↔ session.disk.Holds path text := by
  simp only [Session.host, Session.onDisk, Disk.Holds]
  cases answered : Disk.readText path session.disk with
  | ok text disk =>
    obtain ⟨rfl, -⟩ := Disk.readText_eq_ok_iff.mp answered
    exact ⟨.ok text, rfl, by simp⟩
  | error fault disk =>
    obtain rfl := Disk.eq_of_readText_eq_error answered
    exact ⟨.error fault, rfl, by simp⟩

/-- Loading leaves the session, and gives what is made of the text that the disk holds. -/
theorem exists_load {α : Type} (read : String → Except Fault α) (path : String)
    (session : Session) :
    ∃ answer, (load Session.host read path).run session = (answer, session) ∧
      ∀ value, answer = .ok value ↔ Loads session.disk read path value := by
  obtain ⟨found, answered, holds⟩ := exists_readText path session
  rw [load, run_lift_then answered]
  cases found with
  | ok text =>
    refine ⟨read text, rfl, fun value => ⟨fun given => ⟨text, (holds text).mp rfl, given⟩, ?_⟩⟩
    rintro ⟨other, otherHolds, given⟩
    obtain rfl := Except.ok.inj ((holds other).mpr otherHolds)
    exact given
  | error fault =>
    refine ⟨.error (.unreadable path fault), rfl, fun value => ⟨fun given => ?_, ?_⟩⟩
    · cases given
    · rintro ⟨other, otherHolds, -⟩
      cases (holds other).mpr otherHolds

/-- Finding the options leaves the session, and gives the defaults where none are asked for. -/
theorem exists_options (format : Format) (request : Request) (session : Session) :
    ∃ answer, (options Session.host format request).run session = (answer, session) ∧
      ∀ value, answer = .ok value ↔ Configured format session.disk request.configuration value := by
  cases named : request.configuration with
  | none =>
    refine ⟨.ok {}, by rw [options, named]; rfl, fun value => ?_⟩
    rw [Except.ok.injEq, eq_comm]
    rfl
  | some path =>
    obtain ⟨answer, answered, loads⟩ := exists_load format.readOptions path session
    exact ⟨answer, by rw [options, named]; exact answered, loads⟩

/-- An action is blamed for its faults. -/
theorem run_blame {ε α : Type} {action : StateM Session (Except ε α)} {answer : Except ε α}
    {after : Session} (failure : ε → Failure) (done : action session = (answer, after)) :
    (blame failure action).run session = (answer.mapError failure, after) := by
  change (let result := action session; (result.1.mapError failure, result.2)) = _
  rw [done]

/-- Compiling leaves the session. It succeeds with the scripts of a request that is prepared, and
fails where none can be. -/
theorem exists_compile (format : Format) (request : Request) (session : Session) :
    (∃ prepared : Prepared format session.disk request,
      (compile Session.host format request).run session =
        (.ok (prepared.scripts, prepared.document.setting.scene.id), session)) ∨
    IsEmpty (Prepared format session.disk request) ∧ ∃ failure : Failure, ¬failure.IsOfOutput ∧
      (compile Session.host format request).run session = (.error failure, session) := by
  -- At a stage that fails nothing can be prepared, as what is prepared would succeed there.
  obtain ⟨configured, answered, configures⟩ := exists_options format request session
  rw [compile]
  cases configured with
  | error fault =>
    refine .inr ⟨⟨fun prepared => ?_⟩, .configuration fault, id,
      run_then_of_error (run_blame _ answered)⟩
    cases (configures _).mpr prepared.configured
  | ok given =>
    rw [run_then_of_ok (run_blame _ answered)]
    obtain ⟨understood, answered, reads⟩ := exists_load format.readDocument request.input session
    cases understood with
    | error fault =>
      refine .inr ⟨⟨fun prepared => ?_⟩, .document request.input fault, id,
        run_then_of_error (run_blame _ answered)⟩
      cases (reads _).mpr prepared.read
    | ok document =>
      rw [run_then_of_ok (run_blame _ answered)]
      cases compiled : document.compile given with
      | error fault =>
        refine .inr ⟨⟨fun prepared => ?_⟩, .compilation fault, id, run_then_of_error rfl⟩
        obtain rfl := Except.ok.inj ((configures _).mpr prepared.configured)
        obtain rfl := Except.ok.inj ((reads _).mpr prepared.read)
        cases compiled.symm.trans prepared.compile_eq_ok
      | ok scripts =>
        exact .inl ⟨⟨given, document, scripts, (configures given).mp rfl,
          (reads document).mp rfl, (Document.compile_eq_ok_iff.mp compiled).2⟩, run_then_of_ok rfl⟩

/-- A report is printed where it is wanted, which leaves the disk. -/
theorem exists_report (request : Request) (text : String) (session : Session) :
    ∃ after, (do if request.verbose then Session.host.print text :
      ExceptT Failure (StateM Session) Unit).run session = (.ok (), after) ∧
        after.disk = session.disk := by
  cases request.verbose with
  | false => exact ⟨session, rfl, rfl⟩
  | true => exact ⟨{ session with printed := session.printed ++ text }, rfl, rfl⟩

/-- Writing a script stores its text under its path, and fails where that cannot be done. -/
theorem exists_writeScript (request : Request) (script : Compiled) (session : Session) :
    (∃ after, (writeScript Session.host request script).run session = (.ok (), after) ∧
      Disk.writeText (outputPath request script) script.text session.disk =
        .ok () after.disk) ∨
    ∃ cause after, (writeScript Session.host request script).run session =
        (.error (.outputFile (outputPath request script) cause), after) ∧
      Disk.writeText (outputPath request script) script.text session.disk =
        .error cause after.disk := by
  have host : Session.host.writeText (outputPath request script) script.text session =
      Session.onDisk (Disk.writeText (outputPath request script) script.text) session := rfl
  rw [writeScript]
  cases stored : Disk.writeText (outputPath request script) script.text session.disk with
  | ok _ disk =>
    rw [Session.onDisk, stored] at host
    rw [run_then_of_ok (run_blame _ host)]
    obtain ⟨after, printed, same⟩ := exists_report request _ { session with disk := disk }
    exact .inl ⟨after, printed, by rw [same]⟩
  | error cause disk =>
    rw [Session.onDisk, stored] at host
    exact .inr ⟨cause, { session with disk := disk }, run_then_of_error (run_blame _ host), rfl⟩

/-- Writing scripts stores their texts in order, up to the first that cannot be stored. -/
theorem exists_writeScripts (request : Request) (scripts : List Compiled) (session : Session) :
    (∃ after, (writeScripts Session.host request scripts).run session = (.ok (), after) ∧
      Disk.Stores (outputs request scripts) session.disk after.disk) ∨
    ∃ before path text later middle cause after,
      outputs request scripts = before ++ (path, text) :: later ∧
      Disk.Stores before session.disk middle ∧
      Disk.writeText path text middle = .error cause after.disk ∧
      (writeScripts Session.host request scripts).run session =
        (.error (.outputFile path cause), after) := by
  induction scripts generalizing session with
  | nil => exact .inl ⟨session, rfl, .nil session.disk⟩
  | cons script rest inductionHypothesis =>
    rw [writeScripts, outputs, List.map_cons]
    obtain ⟨next, wrote, stored⟩ | ⟨cause, after, wrote, failed⟩ :=
      exists_writeScript request script session
    · rw [run_then_of_ok wrote]
      obtain ⟨after, written, stores⟩ |
          ⟨before, path, text, later, middle, cause, after, split, stores, failed, written⟩ :=
        inductionHypothesis next
      · exact .inl ⟨after, written, .cons stored stores⟩
      · exact .inr ⟨_ :: before, path, text, later, middle, cause, after,
          congrArg (_ :: ·) split, .cons stored stores, failed, written⟩
    · exact .inr ⟨[], _, _, _, session.disk, cause, after, rfl, .nil session.disk, failed,
        run_then_of_error wrote⟩

/-- All that can become of a request. -/
theorem comes_perform (format : Format) (request : Request) (session : Session) :
    ∃ answer after, (perform Session.host format request).run session = (answer, after) ∧
      Comes format request session answer after.disk := by
  rw [perform]
  obtain ⟨prepared, compiled⟩ | ⟨unprepared, failure, early, failed⟩ :=
    exists_compile format request session
  · rw [run_then_of_ok compiled]
    dsimp only
    cases answered : Session.host.makeDirectories request.outputDirectory session with
    | mk answer made =>
      cases answer with
      | error cause =>
        exact ⟨_, made, run_then_of_error (run_blame _ answered), .unmade prepared answered⟩
      | ok _ =>
        rw [run_then_of_ok (run_blame _ answered)]
        obtain ⟨after, written, stores⟩ |
            ⟨before, path, text, later, middle, cause, after, split, stores, failed, written⟩ :=
          exists_writeScripts request prepared.scripts made
        · rw [run_then_of_ok written]
          obtain ⟨final, printed, same⟩ := exists_report request _ after
          exact ⟨_, final, printed, .written prepared answered (same ▸ stores)⟩
        · exact ⟨_, after, run_then_of_error written,
            .unwritten prepared answered split stores failed⟩
  · exact ⟨_, session, run_then_of_error failed, .refused early unprepared⟩

/-- There is one way at most in which a request can be prepared. -/
theorem Prepared.unique {disk : Disk} (prepared other : Prepared format disk request) :
    prepared.scripts = other.scripts := by
  have options : prepared.options = other.options :=
    prepared.configured.unique other.configured
  have document : prepared.document = other.document := prepared.read.unique other.read
  have compiled := prepared.compile_eq_ok
  rw [options, document] at compiled
  exact Except.ok.inj (compiled.symm.trans other.compile_eq_ok)

/-- A request is carried out when it is prepared, its directory made and its files stored. -/
theorem Comes.eq_ok {answer : Except Failure Unit} {after final : Disk} {made : Session}
    (comes : Comes format request session answer after)
    (prepared : Prepared format session.disk request)
    (done : Session.host.makeDirectories request.outputDirectory session = (.ok (), made))
    (stores : Disk.Stores (outputs request prepared.scripts) made.disk final) :
    answer = .ok () := by
  cases comes with
  | refused early unprepared => exact unprepared.elim prepared
  | unmade other failed => cases done.symm.trans failed
  | @unwritten _ _ _ _ again _ _ _ other doneAgain split first failed =>
    obtain rfl : made = again := congrArg Prod.snd (done.symm.trans doneAgain)
    rw [prepared.unique other, split] at stores
    -- The text that could not be stored is met again behind the same texts, and stored.
    obtain ⟨next, stored, -⟩ := stores.exists_writeText first
    cases failed.symm.trans stored
  | written other _ _ => rfl

/-- Where a request cannot be prepared the disk stays. -/
theorem Comes.eq_disk {answer : Except Failure Unit} {after : Disk}
    (comes : Comes format request session answer after)
    (unprepared : IsEmpty (Prepared format session.disk request)) : after = session.disk := by
  cases comes with
  | refused _ _ => rfl
  | unmade prepared _ => exact unprepared.elim prepared
  | unwritten prepared _ _ _ _ => exact unprepared.elim prepared
  | written prepared _ _ => exact unprepared.elim prepared

/-- A request that can be prepared fails by its output if at all. -/
theorem Comes.isOfOutput {failure : Failure} {after : Disk}
    (comes : Comes format request session (.error failure) after)
    (prepared : Nonempty (Prepared format session.disk request)) : failure.IsOfOutput := by
  cases comes with
  | refused _ unprepared => exact (not_isEmpty_iff.mpr prepared unprepared).elim
  | unmade _ _ => trivial
  | unwritten _ _ _ _ _ => trivial

/-- Whether an action complains about nothing. -/
def Uncomplaining {α : Type} (action : StateM Session α) : Prop :=
  ∀ session, (action session).2.complained = session.complained

section Complaints

variable {α β ε : Type}

/-- Actions one after the other complain about nothing when each of them does not. -/
theorem Uncomplaining.bind {first : StateM Session α} {next : α → StateM Session β}
    (before : Uncomplaining first) (behind : ∀ value, Uncomplaining (next value)) :
    Uncomplaining (first >>= next) := fun session =>
  (behind (first session).1 (first session).2).trans (before session)

/-- The same holds where the second is left out when the first fails. -/
theorem Uncomplaining.followed {first : ExceptT ε (StateM Session) α}
    {next : α → ExceptT ε (StateM Session) β} (before : Uncomplaining first.run)
    (behind : ∀ value, Uncomplaining (next value).run) : Uncomplaining (first >>= next).run := by
  change Uncomplaining (first.run >>= ExceptT.bindCont next)
  refine before.bind fun result => ?_
  cases result with
  | ok value => exact behind value
  | error fault => exact fun session => rfl

/-- Operations on the disk complain about nothing. -/
theorem uncomplaining_onDisk (operation : Disk.Operation α) :
    Uncomplaining (Session.onDisk operation) := by
  intro session
  rw [Session.onDisk]
  cases operation session.disk <;> rfl

/-- Making a directory complains about nothing. -/
theorem uncomplaining_ensure (path : String) : Uncomplaining (Session.host.ensure path) := by
  refine Uncomplaining.bind (uncomplaining_onDisk (Disk.makeDirectory path)) fun answer => ?_
  cases answer with
  | ok _ => exact fun session => rfl
  | error fault =>
    refine Uncomplaining.bind (fun session => rfl) fun present => ?_
    cases present <;> exact fun session => rfl

/-- Making a directory and those around it complains about nothing. -/
theorem uncomplaining_ensureWithin (path : String) (around : List String) :
    Uncomplaining (Session.host.ensureWithin path around) := by
  induction around generalizing path with
  | nil => exact uncomplaining_ensure path
  | cons nearest others inductionHypothesis =>
    refine Uncomplaining.bind (uncomplaining_ensure path) fun answer => ?_
    split
    · refine Uncomplaining.bind (inductionHypothesis nearest) fun answer => ?_
      cases answer with
      | ok _ => exact uncomplaining_ensure path
      | error fault => exact fun session => rfl
    · exact fun session => rfl

/-- Making the output directory complains about nothing. -/
theorem uncomplaining_makeDirectories (path : String) :
    Uncomplaining (Session.host.makeDirectories path) := by
  rw [Files.Store.makeDirectories]
  split
  · exact fun session => rfl
  · exact uncomplaining_ensureWithin path _

/-- A report complains about nothing. -/
theorem uncomplaining_report (request : Request) (text : String) :
    Uncomplaining (do if request.verbose then Session.host.print text :
      ExceptT Failure (StateM Session) Unit).run := by
  cases request.verbose <;> exact fun session => rfl

/-- Writing scripts complains about nothing. -/
theorem uncomplaining_writeScripts (request : Request) (scripts : List Compiled) :
    Uncomplaining (writeScripts Session.host request scripts).run := by
  induction scripts with
  | nil => exact fun session => rfl
  | cons script rest inductionHypothesis =>
    refine Uncomplaining.followed (Uncomplaining.followed ?_ fun _ => ?_) fun _ =>
      inductionHypothesis
    · exact uncomplaining_onDisk (Disk.writeText (outputPath request script) script.text)
    · exact uncomplaining_report request _

/-- A request is carried out without a complaint, which is left to the answer. -/
theorem uncomplaining_perform (format : Format) (request : Request) :
    Uncomplaining (perform Session.host format request).run := by
  refine Uncomplaining.followed (fun session => ?_) fun compiled => ?_
  · obtain ⟨prepared, compiled⟩ | ⟨-, failure, -, failed⟩ := exists_compile format request session
    · rw [compiled]
    · rw [failed]
  · exact Uncomplaining.followed (uncomplaining_makeDirectories request.outputDirectory) fun _ =>
      Uncomplaining.followed (uncomplaining_writeScripts request compiled.1) fun _ =>
        uncomplaining_report request _

end Complaints

section Exits

variable {arguments : List String} (program : String)

/-- The exit code for what became of a request, and the session with the complaint. -/
def exitOf (answer : Except Failure Unit) (session : Session) : UInt32 × Session :=
  match answer with
  | .ok () => (0, session)
  | .error failure =>
    (1, { session with complained := session.complained ++ (failure.message ++ "\n") })

/-- Accepted arguments are answered by what becomes of their request. -/
theorem run_of_accepts {answer : Except Failure Unit} {after : Session}
    (accepts : Accepts arguments request)
    (performed : (perform Session.host format request).run session = (answer, after)) :
    runWith Session.host format program arguments session = exitOf answer after := by
  have chosen := choose_eq_compile_iff.mpr accepts
  cases arguments with
  | nil => cases chosen
  | cons word rest =>
    have bound (next : Except Failure Unit → StateM Session UInt32) :
        ((perform Session.host format request).run >>= next) session = next answer after := by
      change (let result := (perform Session.host format request).run session
        next result.1 result.2) = _
      rw [performed]
    simp only [runWith, chosen]
    refine (bound _).trans ?_
    cases answer <;> rfl

/-- A call for help is answered with the usage. -/
theorem run_of_asksForHelp (asks : AsksForHelp arguments) (session : Session) :
    runWith Session.host format program arguments session =
      (0, { session with printed := session.printed ++ usage program }) := by
  have chosen := choose_eq_help_iff.mpr asks
  cases arguments with
  | nil => cases chosen
  | cons word rest =>
    simp only [runWith, chosen]
    rfl

/-- Arguments that are neither accepted nor ask for help leave the disk and end badly. -/
theorem exists_run_of_refused (silent : ¬AsksForHelp arguments)
    (refused : ∀ request, ¬Accepts arguments request) (session : Session) :
    ∃ after, runWith Session.host format program arguments session = (1, after) ∧
      after.disk = session.disk := by
  cases arguments with
  | nil => exact ⟨_, rfl, rfl⟩
  | cons word rest =>
    cases chosen : choose {} (word :: rest) with
    | help => exact absurd (choose_eq_help_iff.mp chosen) silent
    | compile request => exact absurd (choose_eq_compile_iff.mp chosen) (refused request)
    | refuse reason remind =>
      simp only [runWith, chosen]
      cases remind <;> exact ⟨_, rfl, rfl⟩

end Exits

/-- Arguments are accepted for one request at most, and not where they ask for help. -/
theorem Accepts.unique {arguments : List String} {other : Request}
    (accepts : Accepts arguments request) (again : Accepts arguments other) : request = other := by
  have chosen := choose_eq_compile_iff.mpr accepts
  rw [choose_eq_compile_iff.mpr again] at chosen
  exact (Choice.compile.inj chosen).symm

/-- Arguments that are accepted do not ask for help. -/
theorem Accepts.not_asksForHelp {arguments : List String}
    (accepts : Accepts arguments request) : ¬AsksForHelp arguments := by
  intro asks
  have chosen := choose_eq_compile_iff.mpr accepts
  rw [choose_eq_help_iff.mpr asks] at chosen
  cases chosen

variable {arguments : List String} (program : String)

/-- A run that ends well without a call for help has done all that was asked for. -/
theorem succeeds_of_run {after : Session} (silent : ¬AsksForHelp arguments)
    (ended : runWith Session.host format program arguments session = (0, after)) :
    Succeeds format arguments session after.disk := by
  by_cases accepted : ∃ request, Accepts arguments request
  · obtain ⟨request, accepts⟩ := accepted
    obtain ⟨answer, last, performed, comes⟩ := comes_perform format request session
    rw [run_of_accepts program accepts performed] at ended
    generalize left : last.disk = disk at comes
    cases comes with
    | written prepared done stores =>
      obtain rfl : last = after := congrArg Prod.snd ended
      exact ⟨request, accepts, prepared, _, done, left ▸ stores⟩
    | refused _ _ => cases congrArg Prod.fst ended
    | unmade _ _ => cases congrArg Prod.fst ended
    | unwritten _ _ _ _ _ => cases congrArg Prod.fst ended
  · obtain ⟨last, refused, -⟩ :=
      exists_run_of_refused program silent (not_exists.mp accepted) session
    rw [refused] at ended
    cases congrArg Prod.fst ended

/-- A run ends well exactly when help is asked for or all that is asked for can be done. -/
theorem run_eq_zero_iff : (runWith Session.host format program arguments session).1 = 0 ↔
    AsksForHelp arguments ∨ ∃ final, Succeeds format arguments session final := by
  constructor
  · intro code
    by_cases asks : AsksForHelp arguments
    · exact .inl asks
    · exact .inr ⟨_, succeeds_of_run program asks (Prod.ext code rfl)⟩
  · rintro (asks | ⟨final, request, accepts, prepared, made, done, stores⟩)
    · rw [run_of_asksForHelp program asks]
    · obtain ⟨answer, last, performed, comes⟩ := comes_perform format request session
      obtain rfl := comes.eq_ok prepared done stores
      rw [run_of_accepts program accepts performed]
      rfl

/-- Where no accepted request can be prepared the disk stays. -/
theorem disk_run_of_isEmpty
    (none : ∀ request, Accepts arguments request → IsEmpty (Prepared format session.disk request)) :
    (runWith Session.host format program arguments session).2.disk = session.disk := by
  by_cases accepted : ∃ request, Accepts arguments request
  · obtain ⟨request, accepts⟩ := accepted
    obtain ⟨answer, last, performed, comes⟩ := comes_perform format request session
    have same := comes.eq_disk (none request accepts)
    rw [run_of_accepts program accepts performed]
    cases answer <;> exact same
  · by_cases asks : AsksForHelp arguments
    · rw [run_of_asksForHelp program asks]
    · obtain ⟨after, ended, same⟩ :=
        exists_run_of_refused program asks (not_exists.mp accepted) session
      rw [ended, same]

/-- A request that can be prepared is carried out, or there is a complaint about its output. -/
theorem run_of_nonempty (accepts : Accepts arguments request)
    (prepared : Nonempty (Prepared format session.disk request)) :
    (runWith Session.host format program arguments session).1 = 0 ∨ ∃ failure : Failure,
      failure.IsOfOutput ∧ (runWith Session.host format program arguments session).2.complained =
        session.complained ++ (failure.message ++ "\n") := by
  obtain ⟨answer, last, performed, comes⟩ := comes_perform format request session
  have kept := uncomplaining_perform format request session
  rw [show (perform Session.host format request).run session = _ from performed] at kept
  rw [run_of_accepts program accepts performed]
  cases answer with
  | ok _ => exact .inl rfl
  | error failure => exact .inr ⟨failure, comes.isOfOutput prepared, congrArg (· ++ _) kept⟩

/-- Nothing is made or changed on the disk unless the arguments are accepted, the configuration and
the document are read and understood and every script compiles. Where all of this holds, a run that
does not end well complains of its output directory or of an output file. The exit code is 0 exactly
when help is asked for before there is anything to complain about, or when the arguments are
accepted, all is compiled, the output directory is made and every file is written, and then this is
what has become of the disk. All of it holds for every format of configurations and documents. -/
theorem writes_only_when_compiled (format : Format) (program : String) (arguments : List String)
    (session : Session) :
    ∃ code after, runWith Session.host format program arguments session = (code, after) ∧
      ((∀ request, Accepts arguments request → IsEmpty (Prepared format session.disk request)) →
        after.disk = session.disk) ∧
      (∀ request, Accepts arguments request → Nonempty (Prepared format session.disk request) →
        code = 0 ∨ ∃ failure : Failure, failure.IsOfOutput ∧
          after.complained = session.complained ++ (failure.message ++ "\n")) ∧
      (code = 0 ↔ AsksForHelp arguments ∨ ∃ final, Succeeds format arguments session final) ∧
      (code = 0 → ¬AsksForHelp arguments → Succeeds format arguments session after.disk) :=
  ⟨_, _, rfl, disk_run_of_isEmpty program, fun _ accepts => run_of_nonempty program accepts,
    run_eq_zero_iff program, fun zero silent => succeeds_of_run program silent (Prod.ext zero rfl)⟩

/-- A disk with nothing but a document. -/
def soleSession (text : String) : Session :=
  { disk := { root := .directory [("d.toml", .file (.text text))] } }

/-- The document is accepted as the only argument. -/
theorem sole_accepts : Accepts ["d.toml"] { input := "d.toml" } :=
  ⟨.input (by decide) rfl (.done _), by decide⟩

/-- A document of two scripts, the second of which has a command that is not known. -/
def faultyText : String := "scene=['']\nscripts=[['A'],['B',false,[['','X']]]]"

/-- Where the second script of a document in TOML fails, nothing is written of the first. -/
theorem faulty_unwritten : ∃ code after,
    run Session.host "gbvm-scriptc" ["d.toml"] (soleSession faultyText) = (code, after) ∧
      code ≠ 0 ∧ after.disk = (soleSession faultyText).disk := by
  have loads : Loads (soleSession faultyText).disk Format.toml.readDocument "d.toml"
      { setting := { scene := { id := "" } },
        scripts := [{ name := "A" }, { name := "B", events := [{ command := "X" }] }] } :=
    ⟨faultyText, rfl, by cbv⟩
  have none (request : Request) (again : Accepts ["d.toml"] request) :
      IsEmpty (Prepared .toml (soleSession faultyText).disk request) := by
    obtain rfl := sole_accepts.unique again
    refine ⟨fun prepared => ?_⟩
    have configured : prepared.options = {} := prepared.configured
    have compiled := prepared.compiled
    rw [← loads.unique prepared.read, configured] at compiled
    obtain ⟨first, others, -, -, rest⟩ := List.map_eq_cons_iff.mp compiled.symm
    obtain ⟨second, _, -, failed, -⟩ := List.map_eq_cons_iff.mp rest
    cases failed
  obtain ⟨code, after, ended, unwritten, -, exits, -⟩ :=
    writes_only_when_compiled .toml "gbvm-scriptc" ["d.toml"] (soleSession faultyText)
  refine ⟨code, after, ended, fun zero => ?_, unwritten none⟩
  obtain asks | ⟨final, request, again, prepared, -⟩ := exits.mp zero
  · exact sole_accepts.not_asksForHelp asks
  · exact (none request again).elim prepared

end EventScript.CommandLine
