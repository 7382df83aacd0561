import RouteDocs.CommandLine.Run
import RouteDocs.Proofs.Document.Assembled
import RouteDocs.Proofs.Document.Information

/-!
What the command that documents an application does to files. Everything that can fail comes
before the first change, so that a command that fails has changed nothing; one that succeeds has
written one file.
-/

namespace RouteDocs.CommandLine

open Document (withInfo)

/-! Steps of the command. -/

section

variable {α β : Type}

def askFiles : Command Files := do
  pure (← getThe State).files

def ends (command : Command α) (state : State) : Except Stop α × State :=
  command.run.run state

theorem ends_bind (command : Command α) (next : α → Command β) (state : State) :
    ends (command >>= next) state =
      match ends command state with
      | (.ok a, state) => ends (next a) state
      | (.error stop, state) => (.error stop, state) := by
  unfold ends ExceptT.run StateT.run
  simp only [bind, ExceptT.bind, ExceptT.mk, StateT.bind, ExceptT.bindCont]
  cases command state with
  | mk result between => cases result <;> rfl

/-- Where these files are, the command comes to the result, and leaves them as they are. -/
def Gives (files : Files) (command : Command α) (result : Except Stop α) : Prop :=
  ∀ state, state.files = files →
    (ends command state).1 = result ∧ (ends command state).2.files = files

variable {files : Files}

theorem gives_pure (a : α) : Gives files (pure a) (.ok a) := fun _ same => ⟨rfl, same⟩

theorem gives_perform (run : Run) (step : Action α) :
    Gives files (perform run step) ((Action.after step run).1.mapError Stop.of) := by
  intro state same
  unfold perform Action.after
  cases step.run.run run with
  | mk result last => cases result <;> exact ⟨rfl, same⟩

theorem gives_liftFault (result : Except Fault α) :
    Gives files (liftFault result) (result.mapError fun fault => .failed (.fault fault)) := by
  intro state same
  cases result <;> exact ⟨rfl, same⟩

theorem Gives.bind {command : Command α} {next : α → Command β} {result : Except Stop α}
    {later : α → Except Stop β} (first : Gives files command result)
    (follows : ∀ a, Gives files (next a) (later a)) :
    Gives files (command >>= next) (result >>= later) := by
  intro state same
  obtain ⟨gives, kept⟩ := first state same
  rw [ends_bind]
  cases ran : ends command state with
  | mk outcome between =>
      rw [ran] at gives kept
      subst gives
      cases outcome with
      | error stop => exact ⟨rfl, kept⟩
      | ok a => exact follows a between kept

theorem Gives.say {next : Command β} {result : Except Stop β} (line : String)
    (follows : Gives files next result) : Gives files (say line >>= fun _ => next) result :=
  fun state same => follows { state with output := state.output ++ line ++ "\n" } same

theorem Gives.ask {next : Files → Command β} {result : Except Stop β}
    (follows : Gives files (next files) result) : Gives files (askFiles >>= next) result := by
  intro state same
  subst same
  exact follows state rfl

end

section

variable (providers : Providers) (app : App) (now : Moment) (options : Options)

/-- Everything up to the text of the document. -/
def prepare : Command String := do
  loadApplication app options.application
  let files ← askFiles
  let config ← perform {} (Config.load providers.reasons files options.config {})
  let config := override options config
  let document ← perform (Document.startRun providers.source config)
    (Document.generate app providers.source config now)
  say ("Documented " ++ toString document.paths.length ++ " paths.")
  liftFault (checkDirectory files options.output.parent)
  let text ← liftFault (document.print options.format)
  liftFault (checkFile files options.output)
  pure text

def deliver (text : String) : Command Unit := do
  writeFile options.output text
  say ("Document saved to " ++ options.output.toText)

theorem generate_eq :
    generate providers app now options = prepare providers app now options >>= deliver options := by
  unfold generate prepare deliver askFiles
  simp only [bind_assoc, pure_bind]

def notLoaded (path : String) (failure : Failure) : Stop :=
  .told ("Cannot load application '" ++ path ++ "': " ++ failure.message)

def prepared (files : Files) : Except Stop String := do
  (app.load options.application).mapError (notLoaded options.application)
  let config ←
    (Action.after (Config.load providers.reasons files options.config {}) {}).1.mapError Stop.of
  let d ← (Action.after (Document.generate app providers.source (override options config) now)
    (Document.startRun providers.source config)).1.mapError Stop.of
  (checkDirectory files options.output.parent).mapError fun fault => .failed (.fault fault)
  let text ← (d.print options.format).mapError fun fault => .failed (.fault fault)
  (checkFile files options.output).mapError fun fault => .failed (.fault fault)
  pure text

theorem gives_loadApplication (files : Files) (path : String) :
    Gives files (loadApplication app path) ((app.load path).mapError (notLoaded path)) := by
  intro state same
  unfold loadApplication
  rw [ends_bind]
  cases app.load path <;> exact ⟨rfl, same⟩

theorem gives_prepare (files : Files) :
    Gives files (prepare providers app now options) (prepared providers app now options files) := by
  refine (gives_loadApplication app files _).bind fun _ => ?_
  refine Gives.ask ?_
  refine (gives_perform _ _).bind fun config => ?_
  refine (gives_perform _ _).bind fun d => ?_
  refine Gives.say _ ?_
  refine (gives_liftFault _).bind fun _ => ?_
  refine (gives_liftFault _).bind fun text => ?_
  exact (gives_liftFault _).bind fun _ => gives_pure text

end

section

variable (providers : Providers) (app : App) (now : Moment) (options : Options)

/-- What an option says, unless it is missing or empty. -/
def chosen (option : Option String) (own : String) : String :=
  match option with
  | some text => if text = "" then own else text
  | none => own

/-- The document under the title and the version that the options give it. -/
def retitled (d : Document) : Document :=
  withInfo
    { d.info with
      title := chosen options.title d.info.title
      version := chosen options.version d.info.version } d

/-- Nothing fails on the way from the application to the text of its document. -/
structure Prepares (files : Files) (d : Document) (text : String) : Prop where
  loads : app.load options.application = .ok ()
  documents : ∃ config,
    (Action.after (Config.load providers.reasons files options.config {}) {}).1 = .ok config ∧
      (Action.after (Document.generate app providers.source config now)
        (Document.startRun providers.source config)).1 = .ok d
  directory : checkDirectory files options.output.parent = .ok ()
  prints : (retitled options d).print options.format = .ok text
  place : checkFile files options.output = .ok ()

variable {providers app now options}

theorem chosen_eq (option : Option String) (own : String) :
    (Failure.nonEmpty option).getD own = chosen option own := by
  cases option with
  | none => rfl
  | some text =>
      by_cases empty : text = ""
      · subst empty
        rfl
      · have given : Failure.nonEmpty (some text) = some text :=
          Option.filter_some_pos (by simpa using empty)
        rw [given, chosen, if_neg empty]
        rfl

theorem after_override (config : Config) (run : Run) :
    (Action.after (Document.generate app providers.source (override options config) now) run).1 =
      (Action.after (Document.generate app providers.source config now) run).1.map
        (retitled options) := by
  unfold override
  rw [chosen_eq, chosen_eq, Document.generate_withInfo, Action.after_bind]
  cases ran : Action.after (Document.generate app providers.source config now) run with
  | mk result last =>
      cases result with
      | error failure => rfl
      | ok d =>
          have info := Document.info_of_generate ran
          refine congrArg Except.ok ?_
          unfold retitled
          rw [info]
          rfl

theorem prepared_eq_ok {files : Files} {text : String} :
    prepared providers app now options files = .ok text ↔
      ∃ d, Prepares providers app now options files d text := by
  constructor
  · intro succeeds
    obtain ⟨_, loads, succeeds⟩ := Outcome.ok_of_bind succeeds
    obtain ⟨config, configures, succeeds⟩ := Outcome.ok_of_bind succeeds
    obtain ⟨titled, generates, succeeds⟩ := Outcome.ok_of_bind succeeds
    obtain ⟨_, directory, succeeds⟩ := Outcome.ok_of_bind succeeds
    obtain ⟨made, prints, succeeds⟩ := Outcome.ok_of_bind succeeds
    obtain ⟨_, place, succeeds⟩ := Outcome.ok_of_bind succeeds
    cases succeeds
    have generated := Outcome.ok_of_mapError generates
    rw [after_override] at generated
    obtain ⟨d, own, rfl⟩ := Outcome.ok_of_map generated
    exact ⟨d,
      { loads := Outcome.ok_of_mapError loads
        documents := ⟨config, Outcome.ok_of_mapError configures, own⟩
        directory := Outcome.ok_of_mapError directory
        prints := Outcome.ok_of_mapError prints
        place := Outcome.ok_of_mapError place }⟩
  · rintro ⟨d, loads, ⟨config, configures, generates⟩, directory, prints, place⟩
    have titled :
        (Action.after (Document.generate app providers.source (override options config) now)
          (Document.startRun providers.source config)).1 = .ok (retitled options d) := by
      rw [after_override, generates]
      rfl
    simp only [prepared, loads, configures, titled, directory, prints, place, Except.mapError, bind,
      Except.bind, pure, Except.pure]

/-- The command fails and changes nothing, or succeeds and writes the text that was prepared. -/
theorem runGenerate_cases (files : Files) :
    (∃ stop, prepared providers app now options files = .error stop ∧
        (runGenerate providers app files now options).exitCode = 1 ∧
        (runGenerate providers app files now options).files = files) ∨
      ∃ text, prepared providers app now options files = .ok text ∧
        (runGenerate providers app files now options).exitCode = 0 ∧
        (runGenerate providers app files now options).files = files.write options.output text := by
  obtain ⟨gives, kept⟩ := gives_prepare providers app now options files { files } rfl
  have ran : (generate providers app now options).run.run { files } =
      ends (prepare providers app now options >>= deliver options) { files } := by
    rw [← generate_eq]
    rfl
  unfold runGenerate
  rw [ran, ends_bind]
  cases prepares : ends (prepare providers app now options) { files } with
  | mk result state =>
      rw [prepares] at gives kept
      cases result with
      | error stop =>
          refine .inl ⟨stop, gives.symm, ?_⟩
          cases stop <;> exact ⟨rfl, kept⟩
      | ok text =>
          refine .inr ⟨text, gives.symm, rfl, ?_⟩
          exact congrArg (·.write options.output text) kept

end

/-! Applications that are published. -/

def published : App := { Document.users with names := [("app", .application)] }

def publication : Options where
  application := "app:app"
  output := .ofText "docs/openapi.json"
  format := .json
  config := none
  title := some "Shop"
  version := some ""
  verbose := false

/-- Nobody has to say why: there is no configuration. -/
def counted : Providers where
  source := .counting
  reasons := { markup := fun _ => "", values := fun _ _ => "" }

section

variable (providers : Providers) (app : App) (files : Files) (now : Moment)

/-- The program leaves all files alone, or runs the command with the options that it was given. -/
def Runs (outcome : Outcome) : Prop :=
  outcome.files = files ∨ ∃ options, outcome = runGenerate providers app files now options

theorem runs_runCommand (arguments : List String) :
    Runs providers app files now (runCommand providers app files now arguments) := by
  unfold runCommand
  split
  · split
    · exact .inl rfl
    · split
      · exact .inl rfl
      · split
        · exact .inl rfl
        · exact .inr ⟨_, rfl⟩
  · exact .inl rfl

theorem runs_runFrom (helpWanted : Bool) (arguments : List String) :
    Runs providers app files now (runFrom providers app files now helpWanted arguments) := by
  fun_induction runFrom providers app files now helpWanted arguments with
  | case1 helpWanted rest induction => exact induction
  | case2 helpWanted arguments => exact .inl rfl
  | case3 => exact .inl rfl
  | case4 => exact runs_runCommand providers app files now _

/-- A program that fails has changed no file. -/
theorem files_of_run (arguments : List String)
    (failed : (run providers app files now arguments).exitCode ≠ 0) :
    (run providers app files now arguments).files = files := by
  rcases runs_runFrom providers app files now false arguments with kept | ⟨options, same⟩
  · exact kept
  · unfold run at failed ⊢
    rw [same] at failed ⊢
    rcases runGenerate_cases files with ⟨_, _, _, kept⟩ | ⟨_, _, code, _⟩
    · exact kept
    · exact absurd code failed

end

end RouteDocs.CommandLine
