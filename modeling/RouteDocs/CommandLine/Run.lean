import RouteDocs.App.Load
import RouteDocs.CommandLine.Options
import RouteDocs.Config.Load
import RouteDocs.Document.Assemble

/-!
The command that writes the document of an application. The file is written last, when
nothing can fail any more: a command that fails leaves all files as they were.
-/

namespace RouteDocs.CommandLine

structure Providers where
  source : Source
  reasons : Config.Reasons

structure State where
  files : Files
  output : String := ""
  events : List Event := []

inductive Stop where
  | told (message : String)
  | failed (failure : Failure)
  deriving Repr

abbrev Command := ExceptT Stop (StateM State)

def say (line : String) : Command Unit :=
  modifyThe State fun state => { state with output := state.output ++ line ++ "\n" }

/-- Faults are not explained to the user. -/
def Stop.of : Failure → Stop
  | .fault fault => .failed (.fault fault)
  | failure => .told failure.message

def perform {α : Type} (run : Run) (step : Action α) : Command α := do
  let (result, run) := step.run.run run
  modifyThe State fun state => { state with events := state.events ++ run.events }
  match result with
  | .ok a => pure a
  | .error failure => throw (.of failure)

def loadApplication (app : App) (path : String) : Command Unit := do
  say ("Loading application " ++ path ++ "...")
  match app.load path with
  | .ok () => pure ()
  | .error failure =>
      throw (.told ("Cannot load application '" ++ path ++ "': " ++ failure.message))

def override (options : Options) (config : Config) : Config :=
  { config with
    title := (Failure.nonEmpty options.title).getD config.title
    version := (Failure.nonEmpty options.version).getD config.version }

def checkDirectory (files : Files) (directory : Path) : Except Fault Unit :=
  if (files.read? directory).isSome then .error (.fileExists directory.toText)
  else if files.isBlocked directory then .error (.notDirectory directory.toText)
  else .ok ()

def checkFile (files : Files) (path : Path) : Except Fault Unit :=
  if files.find? path = some .directory then .error (.isDirectory path.toText) else .ok ()

def writeFile (path : Path) (text : String) : Command Unit :=
  modifyThe State fun state => { state with files := state.files.write path text }

def liftFault {α : Type} : Except Fault α → Command α
  | .ok a => pure a
  | .error fault => throw (.failed (.fault fault))

def generate (providers : Providers) (app : App) (now : Moment) (options : Options) :
    Command Unit := do
  loadApplication app options.application
  let files := (← getThe State).files
  let config ← perform {} (Config.load providers.reasons files options.config {})
  let config := override options config
  let document ← perform (Document.startRun providers.source config)
    (Document.generate app providers.source config now)
  say ("Documented " ++ toString document.paths.length ++ " paths.")
  liftFault (checkDirectory files options.output.parent)
  let text ← liftFault (document.print options.format)
  liftFault (checkFile files options.output)
  writeFile options.output text
  say ("Document saved to " ++ options.output.toText)

structure Outcome where
  exitCode : Nat
  files : Files
  output : String := ""
  events : List Event := []
  failure : Option Failure := none

def misuse (files : Files) : Outcome :=
  { exitCode := 2, files }

/-- Only warnings are reported, unless all is asked for. -/
def isReported (verbose : Bool) (event : Event) : Bool :=
  verbose || event.level == .warning

def runGenerate (providers : Providers) (app : App) (files : Files) (now : Moment)
    (options : Options) : Outcome :=
  let (result, state) := (generate providers app now options).run.run { files }
  let events := state.events.filter (isReported options.verbose)
  match result with
  | .ok () => { exitCode := 0, files := state.files, output := state.output, events }
  | .error (.told message) =>
      { exitCode := 1, files := state.files
        output := state.output ++ "Error: " ++ message ++ "\n", events }
  | .error (.failed failure) =>
      { exitCode := 1, files := state.files, output := state.output, events
        failure := some failure }

def help : String :=
  "Usage: main [OPTIONS] COMMAND [ARGS]...\n\n" ++
    "  openapi-autodoc: generate an OpenAPI document from routes and validation\n" ++
    "  rules.\n\n" ++
    "Options:\n" ++
    "  --help  Show this message and exit.\n\n" ++
    "Commands:\n" ++
    "  generate  Generate the document for APP_PATH (\"package.module:app\").\n"

def generateHelp : String :=
  "Usage: main generate [OPTIONS] APP_PATH\n\n" ++
    "  Generate the document for APP_PATH (\"package.module:app\").\n\n" ++
    "Options:\n" ++
    "  -o, --output PATH     Output file for the document.  [required]\n" ++
    "  --format [json|yaml]  Output format (default: from the file extension).\n" ++
    "  --config PATH         Configuration file.\n" ++
    "  --title TEXT          Override the document title.\n" ++
    "  --version-tag TEXT    Override the document version.\n" ++
    "  --app-dir DIRECTORY   Directory added to the import path before loading\n" ++
    "                        APP_PATH.\n" ++
    "  -v, --verbose         Log debug output to stderr.\n" ++
    "  --help                Show this message and exit.\n"

def runCommand (providers : Providers) (app : App) (files : Files) (now : Moment) :
    List String → Outcome
  | "generate" :: rest => match Arguments.read? rest with
      | none => misuse files
      | some arguments =>
          if arguments.has .help then { exitCode := 0, files, output := generateHelp }
          else match Options.of? files arguments with
            | none => misuse files
            | some options => runGenerate providers app files now options
  | _ => misuse files

def runFrom (providers : Providers) (app : App) (files : Files) (now : Moment)
    (helpWanted : Bool) : List String → Outcome
  | "--help" :: rest => runFrom providers app files now true rest
  | arguments =>
      let command := match arguments with
        | "--" :: rest => rest
        | arguments => arguments
      if (arguments.head?).any fun a => a != "--" && Arguments.isOption a then misuse files
      else if helpWanted then { exitCode := 0, files, output := help }
      else runCommand providers app files now command

def run (providers : Providers) (app : App) (files : Files) (now : Moment)
    (arguments : List String) : Outcome :=
  runFrom providers app files now false arguments

end RouteDocs.CommandLine
