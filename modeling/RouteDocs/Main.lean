import RouteDocs.CommandLine.Run

/-!
The program: it reads the files that a command looks at, runs the command, and writes what
came of it.
-/

namespace RouteDocs

namespace CommandLine

def providers : Providers where
  source := .counting
  reasons :=
    { markup := fun _ => "the text has no meaning"
      values := fun _ details =>
        Text.join ", " (details.map fun (place, kind) => place ++ " (" ++ kind ++ ")") }

def candidates (arguments : List String) : List Path :=
  Config.names.map Path.ofText ++
    ((Arguments.read? (arguments.drop 1)).map Arguments.paths).getD []

def readFiles (paths : List Path) : IO Files :=
  paths.foldlM (fun files path => do
    try
      pure (files.write path (← IO.FS.readFile path.toText))
    catch _ => pure files) {}

def writeFiles (files : Files) : IO Unit :=
  for (path, text) in files.entries do
    IO.FS.createDirAll path.parent.toText
    IO.FS.writeFile path.toText text

def clock : IO Moment := do
  let (_, path) ← IO.FS.createTempFile
  let made := (← path.metadata).modified
  IO.FS.removeFile path
  pure ((Moment.ofEpochSeconds? made.sec).getD default)

def execute (app : App) (arguments : List String) : IO UInt32 := do
  let before ← readFiles (candidates arguments)
  let outcome := run providers app before (← clock) arguments
  writeFiles (outcome.files.changedSince before)
  for event in outcome.events do
    IO.eprintln event.message
  IO.print outcome.output
  if outcome.exitCode = 2 then IO.eprint help
  match outcome.failure with
  | some failure => IO.eprintln failure.message
  | none => pure ()
  pure (UInt32.ofNat outcome.exitCode)

end CommandLine

end RouteDocs

/-- Documents an application without routes; a program with an application of its own runs
`RouteDocs.CommandLine.execute` with it. -/
def main (arguments : List String) : IO UInt32 :=
  RouteDocs.CommandLine.execute { names := [("app", .application)] } arguments
