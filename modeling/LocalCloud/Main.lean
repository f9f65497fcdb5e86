import LocalCloud.CommandLine
import LocalCloud.Config.File

/-!
# The program

Reads the command line, the environment and the files that the configuration
names, and prints what the command yields.  There is no network here: every call
ends as one that is refused does.
-/

namespace LocalCloud

/-- A host without network, whose clock stands still. -/
def CommandLine.Host.offline : CommandLine.Host IO where
  network := {
    http := fun _ => pure (.lost "no network")
    webSocket := fun _ => pure (.lost "no network")
    custom := fun consumer => nomatch consumer }
  serve := fun _ _ => pure (.error (.transport "no network"))
  now := pure 0

/-- The variables that a configuration depends on. -/
def environmentNames : List String :=
  ["ARROWHEAD_SYSTEM_NAME", "ARROWHEAD_ADDRESS", "ARROWHEAD_PORT", "ARROWHEAD_SECURE",
    "ARROWHEAD_KEYFILE", "ARROWHEAD_CERTFILE", "ARROWHEAD_CAFILE"]

/-- Adds a file under a name, if it can be read. -/
def readFile (files : Files) (name path : String) : IO Files := do
  try
    let bytes ← IO.FS.readBinFile path
    return files.insert name bytes.toList
  catch _ => return files

/-- Adds the configuration file that is to be used, under the name it is loaded
by. -/
def readConfigFile (files : Files) (path : Option String) : IO Files := do
  match path with
  | some path => readFile files path path
  | none =>
    let home := (← IO.getEnv "HOME").getD ""
    readFile files Config.standardPath (home ++ "/.config/arrowhead/config.toml")

/-- The variables that are set. -/
def readEnvironment : IO (Dict String) :=
  environmentNames.foldlM (fun (env : Dict String) name => do
    match ← IO.getEnv name with
    | some value => return env.insert name value
    | none => return env) ∅

def runWith (config : Config) (command : CommandLine.Command) :
    IO (Except Error (List String)) := do
  let keys := config.keys
  let paths := [keys.keyfile, keys.certfile, keys.cafile, keys.authorizationPublicKey].filterMap id
  let files ← paths.foldlM (fun files path => readFile files path path) ∅
  match Client.build config files .builtIn command.services [] with
  | .error failure => return .error failure
  | .ok client => command.run .offline client

end LocalCloud

open LocalCloud in
/-- Runs the program; a wrong command line ends with status 2, a failure with
status 1. -/
def main (arguments : List String) : IO UInt32 := do
  match CommandLine.Invocation.ofArguments arguments with
  | .error usage =>
    IO.eprintln ("error: " ++ usage)
    return 2
  | .ok invocation =>
    let path := invocation.config <|> (← IO.getEnv "ARROWHEAD_CONFIG")
    let files ← readConfigFile ∅ path
    let env ← readEnvironment
    let result ← match Config.load files path env.get? with
      | .error failure => pure (.error failure)
      | .ok config => runWith config invocation.command
    match result with
    | .error failure =>
      IO.eprintln ("fatal: " ++ failure.message)
      return 1
    | .ok lines =>
      lines.forM IO.println
      return 0
