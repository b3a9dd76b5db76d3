import Locator.CommandLine.Help
import Locator.EnvironmentFile
import Locator.LogFilter
import Locator.ProgramError
import Locator.Report
import Locator.Settings.File
import Locator.Trace

/-! From a command line, an environment and a host to what is printed and logged. -/

namespace Locator

structure Plan where
  config : Config
  request : Request
deriving DecidableEq, Repr

structure Output where
  exitCode : Nat
  stdout : String
  stderr : String
deriving DecidableEq, Repr

namespace Program

variable {m : Type → Type} [Monad m]

def rootMissing : ProgramError :=
  .config "extension root is not set; pass --extension-root or set JARL_EXTENSION_ROOT"

def noWorkingDirectory (e : FileError) : ProgramError :=
  .config ("Cannot determine current directory: " ++ e.message)

def loadSettings (host : Host m) : Option Path → m (Except SettingsError Settings)
  | none => return .ok {}
  | some path => Settings.load host path

def mergeSettings (invocation : Invocation) (file : Settings) : Settings where
  strategy := (invocation.strategy.map .ofString).getD file.strategy
  executablePath := invocation.executablePath <|> file.executablePath

def absolute (host : Host m) (path : Path) : m (Except ProgramError Path) := do
  if path.isAbsolute then return .ok path
  else match ← host.workingDirectory with
    | .ok directory => return .ok (directory.join path)
    | .error e => return .error (noWorkingDirectory e)

def plan (host : Host m) (invocation : Invocation) : m (Except ProgramError Plan) := do
  match invocation.extensionRoot with
  | none => return .error rootMissing
  | some root =>
    match ← loadSettings host invocation.settings with
    | .error e => return .error (.ofSettings e)
    | .ok file =>
      match ← absolute host root with
      | .error e => return .error e
      | .ok root =>
        return .ok ⟨⟨root, .current⟩,
          (mergeSettings invocation file).toRequest invocation.trusted⟩

def resolve (host : Host m) (env : Environment) (sink : Sink) (p : Plan) :
    StateT Trace m (Except ProgramError Resolution) := do
  match ← (Trace.probe host env .process sink).resolve p.config p.request with
  | .ok resolution =>
    Trace.log (.resolved resolution)
    return .ok resolution
  | .error cause => return .error (.failure cause)

def report (host : Host m) (p : Plan) : m Report := Report.collect host.isPresent p.config p.request

def logged (filter : LogFilter) (trace : Trace) : String :=
  String.join <| (trace.events.filter filter.allows).map (·.text ++ "\n")

def failed (e : ProgramError) (log : String) : Output :=
  ⟨e.exitCode, "", log ++ "Error: " ++ e.message ++ "\n"⟩

def perform (host : Host m) (env : Environment) (filter : LogFilter) (invocation : Invocation) :
    m Output := do
  match ← plan host invocation with
  | .error e => return failed e ""
  | .ok p =>
    match invocation.command.getD .resolve with
    | .candidates => return ⟨0, (← report host p).text ++ "\n", ""⟩
    | .resolve =>
      let (outcome, trace) ← (resolve host env .log p).run {}
      let log := logged filter trace
      match outcome with
      | .ok resolution => return ⟨0, resolution.path.display ++ "\n", log⟩
      | .error e => return failed e log

def stopped (env : Environment) : CommandLine.Stop → Output
  | .usage e => ⟨2, "", "error: " ++ e.message ++ "\n"⟩
  | .help page long => ⟨0, CommandLine.Help.printed env page long, ""⟩
  | .version => ⟨0, CommandLine.versionText, ""⟩

/-- The run ends at once when the environment file asks for a value that no variable can hold, or
when a directive for the log is cut inside a character. -/
def aborted : Output := ⟨101, "", ""⟩

def interpret (host : Host m) (env : Environment) (words : List Bytes) : m Output :=
  match CommandLine.read env words with
  | .error stop => return stopped env stop
  | .ok invocation =>
    match LogFilter.ofEnvironment? env invocation.verbose with
    | none => return aborted
    | some filter => perform host env filter invocation

def run (host : Host m) (env : Environment) (words : List Bytes) : m Output := do
  match ← EnvironmentFile.load? host env with
  | none => return aborted
  | some env => interpret host env words

end Program

end Locator
