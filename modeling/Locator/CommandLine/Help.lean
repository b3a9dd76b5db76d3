import Locator.CommandLine.Reader
import Locator.Text.Terminal

/-! Help pages, in a summary and in a long form, as they are shown without control sequences. -/

namespace Locator.CommandLine

def programName : String := "jarl-locate"

def programVersion : String := "0.1.0"

namespace Help

open Terminal (bold)

def summary : Page → String
  | .overview => "Locate the jarl language-server executable"
  | .command .resolve => "Resolve the executable and print its path (default)"
  | .command .candidates => "Show the inputs and the bundled candidate without searching `PATH`"
  | .help => "Print this message or the help of the given subcommand(s)"

def usage : Page → String
  | .overview => bold programName ++ " [OPTIONS] [COMMAND]"
  | .command c => bold (programName ++ " " ++ c.name) ++ " [OPTIONS]"
  | .help => bold (programName ++ " " ++ Page.helpName) ++ " [COMMAND]..."

def spaces (n : Nat) : String := String.ofList (List.replicate n ' ')

def placeholder : Opt → String
  | .extensionRoot => " <EXTENSION_ROOT>"
  | .trusted => "[=<TRUSTED>]"
  | .strategy => " <STRATEGY>"
  | .executablePath => " <EXECUTABLE_PATH>"
  | .settings => " <SETTINGS>"
  | _ => ""

def flags (o : Opt) : String :=
  let short := match o.letter? with
    | some c => "  " ++ bold ("-" ++ String.ofList [c]) ++ ", "
    | none => spaces 6
  short ++ bold ("--" ++ o.name) ++ placeholder o

def explanation (long : Bool) : Opt → List String
  | .extensionRoot => ["Install root of the editor extension (contains `bundled/bin`)"]
  | .trusted =>
    if long then
      ["Treat the workspace as trusted (enables environment and path lookups).",
       "Accepts `1`/`0`, `yes`/`no`, `on`/`off` and `true`/`false`."]
    else ["Treat the workspace as trusted (enables environment and path lookups)"]
  | .strategy => ["Executable strategy: bundled, environment or path"]
  | .executablePath => ["Executable used by the `path` strategy"]
  | .settings =>
    ["Editor settings file holding `jarl.executableStrategy` and `jarl.executablePath`"]
  | .verbose => ["Enable verbose/debug output"]
  | .help =>
    if long then ["Print help (see a summary with '-h')"]
    else ["Print help (see more with '--help')"]
  | .version => ["Print version"]

def remarks (env : Environment) (o : Opt) : List String :=
  let inherited := o.standIn?.toList.map fun name =>
    "[env: " ++ name ++ "=" ++ Utf8.display ((env.get? name).getD []) ++ "]"
  match o with
  | .trusted => inherited ++ ["[default: false]", "[possible values: true, false]"]
  | _ => inherited

def margin : Nat := 10

def indent (s : String) : String :=
  String.ofList (s.toList.flatMap fun c =>
    if c = '\n' then c :: List.replicate margin ' ' else [c])

def entry (env : Environment) (long : Bool) (o : Opt) : String :=
  let notes := remarks env o
  let text := if long then
      let paragraphs := explanation long o ++ (if notes = [] then [] else ["\n".intercalate notes])
      "\n\n".intercalate paragraphs
    else " ".intercalate (explanation long o ++ notes)
  flags o ++ "\n" ++ spaces margin ++ indent text ++ "\n"

def options (env : Environment) (scope : Option Command) (long : Bool) : String :=
  let entries := (Opt.all.filter (Opt.available scope)).map (entry env long)
  bold "Options:" ++ "\n" ++ (if long then "\n" else "").intercalate entries

def commandLine (page : Page) (name : String) : String :=
  "  " ++ bold name ++ spaces (12 - name.length) ++ summary page ++ "\n"

def commands : String :=
  bold "Commands:" ++ "\n" ++
    String.join (Command.all.map fun c => commandLine (.command c) c.name) ++
    commandLine .help Page.helpName

def body (env : Environment) (long : Bool) : Page → String
  | .overview => commands ++ "\n" ++ options env none long
  | .command c => options env (some c) long
  | .help => bold "Arguments:" ++ "\n  [COMMAND]...  Print help for the subcommand(s)\n"

def styled (env : Environment) (page : Page) (long : Bool) : String :=
  summary page ++ "\n\n" ++ bold "Usage:" ++ " " ++ usage page ++ "\n\n" ++ body env long page

def text (env : Environment) (page : Page) (long : Bool) : String :=
  Utf8.display (Terminal.strip false .ground (Utf8.encode (styled env page long)))

def printed (env : Environment) (page : Page) (long : Bool) : String :=
  Utf8.display (Terminal.stripStream false .ground (Utf8.encode (styled env page long)))

end Help

def versionText : String := programName ++ " " ++ programVersion ++ "\n"

end Locator.CommandLine
