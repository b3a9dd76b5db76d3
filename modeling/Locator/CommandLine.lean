import Locator.Path

namespace Locator

inductive Command where
  | resolve
  | candidates
deriving DecidableEq, Repr

namespace Command

def all : List Command := [.resolve, .candidates]

def name : Command → String
  | .resolve => "resolve"
  | .candidates => "candidates"

def ofName? (raw : Bytes) : Option Command :=
  all.find? fun c => Utf8.encode c.name == raw

end Command

structure Invocation where
  extensionRoot : Option Path := none
  trusted : Bool := false
  strategy : Option String := none
  executablePath : Option String := none
  settings : Option Path := none
  verbose : Bool := false
  command : Option Command := none
deriving DecidableEq, Repr

namespace CommandLine

inductive Opt where
  | extensionRoot
  | trusted
  | strategy
  | executablePath
  | settings
  | verbose
  | help
  | version
deriving DecidableEq, Repr

namespace Opt

def all : List Opt :=
  [.extensionRoot, .trusted, .strategy, .executablePath, .settings, .verbose, .help, .version]

def name : Opt → String
  | .extensionRoot => "extension-root"
  | .trusted => "trusted"
  | .strategy => "strategy"
  | .executablePath => "executable-path"
  | .settings => "settings"
  | .verbose => "verbose"
  | .help => "help"
  | .version => "version"

def letter? : Opt → Option Char
  | .verbose => some 'v'
  | .help => some 'h'
  | .version => some 'V'
  | _ => none

def standIn? : Opt → Option String
  | .extensionRoot => some "JARL_EXTENSION_ROOT"
  | .trusted => some "JARL_WORKSPACE_TRUSTED"
  | .strategy => some "JARL_EXECUTABLE_STRATEGY"
  | .executablePath => some "JARL_EXECUTABLE_PATH"
  | _ => none

def available (scope : Option Command) (o : Opt) : Bool := o ≠ .version || scope.isNone

def ofName? (scope : Option Command) (raw : Bytes) : Option Opt :=
  (all.filter (available scope)).find? fun o => Utf8.encode o.name == raw

def ofLetter? (scope : Option Command) (raw : UInt8) : Option Opt :=
  (all.filter (available scope)).find? fun o => o.letter?.map Char.toUInt8 == some raw

end Opt

inductive UsageError where
  | noValue
  | unknownArgument
  | unknownCommand
  | unwantedValue
  | repeatedOption
  | notText
  | notSwitch
deriving DecidableEq, Repr

def UsageError.message : UsageError → String
  | .noValue => "a value is required but none was supplied"
  | .unknownArgument => "unexpected argument"
  | .unknownCommand => "unrecognized subcommand"
  | .unwantedValue => "unexpected value"
  | .repeatedOption => "an option cannot be used multiple times"
  | .notText => "a value is not valid UTF-8"
  | .notSwitch => "a value is not a boolean"

inductive Page where
  | overview
  | command (c : Command)
  | help
deriving DecidableEq, Repr

namespace Page

def helpName : String := "help"

def ofName? (raw : Bytes) : Option Page :=
  if raw = Utf8.encode helpName then some .help else (Command.ofName? raw).map .command

def ofScope : Option Command → Page
  | none => .overview
  | some c => .command c

end Page

inductive Stop where
  | usage (error : UsageError)
  | help (page : Page) (long : Bool)
  | version
deriving DecidableEq, Repr

end CommandLine

end Locator
