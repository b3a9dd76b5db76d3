import Locator.CommandLine
import Locator.Environment

namespace Locator.CommandLine

structure Options where
  extensionRoot : Option Path := none
  trusted : Option Bool := none
  strategy : Option String := none
  executablePath : Option String := none
  settings : Option Path := none
  verbose : Bool := false
deriving DecidableEq, Repr

def readPath (raw : Bytes) : Except UsageError Path :=
  if raw = [] then .error .noValue else .ok ⟨raw⟩

def readText (raw : Bytes) : Except UsageError String :=
  match Utf8.decode? raw with
  | some text => .ok text
  | none => .error .notText

def yes : List String := ["y", "yes", "t", "true", "on", "1"]

def no : List String := ["n", "no", "f", "false", "off", "0"]

/-- Yes or no in one of the usual words. Capitals of the Latin alphabet count as small letters. -/
def readSwitch (raw : Bytes) : Except UsageError Bool := do
  let word := String.ofList ((← readText raw).toList.map Char.toLower)
  if yes.contains word then return true
  else if no.contains word then return false
  else .error .notSwitch

namespace Options

def once {α : Type} (earlier : Option α) (value : Except UsageError α) :
    Except UsageError (Option α) :=
  match earlier with
  | some _ => .error .repeatedOption
  | none => value.map some

def enter (given : Options) (opt : Opt) (raw : Bytes) : Except UsageError Options := do
  match opt with
  | .extensionRoot =>
    return { given with extensionRoot := ← once given.extensionRoot (readPath raw) }
  | .trusted => return { given with trusted := ← once given.trusted (readSwitch raw) }
  | .strategy => return { given with strategy := ← once given.strategy (readText raw) }
  | .executablePath =>
    return { given with executablePath := ← once given.executablePath (readText raw) }
  | .settings => return { given with settings := ← once given.settings (readPath raw) }
  | .verbose =>
    if given.verbose then .error .repeatedOption else return { given with verbose := true }
  | .help => return given
  | .version => return given

def gap {α : Type} (env : Environment) (opt : Opt) (given : Option α)
    (read : Bytes → Except UsageError α) : Except UsageError (Option α) :=
  match given, opt.standIn?.bind env.get? with
  | none, some raw => (read raw).map some
  | _, _ => .ok none

def inherited (env : Environment) (given : Options) : Except UsageError Options := do
  let extensionRoot ← gap env .extensionRoot given.extensionRoot readPath
  let trusted ← gap env .trusted given.trusted readSwitch
  let strategy ← gap env .strategy given.strategy readText
  let executablePath ← gap env .executablePath given.executablePath readText
  return { extensionRoot, trusted, strategy, executablePath }

def orElse (first second : Options) : Options where
  extensionRoot := first.extensionRoot <|> second.extensionRoot
  trusted := first.trusted <|> second.trusted
  strategy := first.strategy <|> second.strategy
  executablePath := first.executablePath <|> second.executablePath
  settings := first.settings <|> second.settings
  verbose := first.verbose || second.verbose

def invocation (o : Options) (command : Option Command) : Invocation where
  extensionRoot := o.extensionRoot
  trusted := o.trusted.getD false
  strategy := o.strategy
  executablePath := o.executablePath
  settings := o.settings
  verbose := o.verbose
  command := command

end Options

end Locator.CommandLine
