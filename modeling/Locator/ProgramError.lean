import Locator.Resolver.Failure
import Locator.Settings

namespace Locator

inductive ProgramError where
  | failure (cause : Failure)
  | config (text : String)
deriving DecidableEq, Repr

namespace ProgramError

def ofSettings (e : SettingsError) : ProgramError := .config e.message

def message : ProgramError → String
  | .failure cause => cause.message
  | .config text => "Configuration error: " ++ text

def inspectConfig (text : String) : String := "Config(" ++ Quoted.ofString text ++ ")"

def exitCode : ProgramError → Nat
  | .failure (.unknownStrategy _) => 78
  | .failure _ => 69
  | .config _ => 78

end ProgramError

end Locator
