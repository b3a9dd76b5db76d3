import Locator.Json.StringLiteral
import Locator.Request

namespace Locator

def strategyKey : String := "jarl.executableStrategy"

def executablePathKey : String := "jarl.executablePath"

structure Settings where
  strategy : StrategySetting := default
  executablePath : Option String := none
deriving DecidableEq, Repr

namespace Settings

def toRequest (s : Settings) (trusted : Bool) : Request :=
  ⟨trusted, s.strategy, s.executablePath⟩

def members (s : Settings) : List (String × String) :=
  (strategyKey, s.strategy.toString) :: (s.executablePath.map (executablePathKey, ·)).toList

def toJson (s : Settings) : String :=
  let texts := s.members.map fun (key, value) => Json.quote key ++ ":" ++ Json.quote value
  "\x7b" ++ ",".intercalate texts ++ "\x7d"

end Settings

inductive SettingsError where
  | read (path : Path) (reason : String)
  | parse (path : Option Path) (reason : String)
deriving DecidableEq, Repr

namespace SettingsError

def message : SettingsError → String
  | .read path reason => "Failed to read settings file " ++ path.display ++ ": " ++ reason
  | .parse none reason => "Invalid settings JSON: " ++ reason
  | .parse (some path) reason => "Invalid settings JSON in " ++ path.display ++ ": " ++ reason

def inspect : SettingsError → String
  | .read path reason =>
    "Read \x7b path: " ++ path.quoted ++ ", reason: " ++ Quoted.ofString reason ++ " \x7d"
  | .parse path reason =>
    "Parse \x7b path: " ++ Path.inspect? path ++ ", reason: " ++ Quoted.ofString reason ++ " \x7d"

end SettingsError

end Locator
