import Locator.Resolver.Probe
import Locator.Settings

namespace Locator

structure Report where
  platform : Platform
  trusted : Bool
  strategy : StrategySetting
  explicitPath : Option String
  bundledPath : Path
  bundledExists : Bool
deriving DecidableEq, Repr

namespace Report

variable {m : Type → Type} [Monad m]

def collect (isPresent : Path → m Bool) (config : Config) (request : Request) : m Report := do
  let bundledExists ← isPresent config.bundledPath
  return ⟨config.platform, request.trusted, request.strategy, request.explicitPath,
    config.bundledPath, bundledExists⟩

def entries (r : Report) : List (String × String) :=
  [("platform", r.platform.name),
   ("binary_name", r.platform.binaryName),
   ("trusted", Event.flagText r.trusted),
   (strategyKey, r.strategy.toString),
   (executablePathKey, r.explicitPath.getD "<unset>"),
   ("bundled_path", r.bundledPath.display),
   ("bundled_exists", Event.flagText r.bundledExists)]

def text (r : Report) : String :=
  "\n".intercalate (r.entries.map fun (key, value) => key ++ " = " ++ value)

end Report

end Locator
