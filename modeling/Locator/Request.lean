import Locator.Platform
import Locator.Strategy

namespace Locator

structure Config where
  extensionRoot : Path
  platform : Platform
deriving DecidableEq, Repr

namespace Config

def bundledPath (config : Config) : Path :=
  Locator.bundledPath config.extensionRoot config.platform

def inspect (config : Config) : String :=
  "ResolverConfig \x7b extension_root: " ++ config.extensionRoot.quoted ++ ", platform: " ++
    config.platform.inspect ++ " \x7d"

end Config

structure Request where
  trusted : Bool
  strategy : StrategySetting
  explicitPath : Option String
deriving DecidableEq, Repr

inductive Source where
  | bundled
  | environment
  | explicit
deriving DecidableEq, Repr

namespace Source

def name : Source → String
  | .bundled => "bundled"
  | .environment => "environment"
  | .explicit => "path"

def inspect : Source → String
  | .bundled => "Bundled"
  | .environment => "Environment"
  | .explicit => "Explicit"

def label : Source → String
  | .bundled => "bundled executable"
  | .environment => "environment executable"
  | .explicit => "executable from `jarl.executablePath`"

end Source

structure Resolution where
  path : Path
  source : Source
deriving DecidableEq, Repr

end Locator
