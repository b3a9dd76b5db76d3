import Locator.Request

namespace Locator

inductive Failure where
  | untrustedBundledMissing (bundled : Path)
  | strategyBundledExhausted (bundled : Path)
  | strategyEnvironmentExhausted (bundled : Path)
  | strategyPathMissing (path : Option Path)
  | unknownStrategy (raw : String)
deriving DecidableEq, Repr

namespace Failure

def message : Failure → String
  | .untrustedBundledMissing bundled =>
    "Workspace is not trusted and failed to find executable in bundled location: " ++
      bundled.display
  | .strategyBundledExhausted bundled =>
    "Failed to find bundled executable (" ++ bundled.display ++
      ") and fallback environment executable"
  | .strategyEnvironmentExhausted bundled =>
    "Failed to find environment executable and fallback bundled executable (" ++
      bundled.display ++ ")"
  | .strategyPathMissing none =>
    "Failed to find executable at `jarl.executablePath` (not provided)"
  | .strategyPathMissing (some path) =>
    "Failed to find executable at `jarl.executablePath` (" ++ path.display ++ " does not exist)"
  | .unknownStrategy raw =>
    "Unknown executable strategy " ++ Quoted.ofString raw ++
      "; expected one of: bundled, environment, path"

def inspect : Failure → String
  | .untrustedBundledMissing bundled =>
    "UntrustedBundledMissing \x7b bundled: " ++ bundled.quoted ++ " \x7d"
  | .strategyBundledExhausted bundled =>
    "StrategyBundledExhausted \x7b bundled: " ++ bundled.quoted ++ " \x7d"
  | .strategyEnvironmentExhausted bundled =>
    "StrategyEnvironmentExhausted \x7b bundled: " ++ bundled.quoted ++ " \x7d"
  | .strategyPathMissing path => "StrategyPathMissing \x7b path: " ++ Path.inspect? path ++ " \x7d"
  | .unknownStrategy raw => "UnknownStrategy(" ++ Quoted.ofString raw ++ ")"

end Failure

end Locator
