import Locator.Request

namespace Locator

inductive Note where
  | untrusted (bundled : Path)
  | foundBundled (path : Path)
  | missedBundled (path : Path)
  | foundEnvironment (path : Path)
  | missedEnvironment
  | foundExplicit (path : Path)
  | explicitUnset
  | explicitAbsent
  | fallBackToEnvironment
  | fallBackToBundled
  | using (resolution : Resolution)
deriving DecidableEq, Repr

def Note.text : Note → String
  | .untrusted bundled =>
    "Workspace is not trusted, using bundled executable: " ++ bundled.display
  | .foundBundled path => "Found bundled executable: " ++ path.display
  | .missedBundled path => "Failed to find bundled executable: " ++ path.display
  | .foundEnvironment path => "Found environment executable: " ++ path.display
  | .missedEnvironment => "Failed to find environment executable"
  | .foundExplicit path => "Found executable from `jarl.executablePath`: " ++ path.display
  | .explicitUnset => "Failed to find executable from path, no `jarl.executablePath` provided"
  | .explicitAbsent =>
    "Failed to find executable from path, provided `jarl.executablePath` does not exist"
  | .fallBackToEnvironment =>
    "Bundled executable not found, falling back to environment executable"
  | .fallBackToBundled => "Environment executable not found, falling back to bundled executable"
  | .using resolution => "Using " ++ resolution.source.label ++ ": " ++ resolution.path.display

end Locator
