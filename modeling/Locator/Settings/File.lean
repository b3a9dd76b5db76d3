import Locator.Host
import Locator.Settings.Reader

namespace Locator.Settings

variable {m : Type → Type} [Monad m]

def load (host : Host m) (path : Path) : m (Except SettingsError Settings) := do
  match ← host.read path with
  | .error e => return .error (.read path e.message)
  | .ok content =>
    match Utf8.decode? content with
    | none => return .error (.read path "stream did not contain valid UTF-8")
    | some text => return ofFile (some path) text

end Locator.Settings
