import Locator.Environment
import Locator.EnvironmentFile.Reader
import Locator.Host

/-! The nearest `.env` file, from the working directory up, fills the gaps. -/

namespace Locator

namespace EnvironmentFile

def fileName : Path := .ofString ".env"

def Piece.expand (env : Environment) : Piece → List Char
  | .char c => [c]
  | .reference name => ((env.reference? name).getD "").toList

def Value.expand (env : Environment) (value : Value) : String :=
  String.ofList (value.flatMap (Piece.expand env))

/-- Sets a variable that has no text for a value. None when the new value holds a NUL, which no
variable can. -/
def Assignment.fill? (env : Environment) (a : Assignment) : Option Environment :=
  if (env.text? a.name).isSome then some env
  else
    let value := Value.expand env a.value
    if value.toList.contains '\x00' then none else some (env.set a.name (Utf8.encode value))

def fill? (env : Environment) (content : Bytes) : Option Environment :=
  (assignments content).foldlM Assignment.fill? env

variable {m : Type → Type} [Monad m]

/-- The first of some directories that has an environment file, unless one before it cannot be
looked into. -/
def findIn (host : Host m) : List Path → m (Option Path)
  | [] => return none
  | directory :: rest => do
    let file := directory.join fileName
    match ← host.status file with
    | .ok (.file _) => return some file
    | .ok .directory => findIn host rest
    | .error .notFound => findIn host rest
    | .error _ => return none

def find (host : Host m) : m (Option Path) := do
  match ← host.workingDirectory with
  | .ok directory => findIn host directory.ancestors
  | .error _ => return none

def load? (host : Host m) (env : Environment) : m (Option Environment) := do
  match ← find host with
  | none => return some env
  | some file =>
    match ← host.read file with
    | .ok content => return fill? env content
    | .error _ => return some env

end EnvironmentFile

end Locator
