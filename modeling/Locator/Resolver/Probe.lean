import Locator.Event
import Locator.Resolver.Failure

namespace Locator

/-- Two questions and two journals. The answers may change from one question to the next. -/
structure Probe (m : Type → Type) where
  isPresent : Path → m Bool
  findCommand : String → m (Option Path)
  note : Note → m Unit
  log : Event → m Unit

inductive ExplicitMiss where
  | notProvided
  | doesNotExist (path : Path)
deriving DecidableEq, Repr

namespace Probe

variable {m : Type → Type} [Monad m]

def lookupBundled (probe : Probe m) (config : Config) : m (Option Path) := do
  if ← probe.isPresent config.bundledPath then
    probe.note (.foundBundled config.bundledPath)
    return some config.bundledPath
  else
    probe.note (.missedBundled config.bundledPath)
    return none

def lookupEnvironment (probe : Probe m) (platform : Platform) : m (Option Path) := do
  match ← probe.findCommand platform.binaryName with
  | some path =>
    probe.note (.foundEnvironment path)
    return some path
  | none =>
    probe.note .missedEnvironment
    return none

/-- The configured path is taken as it is written. An empty one counts as not configured. -/
def checkExplicit (probe : Probe m) : Option String → m (Except ExplicitMiss Path)
  | none => return .error .notProvided
  | some raw => do
    if raw = "" then return .error .notProvided
    else if ← probe.isPresent (.ofString raw) then return .ok (.ofString raw)
    else return .error (.doesNotExist (.ofString raw))

def lookupExplicit (probe : Probe m) (path : Option String) : m (Option Path) := do
  match ← probe.checkExplicit path with
  | .ok path =>
    probe.note (.foundExplicit path)
    return some path
  | .error .notProvided =>
    probe.note .explicitUnset
    return none
  | .error (.doesNotExist _) =>
    probe.note .explicitAbsent
    return none

end Probe

end Locator
