import Locator.Resolver.Probe

/-! What an untrusted workspace controls, the search path and the configured path, is not asked. -/

namespace Locator

namespace Probe

variable {m : Type → Type} [Monad m]

def select (probe : Probe m) (source : Source) (path : Path) :
    m (Except Failure Resolution) := do
  probe.note (.using ⟨path, source⟩)
  return .ok ⟨path, source⟩

def resolveUntrusted (probe : Probe m) (config : Config) : m (Except Failure Resolution) := do
  probe.note (.untrusted config.bundledPath)
  match ← probe.lookupBundled config with
  | some path => probe.select .bundled path
  | none => return .error (.untrustedBundledMissing config.bundledPath)

def resolveBundled (probe : Probe m) (config : Config) : m (Except Failure Resolution) := do
  match ← probe.lookupBundled config with
  | some path => probe.select .bundled path
  | none =>
    probe.note .fallBackToEnvironment
    match ← probe.lookupEnvironment config.platform with
    | some path => probe.select .environment path
    | none => return .error (.strategyBundledExhausted config.bundledPath)

def resolveEnvironment (probe : Probe m) (config : Config) : m (Except Failure Resolution) := do
  match ← probe.lookupEnvironment config.platform with
  | some path => probe.select .environment path
  | none =>
    probe.note .fallBackToBundled
    match ← probe.lookupBundled config with
    | some path => probe.select .bundled path
    | none => return .error (.strategyEnvironmentExhausted config.bundledPath)

def resolveExplicit (probe : Probe m) (path : Option String) : m (Except Failure Resolution) := do
  match ← probe.lookupExplicit path with
  | some found => probe.select .explicit found
  | none => return .error (.strategyPathMissing ((path.filter (· ≠ "")).map .ofString))

def resolve (probe : Probe m) (config : Config) (request : Request) :
    m (Except Failure Resolution) := do
  probe.log (.resolving config request)
  if request.trusted then
    match request.strategy with
    | .known .bundled => probe.resolveBundled config
    | .known .environment => probe.resolveEnvironment config
    | .known .path => probe.resolveExplicit request.explicitPath
    | .unrecognized raw => return .error (.unknownStrategy raw)
  else
    probe.resolveUntrusted config

end Probe

end Locator
