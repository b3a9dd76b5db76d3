import Locator.Resolver
import Locator.Search

namespace Locator

structure Trace where
  events : List Event := []
  lines : List String := []
deriving DecidableEq, Repr

inductive Sink where
  | log
  | keep
deriving DecidableEq, Repr

namespace Trace

variable {m : Type → Type} [Monad m]

def log (event : Event) : StateT Trace m Unit :=
  modify fun t => { t with events := t.events ++ [event] }

def keep (line : String) : StateT Trace m Unit :=
  modify fun t => { t with lines := t.lines ++ [line] }

def note (sink : Sink) (n : Note) : StateT Trace m Unit :=
  match sink with
  | .log => log (.note n.text)
  | .keep => keep n.text

/-- Logs how a search ended. A search that was cancelled has no outcome. -/
def searched (name : String) : Option (Except SearchMiss Path) → StateT Trace m (Option Path)
  | some (.ok path) => return some path
  | some (.error cause) => do
    log (.searchMissed name cause)
    return none
  | none => do
    log (.searchCancelled name)
    return none

def find (host : Host m) (env : Environment) (search : SearchPath) (name : String) :
    StateT Trace m (Option Path) := do
  let found ← StateT.lift (Search.find host env search name)
  searched name (some found)

def probe (host : Host m) (env : Environment) (search : SearchPath) (sink : Sink) :
    Probe (StateT Trace m) where
  isPresent path := StateT.lift (host.isPresent path)
  findCommand := find host env search
  note := note sink
  log := log

end Trace

end Locator
