import Locator.Environment
import Locator.Event
import Locator.Host

/-! A name of several components is not looked up but taken relative to a directory. -/

namespace Locator

inductive SearchPath where
  | process
  | pinned (directories : Bytes) (base : Path)
deriving DecidableEq, Repr

namespace Search

def colon : UInt8 := 0x3a

def tilde : Bytes := [0x7e]

def expand (home entry : Path) : Path :=
  match entry.components with
  | .normal name :: rest =>
    if name = tilde then rest.foldl (fun p c => p.join ⟨c.bytes⟩) home else entry
  | _ => entry

/-- The paths to try, in order. Without a base directory every name is looked up; a name that is to
be looked up with no directories to look in has no paths at all. -/
def candidates? (home : Path) (directories : Option Bytes) (base : Option Path) (name : Path) :
    Option (List Path) :=
  match base, decide (1 < name.components.length) with
  | some dir, true => some [dir.join name]
  | _, _ => directories.map fun ds =>
    (ds.splitOn colon).map fun entry => (expand home ⟨entry⟩).join name

variable {m : Type → Type} [Monad m]

def find (host : Host m) (env : Environment) (search : SearchPath) (name : String) :
    m (Except SearchMiss Path) := do
  let paths? ← match search with
    | .pinned directories base =>
      pure (candidates? env.home (some directories) (some base) (.ofString name))
    | .process => do
      let base ← host.workingDirectory
      pure (candidates? env.home (env.get? "PATH") base.toOption (.ofString name))
  match paths? with
  | none => return .error .nowhereToLook
  | some paths =>
    match ← paths.findM? host.isExecutable with
    | some path => return .ok path
    | none => return .error .notFound

end Search

end Locator
