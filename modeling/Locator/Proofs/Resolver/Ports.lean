import Locator.Proofs.Results
import Locator.Resolver
import Locator.Session

/-! Ports answer in any monad; a transcript keeps what was noted, asked and answered. -/

namespace Locator

structure Ports (m : Type → Type) where
  isPresent : Path → m Bool
  findCommand : String → m (Option Path)

inductive Exchange where
  | isPresent (path : Path) (answer : Bool)
  | findCommand (name : String) (answer : Option Path)
deriving DecidableEq, Repr

def Exchange.question : Exchange → Question
  | .isPresent path _ => .isPresent path
  | .findCommand name _ => .findCommand name

structure Transcript where
  notes : List Note := []
  exchanges : List Exchange := []
deriving DecidableEq, Repr

namespace Transcript

def lines (t : Transcript) : List String := t.notes.map Note.text

def questions (t : Transcript) : List Question := t.exchanges.map Exchange.question

def note (t : Transcript) (n : Note) : Transcript := { t with notes := t.notes ++ [n] }

def record (t : Transcript) (e : Exchange) : Transcript :=
  { t with exchanges := t.exchanges ++ [e] }

lemma lines_note (t : Transcript) (n : Note) : (t.note n).lines = t.lines ++ [n.text] :=
  List.map_append

end Transcript

namespace Ports

variable {m : Type → Type} [Monad m]

def probe (ports : Ports m) : Probe (StateT Transcript m) where
  isPresent path := do
    let answer ← StateT.lift (ports.isPresent path)
    modify (·.record (.isPresent path answer))
    return answer
  findCommand name := do
    let answer ← StateT.lift (ports.findCommand name)
    modify (·.record (.findCommand name answer))
    return answer
  note n := modify (·.note n)
  log _ := return

def resolve (ports : Ports m) (config : Config) (request : Request) :
    m (Except Failure Resolution × Transcript) :=
  (ports.probe.resolve config request).run {}

variable (ports : Ports m) (t : Transcript)

@[simp] lemma run_note (n : Note) : (ports.probe.note n).run t = pure ((), t.note n) := rfl

@[simp] lemma run_log (event : Event) : (ports.probe.log event).run t = pure ((), t) := rfl

variable [LawfulMonad m]

@[simp] lemma run_isPresent (path : Path) :
    (ports.probe.isPresent path).run t =
      (fun answer => (answer, t.record (.isPresent path answer))) <$> ports.isPresent path := by
  simp [probe]

@[simp] lemma run_findCommand (name : String) :
    (ports.probe.findCommand name).run t =
      (fun answer => (answer, t.record (.findCommand name answer))) <$> ports.findCommand name := by
  simp [probe]

end Ports

end Locator
