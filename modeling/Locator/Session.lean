import Locator.Resolver
import Locator.Report

/-! What a step writes is collected apart and then added to the journal. -/

namespace Locator

inductive Question where
  | isPresent (path : Path)
  | findCommand (name : String)
deriving DecidableEq, Repr

structure Recording where
  lines : List String := []
  questions : List Question := []
deriving DecidableEq, Repr

structure Session where
  config : Config
  present : List Path
  commands : List (String × Path)
  journal : List String := []
deriving DecidableEq, Repr

namespace Session

inductive Step where
  | addFile (path : Path)
  | removeFile (path : Path)
  | setCommand (name : String) (path : Option Path)
  | resolve (request : Request)
  | bundledPath
  | lookupBundled
  | lookupEnvironment
  | lookupExplicit (path : Option String)
  | checkExplicit (path : Option String)
  | report (request : Request)
  | append (line : String)
  | lines
  | takeLines
  | newJournal
  | cloneResolver
deriving DecidableEq, Repr

inductive Result where
  | done
  | changed (value : Bool)
  | resolution (outcome : Except Failure Resolution)
  | path (value : Path)
  | found (value : Option Path)
  | checked (outcome : Except ExplicitMiss Path)
  | text (value : String)
  | lines (value : List String)

structure Answer where
  result : Result
  recording : Recording

def ask (question : Question) : StateM Recording Unit :=
  modify fun r => { r with questions := r.questions ++ [question] }

def write (line : String) : StateM Recording Unit :=
  modify fun r => { r with lines := r.lines ++ [line] }

def isPresent (s : Session) (path : Path) : StateM Recording Bool := do
  ask (.isPresent path)
  return s.present.contains path

def findCommand (s : Session) (name : String) : StateM Recording (Option Path) := do
  ask (.findCommand name)
  return s.commands.lookup name

def probe (s : Session) : Probe (StateM Recording) where
  isPresent := s.isPresent
  findCommand := s.findCommand
  note n := write n.text
  log _ := pure ()

def inspectResolver (s : Session) : String :=
  "ExecutableResolver \x7b config: " ++ s.config.inspect ++ ", .. \x7d"

def consult (s : Session) (action : StateM Recording Result) : Session × Answer :=
  let (result, recording) := action.run {}
  ({ s with journal := s.journal ++ recording.lines }, ⟨result, recording⟩)

def reply (s : Session) (result : Result) : Session × Answer :=
  (s, ⟨result, {}⟩)

def step (s : Session) : Step → Session × Answer
  | .addFile path =>
    if s.present.contains path then s.reply (.changed false)
    else ({ s with present := path :: s.present } : Session).reply (.changed true)
  | .removeFile path =>
    if s.present.contains path then
      ({ s with present := s.present.filter (· ≠ path) } : Session).reply (.changed true)
    else s.reply (.changed false)
  | .setCommand name path =>
    let others := s.commands.filter (·.1 ≠ name)
    ({ s with commands := (path.map (name, ·)).toList ++ others } : Session).reply .done
  | .resolve request => s.consult (.resolution <$> s.probe.resolve s.config request)
  | .bundledPath => s.reply (.path s.config.bundledPath)
  | .lookupBundled => s.consult (.found <$> s.probe.lookupBundled s.config)
  | .lookupEnvironment => s.consult (.found <$> s.probe.lookupEnvironment s.config.platform)
  | .lookupExplicit path => s.consult (.found <$> s.probe.lookupExplicit path)
  | .checkExplicit path => s.consult (.checked <$> s.probe.checkExplicit path)
  | .report request =>
    s.consult ((fun r => .text r.text) <$> Report.collect s.isPresent s.config request)
  | .append line => s.consult (do write line; return .done)
  | .lines => s.reply (.lines s.journal)
  | .takeLines => ({ s with journal := [] } : Session).reply (.lines s.journal)
  | .newJournal => ({ s with journal := [] } : Session).reply .done
  | .cloneResolver => s.reply (.text s.inspectResolver)

def run (s : Session) : List Step → Session × List Answer
  | [] => (s, [])
  | first :: rest =>
    let (next, answer) := s.step first
    let (last, answers) := next.run rest
    (last, answer :: answers)

end Session

end Locator
