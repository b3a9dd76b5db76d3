import Locator.Proofs.Program.Stages

/-! The questions that a run puts to its host. -/

namespace Locator

namespace Host

inductive Query where
  | workingDirectory
  | status (path : Path)
  | read (path : Path)
deriving DecidableEq, Repr

def observed (host : Host Id) : Host (StateM (List Query)) where
  workingDirectory log := (host.workingDirectory, log ++ [.workingDirectory])
  status path log := (host.status path, log ++ [.status path])
  read path log := (host.read path, log ++ [.read path])

variable {allowed : Query → Prop} {α β : Type} {host : Host Id} {path : Path}

/-- On an observed host `x` comes to what `y` comes to unobserved, and asks nothing but what is
allowed. -/
def Asks (allowed : Query → Prop) (x : StateM (List Query) α) (y : Id α) : Prop :=
  ∀ log, ∃ asked, x.run log = (y, log ++ asked) ∧ ∀ q ∈ asked, allowed q

namespace Asks

lemma pure (a : α) : Asks allowed (Pure.pure a) (Pure.pure a) := by
  intro log
  refine ⟨[], ?_, by simp⟩
  rw [List.append_nil]
  rfl

lemma bind {x : StateM (List Query) α} {y : Id α} {f : α → StateM (List Query) β}
    {g : α → Id β} (hx : Asks allowed x y) (hf : Asks allowed (f y) (g y)) :
    Asks allowed (x >>= f) (y >>= g) := by
  intro log
  obtain ⟨first, hfirst, hallowed⟩ := hx log
  obtain ⟨second, hsecond, hallowed'⟩ := hf (log ++ first)
  refine ⟨first ++ second, ?_, ?_⟩
  · rw [run_bind_of hfirst, hsecond, List.append_assoc]
    rfl
  · intro q hq
    exact (List.mem_append.mp hq).elim (hallowed q) (hallowed' q)

lemma ask {query : Query} {a : α} (h : allowed query) :
    Asks allowed (fun log => (a, log ++ [query])) a :=
  fun log => ⟨[query], rfl, by simpa using h⟩

lemma workingDirectory (h : allowed .workingDirectory) :
    Asks allowed host.observed.workingDirectory host.workingDirectory := ask h

lemma status (h : allowed (.status path)) :
    Asks allowed (host.observed.status path) (host.status path) := ask h

lemma read (h : allowed (.read path)) :
    Asks allowed (host.observed.read path) (host.read path) := ask h

lemma isPresent (h : allowed (.status path)) :
    Asks allowed (host.observed.isPresent path) (host.isPresent path) := by
  apply (status h).bind
  cases host.status path with
  | ok status => exact pure true
  | error e => exact pure false

end Asks

end Host

namespace EnvironmentFile

open Host (Query Asks)

variable {allowed : Query → Prop} {host : Host Id}

lemma asks_findIn {directories : List Path}
    (h : ∀ directory ∈ directories, allowed (.status (directory.join fileName))) :
    Asks allowed (findIn host.observed directories) (findIn host directories) := by
  induction directories with
  | nil => exact .pure none
  | cons directory rest ih =>
    have hrest := ih fun d hd => h d (List.mem_cons_of_mem directory hd)
    apply (Asks.status (h directory List.mem_cons_self)).bind
    cases host.status (directory.join fileName) with
    | ok status =>
      cases status with
      | directory => exact hrest
      | file executable => exact .pure _
    | error e =>
      cases e with
      | notFound => exact hrest
      | _ => exact .pure none

lemma asks_load? (env : Environment) (hdirectory : allowed .workingDirectory)
    (hstatus : ∀ start, host.workingDirectory = .ok start →
      ∀ directory ∈ start.ancestors, allowed (.status (directory.join fileName)))
    (hread : ∀ file, find host = some file → allowed (.read file)) :
    Asks allowed (load? host.observed env) (load? host env) := by
  have hfind : Asks allowed (find host.observed) (find host) := by
    apply (Asks.workingDirectory hdirectory).bind
    cases hw : host.workingDirectory with
    | ok start => exact asks_findIn (hstatus start hw)
    | error e => exact .pure none
  apply hfind.bind
  cases hf : find host with
  | none => exact .pure (some env)
  | some file =>
    apply (Asks.read (hread file hf)).bind
    cases host.read file with
    | ok content => exact .pure (fill? env content)
    | error e => exact .pure (some env)

end EnvironmentFile

namespace Program

open Host (Query Asks)

variable {allowed : Query → Prop} {host : Host Id} {invocation : Invocation} {p : Plan}

lemma asks_loadSettings {path? : Option Path}
    (h : ∀ path, path? = some path → allowed (.read path)) :
    Asks allowed (loadSettings host.observed path?) (loadSettings host path?) := by
  cases path? with
  | none => exact .pure _
  | some path =>
    apply (Asks.read (h path rfl)).bind
    cases host.read path with
    | error e => exact .pure _
    | ok content =>
      dsimp only
      cases Utf8.decode? content with
      | none => exact .pure _
      | some text => exact .pure _

lemma asks_absolute (path : Path) (h : allowed .workingDirectory) :
    Asks allowed (absolute host.observed path) (absolute host path) := by
  unfold absolute
  split
  · exact .pure _
  · apply (Asks.workingDirectory h).bind
    cases host.workingDirectory with
    | ok directory => exact .pure _
    | error e => exact .pure _

lemma asks_plan (hdirectory : allowed .workingDirectory)
    (hread : ∀ path, invocation.settings = some path → allowed (.read path)) :
    Asks allowed (plan host.observed invocation) (plan host invocation) := by
  unfold plan
  cases invocation.extensionRoot with
  | none => exact .pure _
  | some root =>
    apply (asks_loadSettings hread).bind
    cases loadSettings host invocation.settings with
    | error e => exact .pure _
    | ok file =>
      apply (asks_absolute root hdirectory).bind
      cases absolute host root with
      | error e => exact .pure _
      | ok made => exact .pure _

lemma asks_resolve_untrusted (env : Environment) (ht : p.request.trusted = false)
    (h : allowed (.status p.config.bundledPath)) :
    Asks allowed ((resolve host.observed env .log p).run {})
      ((resolve host env .log p).run {}) := by
  -- all but one question is settled: notes and events stay in the trace
  simp only [resolve, Probe.resolve, ht, Bool.false_eq_true, if_false, Probe.resolveUntrusted,
    Probe.lookupBundled, StateT.run_bind, Trace.run_probe_log, Trace.run_probe_note,
    Trace.run_probe_isPresent, bind_assoc, pure_bind, bind_map_left]
  apply (Asks.isPresent h).bind
  cases host.isPresent p.config.bundledPath with
  | true =>
    simp only [if_true, Probe.select, StateT.run_bind, StateT.run_pure, Trace.run_probe_note,
      Trace.run_log, pure_bind]
    exact .pure _
  | false =>
    simp only [Bool.false_eq_true, if_false, StateT.run_bind, StateT.run_pure,
      Trace.run_probe_note, pure_bind]
    exact .pure _

lemma asks_perform (env : Environment) (filter : LogFilter) (hdirectory : allowed .workingDirectory)
    (hread : ∀ path, invocation.settings = some path → allowed (.read path))
    (hplan : ∀ p, plan host invocation = .ok p →
      p.request.trusted = false ∧ allowed (.status p.config.bundledPath)) :
    Asks allowed (perform host.observed env filter invocation)
      (perform host env filter invocation) := by
  apply (asks_plan hdirectory hread).bind
  cases hp : plan host invocation with
  | error e => exact .pure _
  | ok p =>
    obtain ⟨ht, hbundled⟩ := hplan p hp
    dsimp only
    cases invocation.command.getD .resolve with
    | candidates =>
      have hreport : Asks allowed (report host.observed p) (report host p) :=
        (Asks.isPresent hbundled).bind (.pure _)
      exact hreport.bind (.pure _)
    | resolve =>
      apply (asks_resolve_untrusted env ht hbundled).bind
      cases (resolve host env .log p).run {} with
      | mk outcome trace =>
        cases outcome with
        | ok resolution => exact .pure _
        | error e => exact .pure _

def Plans (host : Host Id) (env : Environment) (words : List Bytes) (command : Command)
    (p : Plan) : Prop :=
  ∃ filled invocation, EnvironmentFile.load? host env = some filled ∧
    CommandLine.read filled words = .ok invocation ∧ ¬LogFilter.Cut filled ∧
    invocation.command.getD .resolve = command ∧ plan host invocation = .ok p

/-- What a run may ask without looking at a search path or at a configured path: where it is, where
the environment file is and what it says, what the settings say, and whether the bundled executable
is there. -/
inductive Permitted (host : Host Id) (env : Environment) (words : List Bytes) : Query → Prop
  | workingDirectory : Permitted host env words .workingDirectory
  | statusEnvironmentFile {start directory : Path} : host.workingDirectory = .ok start →
      directory ∈ start.ancestors →
      Permitted host env words (.status (directory.join EnvironmentFile.fileName))
  | readEnvironmentFile {file : Path} : EnvironmentFile.find host = some file →
      Permitted host env words (.read file)
  | readSettings {filled : Environment} {invocation : Invocation} {path : Path} :
      EnvironmentFile.load? host env = some filled →
      CommandLine.read filled words = .ok invocation → invocation.settings = some path →
      Permitted host env words (.read path)
  | statusBundled {command : Command} {p : Plan} : Plans host env words command p →
      Permitted host env words (.status p.config.bundledPath)

lemma asks_run_untrusted {env : Environment} {words : List Bytes}
    (h : ∀ command p, Plans host env words command p → p.request.trusted = false) :
    Asks (Permitted host env words) (run host.observed env words) (run host env words) := by
  have hload : Asks (Permitted host env words) (EnvironmentFile.load? host.observed env)
      (EnvironmentFile.load? host env) :=
    EnvironmentFile.asks_load? env .workingDirectory
      (fun _ hstart _ hdirectory => .statusEnvironmentFile hstart hdirectory)
      fun _ hfile => .readEnvironmentFile hfile
  apply hload.bind
  cases hl : EnvironmentFile.load? host env with
  | none => exact .pure _
  | some filled =>
    dsimp only [interpret]
    cases hr : CommandLine.read filled words with
    | error stop => exact .pure _
    | ok invocation =>
      dsimp only
      cases hf : LogFilter.ofEnvironment? filled invocation.verbose with
      | none => exact .pure _
      | some filter =>
        have huncut : ¬LogFilter.Cut filled := by
          rw [← LogFilter.ofEnvironment?_eq_none_iff, hf]
          exact Option.some_ne_none filter
        apply asks_perform filled filter .workingDirectory
        · intro path hpath
          exact .readSettings hl hr hpath
        · intro p hp
          have hplans : Plans host env words (invocation.command.getD .resolve) p :=
            ⟨filled, invocation, hl, hr, huncut, rfl, hp⟩
          exact ⟨h _ p hplans, .statusBundled hplans⟩

end Program

end Locator
