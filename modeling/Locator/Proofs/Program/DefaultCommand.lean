import Locator.Proofs.CommandLine.DefaultCommand
import Locator.Proofs.Program.AbsolutePath

namespace Locator.Program

open CommandLine (Readable hyphen)

variable (host : Host Id) {env : Environment} {words : List Bytes} {invocation : Invocation}

lemma perform_resolve (filter : LogFilter) (hnone : invocation.command = none) :
    perform host env filter { invocation with command := some .resolve } =
      perform host env filter invocation := by
  obtain ⟨root, trusted, strategy, path, settings, verbose, command⟩ := invocation
  obtain rfl : command = none := hnone
  rfl

lemma interpret_resolve (hread : CommandLine.read env words = .ok invocation)
    (hnone : invocation.command = none) (hwords : [hyphen, hyphen] ∉ words)
    (hreadable : Readable env) :
    interpret host env (words ++ [Utf8.encode Command.resolve.name]) =
      interpret host env words := by
  obtain ⟨own, hown⟩ := CommandLine.inherited_iff_readable.mpr hreadable
  have hnamed : CommandLine.read env (words ++ [Utf8.encode Command.resolve.name]) =
      .ok { invocation with command := some .resolve } := by
    rw [CommandLine.read_append_command hread hnone hwords, hown]
    rfl
  rw [interpret_eq, interpret_eq, hnamed, hread]
  dsimp only
  cases LogFilter.ofEnvironment? env invocation.verbose with
  | none => rfl
  | some filter => exact perform_resolve host filter hnone

lemma interpret_resolve_unreadable (hread : CommandLine.read env words = .ok invocation)
    (hnone : invocation.command = none) (hwords : [hyphen, hyphen] ∉ words)
    (hreadable : ¬Readable env) :
    ∃ e, interpret host env (words ++ [Utf8.encode Command.resolve.name]) =
      stopped env (.usage e) := by
  have hnamed := CommandLine.read_append_command hread hnone hwords .resolve
  cases hown : ({} : CommandLine.Options).inherited env with
  | ok own => exact absurd (CommandLine.inherited_iff_readable.mp ⟨own, hown⟩) hreadable
  | error e =>
    rw [hown] at hnamed
    refine ⟨e, ?_⟩
    rw [interpret_eq, hnamed]
    rfl

/-- For words that are options and nothing else, putting the command to resolve after them changes
nothing exactly when the variables that stand in for options can be read. Else the run with the
command ends as one whose words are wrong. -/
theorem resolve_is_default_command (host : Host Id) (env filled : Environment)
    (words : List Bytes) (invocation : Invocation)
    (hload : EnvironmentFile.load? host env = some filled)
    (hread : CommandLine.read filled words = .ok invocation)
    (hnone : invocation.command = none) (hwords : [hyphen, hyphen] ∉ words) :
    let plain := run host env words
    let named := run host env (words ++ [Utf8.encode Command.resolve.name])
    (named = plain ↔ Readable filled) ∧
      (¬Readable filled → plain.exitCode ≠ 2 ∧ named.exitCode = 2 ∧ named.stdout = "") := by
  intro plain named
  have hplain : plain = interpret host filled words := run_of_load hload words
  have hnamed : named = interpret host filled (words ++ [Utf8.encode Command.resolve.name]) :=
    run_of_load hload _
  have haccepted : plain.exitCode ≠ 2 := by
    rw [hplain, Ne, exitCode_eq_usage_iff, hread]
    nofun
  have hrefused (hreadable : ¬Readable filled) : named.exitCode = 2 ∧ named.stdout = "" := by
    obtain ⟨e, hstopped⟩ := interpret_resolve_unreadable host hread hnone hwords hreadable
    rw [hnamed, hstopped]
    exact ⟨rfl, rfl⟩
  refine ⟨⟨?_, ?_⟩, fun hreadable => ⟨haccepted, hrefused hreadable⟩⟩
  · intro hsame
    by_contra hreadable
    apply haccepted
    rw [← hsame]
    exact (hrefused hreadable).1
  · intro hreadable
    rw [hnamed, hplain]
    exact interpret_resolve host hread hnone hwords hreadable

def cautious : List Bytes := [Utf8.encode "--extension-root=/x", Utf8.encode "--trusted=no"]

def answering (answer : String) : Environment :=
  { entries := [("JARL_WORKSPACE_TRUSTED", Utf8.encode answer)] }

theorem resolve_is_default_command_answered :
    run World.sample.host (answering "Yes") (cautious ++ [Utf8.encode "resolve"]) =
      run World.sample.host (answering "Yes") cautious := by
  have hread : CommandLine.read (answering "Yes") cautious =
      .ok { extensionRoot := some (.ofString "/x") } := by decide +kernel
  obtain ⟨hiff, -⟩ := resolve_is_default_command World.sample.host (answering "Yes") _ cautious _
    (World.load?_sample _) hread rfl (by decide)
  apply hiff.mpr
  refine ⟨by decide, ?_, ?_, ?_⟩
  · rintro raw ⟨⟩
    exact ⟨true, by decide +kernel⟩
  · rintro raw ⟨⟩
  · rintro raw ⟨⟩

/-- A variable that says neither yes nor no does not matter to words that say it themselves, until
the command follows them. -/
theorem command_exposes_overridden_variable :
    let env := answering "maybe"
    visible (run World.sample.host env cautious) = (0, "/x/bundled/bin/jarl\n") ∧
      (run World.sample.host env (cautious ++ [Utf8.encode "resolve"])).exitCode = 2 := by
  intro env
  let p : Plan := ⟨⟨.ofString "/x", .current⟩, ⟨false, default, none⟩⟩
  have hload := World.load?_sample env
  have hplan : plan World.sample.host { extensionRoot := some (.ofString "/x") } = .ok p := rfl
  have hfinds : Finds World.sample.host env cautious env p ⟨p.config.bundledPath, .bundled⟩ :=
    finds_bundled hload (by decide +kernel) (LogFilter.not_cut_of_unset rfl) rfl hplan rfl
      (show (_ : Bool) = true by decide +kernel)
  have hdisplay : p.config.bundledPath.display = "/x/bundled/bin/jarl" := by decide +kernel
  have hnamed : CommandLine.read env (cautious ++ [Utf8.encode "resolve"]) =
      .error (.usage .notSwitch) := by decide +kernel
  refine ⟨?_, ?_⟩
  · rw [visible_of_finds hfinds, hdisplay]
    rfl
  · rw [run_of_load hload, interpret_eq, hnamed]
    rfl

end Locator.Program
