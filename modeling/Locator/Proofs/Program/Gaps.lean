import Locator.Proofs.EnvironmentFile.Assignments
import Locator.Proofs.EnvironmentFile.Nearest
import Locator.Proofs.Program.ExitCode

namespace Locator.Program

open EnvironmentFile (load? Supplies Unfit Filled)

variable {host : Host Id} {env filled : Environment} {words : List Bytes}

lemma run_of_load_none (h : load? host env = none) : run host env words = aborted := by
  rw [run, h]
  rfl

/-- The working directory is `/a/b`, in which `.env` is a directory. There are environment files in
`/a` and at the root. -/
def nested (content : Bytes) : World where
  tree := ⟨[([[0x61]], .directory), ([[0x61], [0x62]], .directory),
    ([[0x61], [0x62], Utf8.encode ".env"], .directory),
    ([[0x61], Utf8.encode ".env"], .file 0o644 content),
    ([Utf8.encode ".env"], .file 0o644 (Utf8.encode "JARL_EXECUTABLE_PATH=far\n"))]⟩
  cwd := [[0x61], [0x62]]

lemma supplies_nested (content : Bytes) :
    Supplies (nested content).host (EnvironmentFile.assignments content) := by
  have hfind : EnvironmentFile.find (nested content).host = some (.ofString "/a/.env") := by
    with_unfolding_all rfl
  have hread : (nested content).host.read (.ofString "/a/.env") = .ok content := rfl
  exact .file (EnvironmentFile.find_eq_some_iff.mp hfind) hread

def repeating : Bytes :=
  Utf8.encode ("JARL_EXTENSION_ROOT=/$\x7bHOME\x7d/first\nexport JARL_EXTENSION_ROOT=/second\n" ++
    "JARL_EXECUTABLE_STRATEGY=path\n=\nJARL_EXECUTABLE_PATH=late\n")

lemma visible_candidates {root : Path} {invocation : Invocation}
    (hread : CommandLine.read env words = .ok invocation) (huncut : ¬LogFilter.Cut env)
    (hcommand : invocation.command = some .candidates)
    (hroot : invocation.extensionRoot = some root) (hsettings : invocation.settings = none)
    (habsolute : root.isAbsolute = true) :
    visible (interpret host env words) =
      (0, (report host ⟨⟨root, .current⟩,
        (mergeSettings invocation {}).toRequest invocation.trusted⟩).text ++ "\n") := by
  have hmade : absolute host root = .ok root := (absolute_eq host root).trans (if_pos habsolute)
  have hloaded : loadSettings host invocation.settings = .ok {} := by
    rw [hsettings]
    rfl
  rw [visible_interpret hread huncut, shown, plan_of_stages hroot hloaded hmade]
  dsimp only
  rw [hcommand]
  rfl

def moving : Bytes := Utf8.encode "JARL_EXTENSION_ROOT=/b\n"

end Locator.Program
