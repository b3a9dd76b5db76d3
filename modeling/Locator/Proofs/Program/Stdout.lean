import Locator.Proofs.Isolation
import Locator.Proofs.Text.Utf8

namespace Locator

namespace Program

variable {σ : Type} {host : Host (StateM σ)} {env : Environment} {words : List Bytes} {s : σ}
  {r : Resolution}

def Resolves (host : Host (StateM σ)) (env : Environment) (words : List Bytes) (s : σ)
    (r : Resolution) : Prop :=
  ∃ filled s₁ invocation p s₂,
    (EnvironmentFile.load? host env).run s = (some filled, s₁) ∧
    CommandLine.read filled words = .ok invocation ∧
    ¬LogFilter.Cut filled ∧
    invocation.command.getD .resolve = .resolve ∧
    (plan host invocation).run s₁ = (.ok p, s₂) ∧
    (((resolve host filled .log p).run {}).run s₂).1.1 = .ok r

lemma run_of_resolves (h : Resolves host env words s r) :
    let output := ((run host env words).run s).1
    output.exitCode = 0 ∧ output.stdout = r.path.display ++ "\n" := by
  obtain ⟨filled, s₁, invocation, p, s₂, hload, hread, huncut, hcommand, hplan, hresolve⟩ := h
  obtain ⟨filter, hfilter⟩ := LogFilter.exists_of_not_cut huncut invocation.verbose
  rw [run_of_plan hload hread hfilter hcommand hplan, run_map]
  cases hr : ((resolve host filled .log p).run {}).run s₂ with
  | mk pair s₃ =>
    obtain ⟨outcome, trace⟩ := pair
    rw [hr] at hresolve
    change outcome = .ok r at hresolve
    rw [hresolve]
    exact ⟨rfl, rfl⟩

def newline : UInt8 := 0x0a

lemma encode_printed (path : Path) :
    Utf8.encode (path.display ++ "\n") = Utf8.encode path.display ++ [newline] :=
  Utf8.encode_append path.display "\n"

/-- What is printed is the path and a newline, byte for byte, exactly when the path spells a text;
and only then is the line without its newline the path that was found. -/
theorem stdout_carries_path_iff_text (h : Resolves host env words s r) :
    let output := ((run host env words).run s).1
    output.exitCode = 0 ∧ output.stdout = r.path.display ++ "\n" ∧
      (Utf8.encode output.stdout = r.path.bytes ++ [newline] ↔
        (Utf8.decode? r.path.bytes).isSome) ∧
      ((⟨(Utf8.encode output.stdout).dropLast⟩ : Path) = r.path ↔
        (Utf8.decode? r.path.bytes).isSome) := by
  intro output
  obtain ⟨hcode, hprinted⟩ := run_of_resolves h
  refine ⟨hcode, hprinted, ?_, ?_⟩
  · rw [hprinted, encode_printed, List.append_left_inj]
    exact Utf8.encode_display
  · rw [hprinted, encode_printed, List.dropLast_concat]
    change Path.mk (Utf8.encode r.path.display) = Path.mk r.path.bytes ↔ _
    rw [Path.mk.injEq]
    exact Utf8.encode_display

lemma resolves_of_reaches {p : Plan} {s' : σ} (h : Reaches host env words s p s')
    (ht : p.request.trusted = false)
    (hpresent : ((host.isPresent p.config.bundledPath).run s').1 = true) :
    Resolves host env words s ⟨p.config.bundledPath, .bundled⟩ := by
  obtain ⟨filled, s₁, invocation, hload, hread, huncut, hcommand, hplan⟩ := h
  refine ⟨filled, s₁, invocation, p, s', hload, hread, huncut, hcommand, hplan, ?_⟩
  rw [outcome_of_untrusted host filled p ht s', hpresent]
  rfl

end Program

def World.bundling (name : Bytes) : World where
  tree := ⟨[([name], .directory), ([name, Utf8.encode "bundled"], .directory),
    ([name, Utf8.encode "bundled", Utf8.encode "bin"], .directory),
    ([name, Utf8.encode "bundled", Utf8.encode "bin", Utf8.encode "jarl"], .file 0o755 [])]⟩

def Environment.rootedAt (root : Path) : Environment :=
  { entries := [("JARL_EXTENSION_ROOT", root.bytes)] }

namespace Program

lemma resolves_accented :
    Resolves (World.bundling (Utf8.encode "é")).host.steady (.rootedAt (.ofString "/é")) [] ()
      ⟨.ofString "/é/bundled/bin/jarl", .bundled⟩ := by
  let p : Plan := ⟨⟨.ofString "/é", .current⟩, ⟨false, default, none⟩⟩
  have hreaches : Reaches (World.bundling (Utf8.encode "é")).host.steady
      (.rootedAt (.ofString "/é")) [] () p () :=
    ⟨.rootedAt (.ofString "/é"), (), { extensionRoot := some (.ofString "/é") },
      by with_unfolding_all rfl, rfl, LogFilter.not_cut_of_unset rfl, rfl, rfl⟩
  have hfound : p.config.bundledPath = .ofString "/é/bundled/bin/jarl" := by decide +kernel
  rw [← hfound]
  exact resolves_of_reaches hreaches rfl (by decide)

theorem stdout_carries_accented_path :
    let host := (World.bundling (Utf8.encode "é")).host.steady
    let output := ((run host (.rootedAt (.ofString "/é")) []).run ()).1
    output.exitCode = 0 ∧
      Utf8.encode output.stdout = Utf8.encode "/é/bundled/bin/jarl" ++ [newline] := by
  intro host output
  obtain ⟨hcode, -, hbytes, -⟩ := stdout_carries_path_iff_text resolves_accented
  exact ⟨hcode, hbytes.mpr (by decide +kernel)⟩

def strayRoot : Path := ⟨[Path.slash, 0xff]⟩

def strayPath : Path := ⟨strayRoot.bytes ++ Utf8.encode "/bundled/bin/jarl"⟩

lemma resolves_stray :
    Resolves (World.bundling [0xff]).host.steady (.rootedAt strayRoot) [] ()
      ⟨strayPath, .bundled⟩ := by
  let p : Plan := ⟨⟨strayRoot, .current⟩, ⟨false, default, none⟩⟩
  have hreaches : Reaches (World.bundling [0xff]).host.steady (.rootedAt strayRoot) [] () p () :=
    ⟨.rootedAt strayRoot, (), { extensionRoot := some strayRoot }, by with_unfolding_all rfl, rfl,
      LogFilter.not_cut_of_unset rfl, rfl, rfl⟩
  have hfound : p.config.bundledPath = strayPath := by decide +kernel
  rw [← hfound]
  exact resolves_of_reaches hreaches rfl (by decide)

theorem stray_byte_not_printed :
    let host := (World.bundling [0xff]).host
    let output := ((run host.steady (.rootedAt strayRoot) []).run ()).1
    Resolves host.steady (.rootedAt strayRoot) [] () ⟨strayPath, .bundled⟩ ∧
      output.stdout = "/\uFFFD/bundled/bin/jarl\n" ∧
      Utf8.encode output.stdout ≠ strayPath.bytes ++ [newline] ∧
      host.isPresent strayPath = true ∧
      host.isPresent ⟨(Utf8.encode output.stdout).dropLast⟩ = false := by
  intro host output
  have hdisplay : strayPath.display = "/\uFFFD/bundled/bin/jarl" := by decide +kernel
  have hprinted : output.stdout = "/\uFFFD/bundled/bin/jarl\n" := by
    rw [(run_of_resolves resolves_stray).2, hdisplay]
    rfl
  rw [hprinted]
  exact ⟨resolves_stray, rfl, by decide +kernel, rfl, rfl⟩

end Program

end Locator
