import Locator.Proofs.Json.Places
import Locator.Proofs.Settings.Format
import Locator.Settings.File

namespace Locator.Settings

open Json

lemma inside_readStrategy (s : List Char) : Inside Prod.snd s (readStrategy s) :=
  (inside_readText s).map fun _ => rfl

lemma inside_readMember (seen : Seen) (key : String) (s : List Char) :
    Inside Prod.snd s (readMember seen key s) := by
  have hduplicate : (duplicate key s).left ≤ byteSize s :=
    byteSize_le_of_suffix (leaveObject_suffix s)
  rw [readMember]
  split
  · split
    · exact .fault hduplicate
    · refine (inside_readColon s).bind fun r => ?_
      refine (inside_readStrategy r).bind ?_
      rintro ⟨strategy, t⟩
      exact .result List.suffix_rfl
  split
  · split
    · exact .fault hduplicate
    · refine (inside_readColon s).bind fun r => ?_
      refine (inside_readText? r).bind ?_
      rintro ⟨path, t⟩
      exact .result List.suffix_rfl
  · refine (inside_readColon s).bind fun r => ?_
    refine (inside_skipOpen [] .value r).bind fun t => ?_
    exact .result List.suffix_rfl

lemma inside_readMembers (seen : Seen) (first : Bool) (s : List Char) :
    Inside Prod.snd s (readMembers seen first s) := by
  fun_induction readMembers seen first s with
  | case1 seen first s e he =>
    have hkey := inside_nextKey first s
    rw [he] at hkey
    exact .fault hkey.left_le
  | case2 seen first s r hr =>
    have hkey := inside_nextKey first s
    rw [hr] at hkey
    exact .result hkey.suffix
  | case3 seen first s key r hr e he =>
    have hkey := inside_nextKey first s
    have hmember := inside_readMember seen key r
    rw [hr] at hkey
    rw [he] at hmember
    exact .fault (hmember.mono hkey.suffix).left_le
  | case4 seen first s key r hr seen' t ht ih =>
    have hkey := inside_nextKey first s
    have hmember := inside_readMember seen key r
    rw [hr] at hkey
    rw [ht] at hmember
    exact ih.mono (hmember.mono hkey.suffix).suffix

lemma inside_readObject (s : List Char) : Inside Prod.snd s (readObject s) := by
  refine (inside_readMembers {} true s).bind ?_
  rintro ⟨seen, r⟩
  refine (inside_endObject r).bind fun t => ?_
  exact .result List.suffix_rfl

lemma inside_closed (settings : Settings) (s : List Char) :
    Inside Prod.snd s ((endList s).bind fun r => .ok (settings, r)) := by
  refine (inside_endList s).bind fun r => ?_
  exact .result List.suffix_rfl

lemma inside_readList (s : List Char) : Inside Prod.snd s (readList s) := by
  refine (inside_nextElement true s).bind ?_
  rintro ⟨_ | _, r⟩
  · exact inside_closed {} r
  refine (inside_readStrategy r).bind ?_
  rintro ⟨strategy, t⟩
  refine (inside_nextElement false t).bind ?_
  rintro ⟨_ | _, u⟩
  · exact inside_closed ⟨strategy, none⟩ u
  refine (inside_readText? u).bind ?_
  rintro ⟨path, v⟩
  exact inside_closed ⟨strategy, path⟩ v

lemma inside_read (s : List Char) : Inside Prod.snd s (read s) := by
  apply Inside.mono (skipBlank_suffix s)
  rw [read]
  cases skipBlank s with
  | nil => exact .past List.suffix_rfl _
  | cons c r =>
    dsimp only
    split
    · exact (inside_readList r).mono (List.suffix_cons c r)
    split
    · exact (inside_readObject r).mono (List.suffix_cons c r)
    · exact .fault (left_unexpected_le _ _)

lemma ofFile_eq_error {path : Option Path} {text : String} {e : SettingsError} :
    ofFile path text = .error e ↔
      ∃ fault, readDocument read text = .error fault ∧ e = .parse path (fault.message text) := by
  rw [ofFile]
  cases readDocument read text <;> simp [eq_comm]

lemma run_load {σ : Type} {host : Host (StateM σ)} {path : Path} {before after : σ} {text : String}
    (h : (host.read path).run before = (.ok (Utf8.encode text), after)) :
    (load host path).run before = (ofFile (some path) text, after) := by
  rw [load, run_bind_of h]
  dsimp only
  rw [Utf8.decode?_eq_some.mpr rfl]
  rfl

/-- A text that is not settings is blamed at a place on it, with nothing left over or missing
between the place and the end. A file that holds the text comes to the same, under its path. -/
theorem parse_error_points_into_text (text : String) :
    (∀ e, ofJson text = .error e → ∃ (fault : Fault) (i : Nat) (place : Place),
      readDocument read text = .error fault ∧ i + fault.left = (Utf8.encode text).length ∧
      Marks (Utf8.encode text) i place ∧
      e = .parse none (fault.reason.text ++ " at line " ++ toString place.line ++ " column " ++
        toString place.column)) ∧
    ∀ {σ : Type} (host : Host (StateM σ)) (path : Path) (before after : σ),
      (host.read path).run before = (.ok (Utf8.encode text), after) →
      (∀ reason, ofJson text = .error (.parse none reason) →
        (load host path).run before = (.error (.parse (some path) reason), after)) ∧
      ∀ s, ofJson text = .ok s → (load host path).run before = (.ok s, after) := by
  constructor
  · intro e he
    obtain ⟨fault, hfault, rfl⟩ := ofFile_eq_error.mp he
    obtain ⟨i, hi, hmarks⟩ := Fault.marks_place (left_le_of_readDocument inside_read hfault)
    exact ⟨fault, i, fault.place text, hfault, hi, hmarks, rfl⟩
  · intro σ host path before after hread
    rw [run_load hread]
    constructor
    · intro reason hreason
      obtain ⟨fault, hfault, hparse⟩ := ofFile_eq_error.mp hreason
      cases hparse
      rw [ofFile_eq_error.mpr ⟨fault, hfault, rfl⟩]
    · intro s hs
      obtain ⟨r, hr⟩ := ofFile_eq_ok.mp hs
      rw [ofFile_eq_ok.mpr ⟨r, hr⟩]

theorem parse_error_points_behind_newline :
    let text := "[\n"
    let reason := "EOF while parsing a list at line 2 column 0"
    let host : Host (StateM Unit) := ⟨pure (.error .notFound), fun _ => pure (.error .notFound),
      fun _ => pure (.ok (Utf8.encode text))⟩
    ofJson text = .error (.parse none reason) ∧
      (∃ i place, Marks (Utf8.encode text) i place ∧ reason = "EOF while parsing a list" ++
        " at line " ++ toString place.line ++ " column " ++ toString place.column) ∧
      (load host (.ofString "/s")).run () =
        (.error (.parse (some (.ofString "/s")) reason), ()) := by
  intro text reason host
  have hfault : readDocument read text = .error ⟨.endInList, 0⟩ := by decide
  have hmessage : Fault.message ⟨.endInList, 0⟩ text = reason := by
    have hplace : Fault.place ⟨.endInList, 0⟩ text = ⟨2, 0⟩ := by decide
    rw [Fault.message, hplace]
    decide
  have hparse : ofJson text = .error (.parse none reason) := by
    rw [← hmessage]
    exact ofFile_eq_error.mpr ⟨_, hfault, rfl⟩
  obtain ⟨hplace, hfile⟩ := parse_error_points_into_text text
  obtain ⟨fault, i, place, hfault', -, hmarks, he⟩ := hplace _ hparse
  rw [hfault] at hfault'
  cases hfault'
  obtain ⟨-, hreason⟩ := SettingsError.parse.inj he
  exact ⟨hparse, ⟨i, place, hmarks, hreason⟩, (hfile host _ () () rfl).1 reason hparse⟩

end Locator.Settings
