import Locator.ProgramError
import Locator.Text.Hexadecimal
import Mathlib.Data.List.TakeWhile
import Mathlib.Logic.Function.Basic

namespace Locator.Quoted

def hexNumber (ds : List Char) : Nat :=
  ds.foldl (fun n d => n * 16 + (hexValue? d).getD 0) 0

lemma hexNumber_concat (ds : List Char) (d : Char) :
    hexNumber (ds ++ [d]) = hexNumber ds * 16 + (hexValue? d).getD 0 := by
  simp [hexNumber]

lemma hexValue?_digitChar : ∀ k < 16, hexValue? k.digitChar = some k := by
  decide

lemma hexNumber_toDigits (n : Nat) : hexNumber (Nat.toDigits 16 n) = n := by
  induction n using Nat.strongRecOn with
  | ind n ih =>
    rw [Nat.toDigits_eq_if (by omega)]
    by_cases hn : n < 16
    · rw [if_pos hn]
      simp [hexNumber, hexValue?_digitChar n hn]
    · rw [if_neg hn, hexNumber_concat, ih (n / 16) (by omega),
        hexValue?_digitChar (n % 16) (by omega), Option.getD_some]
      omega

lemma exists_digitChar {n : Nat} {d : Char} (h : d ∈ Nat.toDigits 16 n) :
    ∃ k < 16, d = k.digitChar := by
  induction n using Nat.strongRecOn with
  | ind n ih =>
    rw [Nat.toDigits_eq_if (by omega)] at h
    by_cases hn : n < 16
    · rw [if_pos hn] at h
      exact ⟨n, hn, List.mem_singleton.mp h⟩
    · rw [if_neg hn] at h
      rcases List.mem_append.mp h with h | h
      · exact ih (n / 16) (by omega) h
      · exact ⟨n % 16, by omega, List.mem_singleton.mp h⟩

def unescape : List Char → Option (Char × List Char)
  | '\\' :: '0' :: s => some ('\x00', s)
  | '\\' :: 't' :: s => some ('\t', s)
  | '\\' :: 'r' :: s => some ('\r', s)
  | '\\' :: 'n' :: s => some ('\n', s)
  | '\\' :: '"' :: s => some ('"', s)
  | '\\' :: '\\' :: s => some ('\\', s)
  | '\\' :: 'u' :: '{' :: s =>
    some (Char.ofNat (hexNumber (s.takeWhile (· ≠ '}'))), (s.dropWhile (· ≠ '}')).tail)
  | c :: s => some (c, s)
  | [] => none

lemma unescape_codePoint (c : Char) (s : List Char) :
    unescape (codePoint c ++ s) = some (c, s) := by
  have hdigits : ∀ d ∈ Nat.toDigits 16 c.toNat, decide (d ≠ '}') = true := by
    intro d hd
    obtain ⟨k, hk, rfl⟩ := exists_digitChar hd
    have hne : ∀ k < 16, decide (k.digitChar ≠ '}') = true := by decide
    exact hne k hk
  simp only [codePoint, List.cons_append, List.append_assoc, List.nil_append, unescape]
  rw [List.takeWhile_append_of_pos hdigits, List.dropWhile_append_of_pos hdigits]
  simp [hexNumber_toDigits, Char.ofNat_toNat]

lemma unescape_charText (c : Char) (s : List Char) :
    unescape (charText c ++ s) = some (c, s) := by
  rw [charText]
  -- six characters have an escape of one letter
  iterate 6
    split
    · next hc =>
      subst hc
      rfl
  split
  · exact unescape_codePoint c s
  · next hbackslash _ =>
    simp [unescape, hbackslash]

lemma flatMap_charText_injective :
    Function.Injective fun s : List Char => s.flatMap charText := by
  intro s t h
  dsimp only at h
  induction s generalizing t with
  | nil =>
    cases t with
    | nil => rfl
    | cons d t =>
      have hread := unescape_charText d (t.flatMap charText)
      rw [← List.flatMap_cons, ← h] at hread
      cases hread
  | cons c s ih =>
    have hread := unescape_charText c (s.flatMap charText)
    rw [← List.flatMap_cons, h] at hread
    cases t with
    | nil => cases hread
    | cons d t =>
      rw [List.flatMap_cons, unescape_charText] at hread
      obtain ⟨rfl, hrest⟩ := Prod.mk.inj (Option.some.inj hread)
      rw [ih hrest.symm]

lemma ofString_injective : Function.Injective ofString := by
  intro s t h
  have hchars : ofChars s.toList = ofChars t.toList := String.ofList_injective h
  have hinner := List.append_cancel_right (List.cons.inj hchars).2
  exact String.toList_injective (flatMap_charText_injective hinner)

lemma enclosed_injective (before after : String) :
    Function.Injective fun raw => before ++ ofString raw ++ after := by
  intro raw raw' h
  have hlists := congrArg String.toList h
  simp only [String.toList_append] at hlists
  have hquoted := List.append_cancel_left (List.append_cancel_right hlists)
  exact ofString_injective (String.toList_injective hquoted)

def Visible (c : Char) : Prop := 0x20 ≤ c.toNat ∧ c.toNat ≠ 0x7f

instance : DecidablePred Visible := fun _ => inferInstanceAs (Decidable (_ ∧ _))

lemma visible_of_all {s : List Char} (h : s.all (Visible ·) = true) : ∀ c ∈ s, Visible c := by
  intro c hc
  exact of_decide_eq_true (List.all_eq_true.mp h c hc)

lemma visible_codePoint (c : Char) : ∀ d ∈ codePoint c, Visible d := by
  intro d hd
  simp only [codePoint, List.mem_cons, List.mem_append, List.not_mem_nil, or_false] at hd
  rcases hd with rfl | rfl | rfl | hd | rfl
  · decide
  · decide
  · decide
  · obtain ⟨k, hk, rfl⟩ := exists_digitChar hd
    have hdigit : ∀ k < 16, Visible k.digitChar := by decide
    exact hdigit k hk
  · decide

lemma visible_of_printable {c : Char} (h : CharClass.unprintable.contains c = false) :
    Visible c := by
  have hout (i : Nat × Nat) (hi : i ∈ CharClass.unprintable.intervals) :
      ¬ (i.1 ≤ c.toNat ∧ c.toNat ≤ i.2) := by
    intro hc
    rw [(CharClass.contains_iff _ c).mpr ⟨i, hi, hc⟩] at h
    cases h
  have hlow := hout (0x0, 0x1f) List.mem_cons_self
  have hdelete := hout (0x7f, 0xa0) (List.mem_cons_of_mem _ List.mem_cons_self)
  constructor
  · omega
  · omega

lemma visible_charText (c : Char) : ∀ d ∈ charText c, Visible d := by
  rw [charText]
  iterate 6
    split
    · exact visible_of_all (by decide)
  split
  · exact visible_codePoint c
  · next hplain =>
    intro d hd
    rw [List.mem_singleton.mp hd]
    apply visible_of_printable
    rw [Bool.or_eq_true, not_or] at hplain
    exact Bool.eq_false_iff.mpr hplain.2

lemma visible_ofString (s : String) : ∀ c ∈ (ofString s).toList, Visible c := by
  intro c hc
  simp only [ofString, ofChars, String.toList_ofList, List.mem_cons, List.mem_append,
    List.mem_flatMap, List.not_mem_nil, or_false] at hc
  rcases hc with rfl | ⟨d, -, hd⟩ | rfl
  · decide
  · exact visible_charText d c hd
  · decide

lemma visible_append {s t : String} (hs : ∀ c ∈ s.toList, Visible c)
    (ht : ∀ c ∈ t.toList, Visible c) : ∀ c ∈ (s ++ t).toList, Visible c := by
  intro c hc
  rw [String.toList_append] at hc
  rcases List.mem_append.mp hc with hc | hc
  · exact hs c hc
  · exact ht c hc

end Locator.Quoted

namespace Locator.Failure

/-- The message of an unknown strategy tells the strategy, whatever its name, and neither it nor the
error that ends the program with it holds a control character. -/
theorem unknown_strategy_message_tells_name :
    Function.Injective (fun raw => (unknownStrategy raw).message) ∧
    ∀ raw, (∀ c ∈ (unknownStrategy raw).message.toList, Quoted.Visible c) ∧
      ∀ c ∈ (ProgramError.failure (unknownStrategy raw)).message.toList, Quoted.Visible c := by
  have hopening : ∀ c ∈ "Unknown executable strategy ".toList, Quoted.Visible c :=
    Quoted.visible_of_all (by decide +kernel)
  have hending : ∀ c ∈ "; expected one of: bundled, environment, path".toList, Quoted.Visible c :=
    Quoted.visible_of_all (by decide +kernel)
  have hvisible (raw : String) : ∀ c ∈ (unknownStrategy raw).message.toList, Quoted.Visible c :=
    Quoted.visible_append (Quoted.visible_append hopening (Quoted.visible_ofString raw)) hending
  exact ⟨Quoted.enclosed_injective _ _, fun raw => ⟨hvisible raw, hvisible raw⟩⟩

theorem unknown_strategy_message_tells_newline :
    let message := (unknownStrategy "\n").message
    let printed := (ProgramError.failure (unknownStrategy "\n")).message
    message ≠ (unknownStrategy "\\n").message ∧
    ['\\', 'n'] <:+: message.toList ∧ Quoted.Visible '\\' ∧ '\n' ∉ message.toList ∧
    ['\\', 'n'] <:+: printed.toList ∧ '\n' ∉ printed.toList := by
  intro message printed
  have hinjective := unknown_strategy_message_tells_name.1
  obtain ⟨hmessage, hprinted⟩ := unknown_strategy_message_tells_name.2 "\n"
  have hescaped : ['\\', 'n'] <:+: message.toList := by decide +kernel
  have hnewline : ¬Quoted.Visible '\n' := by decide
  exact ⟨hinjective.ne (by decide), hescaped, hmessage '\\' (hescaped.mem List.mem_cons_self),
    fun h => hnewline (hmessage '\n' h), hescaped, fun h => hnewline (hprinted '\n' h)⟩

end Locator.Failure
