import Locator.Proofs.Path.Components
import Locator.Proofs.Search.Entries
import Locator.Report

/-! Values are written as they are, so a newline in one of them looks like the end of an entry. -/

namespace Locator

namespace Report

def line (e : String × String) : List Char := (e.1 ++ " = " ++ e.2).toList

/-- The lines that entries take. An entry takes one more than its value holds newlines. -/
def linesOf (es : List (String × String)) : List (List Char) :=
  es.flatMap fun e => (line e).splitOn '\n'

def OneLineBut (key : String) (es : List (String × String)) : Prop :=
  ∀ e ∈ es, e.1 ≠ key → '\n' ∉ e.2.toList

instance (key : String) (es : List (String × String)) : Decidable (OneLineBut key es) :=
  inferInstanceAs (Decidable (∀ e ∈ es, _))

def OneLine (es : List (String × String)) : Prop := ∀ e ∈ es, '\n' ∉ e.2.toList

lemma linesOf_cons (e : String × String) (es : List (String × String)) :
    linesOf (e :: es) = (line e).splitOn '\n' ++ linesOf es := rfl

lemma splitOn_intercalate {ls : List (List Char)} (h : ls ≠ []) :
    (['\n'].intercalate ls).splitOn '\n' = ls.flatMap (List.splitOn '\n') := by
  induction ls with
  | nil => exact absurd rfl h
  | cons l ls ih =>
    cases ls with
    | nil => simp
    | cons m ls =>
      have hsplit := List.splitOn_append_cons_self (a := '\n') l (['\n'].intercalate (m :: ls))
      rw [ih (by simp)] at hsplit
      simpa using hsplit

lemma splitOn_text (r : Report) : r.text.toList.splitOn '\n' = linesOf r.entries := by
  have hne : (r.entries.map line) ≠ [] := by simp [entries]
  have hlines : r.text.toList = ['\n'].intercalate (r.entries.map line) := by
    rw [text, String.toList_intercalate, List.map_map]
    rfl
  rw [hlines, splitOn_intercalate hne, List.flatMap_map]
  rfl

lemma line_injective {key value value' : String} (h : line (key, value) = line (key, value')) :
    value = value' := by
  simp only [line, String.toList_append] at h
  exact String.toList_injective (List.append_cancel_left h)

lemma splitOn_line {key value : String} (hkey : '\n' ∉ key.toList) (hvalue : '\n' ∉ value.toList) :
    (line (key, value)).splitOn '\n' = [line (key, value)] := by
  apply List.splitOn_eq_singleton
  simp [line, hkey, hvalue]

lemma splitOn_injective {s t : List Char} (h : s.splitOn '\n' = t.splitOn '\n') : s = t := by
  have hs : ['\n'].intercalate (s.splitOn '\n') = s := List.intercalate_splitOn '\n'
  rw [h, List.intercalate_splitOn] at hs
  exact hs.symm

lemma length_splitOn (s : List Char) : (s.splitOn '\n').length = s.count '\n' + 1 := by
  induction s with
  | nil => rfl
  | cons c s ih =>
    rw [List.splitOn_cons_eq_if_modifyHead, List.count_cons]
    split <;> simp [ih]

section Entries

variable {key : String} {es es' : List (String × String)}

lemma OneLineBut.oneLine (h : OneLineBut key es) (hkey : key ∉ es.map Prod.fst) : OneLine es := by
  intro e he
  apply h e he
  rintro rfl
  exact hkey (List.mem_map_of_mem he)

lemma linesOf_of_oneLine (hkeys : ∀ k ∈ es.map Prod.fst, '\n' ∉ k.toList) (h : OneLine es) :
    linesOf es = es.map line := by
  induction es with
  | nil => rfl
  | cons e es ih =>
    obtain ⟨k, value⟩ := e
    have hfirst := splitOn_line (hkeys k List.mem_cons_self) (h (k, value) List.mem_cons_self)
    have hrest := ih (fun j hj => hkeys j (List.mem_cons_of_mem _ hj))
      fun e he => h e (List.mem_cons_of_mem _ he)
    rw [linesOf_cons, hfirst, hrest]
    rfl

lemma length_linesOf (hkeys : ∀ k ∈ es.map Prod.fst, '\n' ∉ k.toList) :
    (linesOf es).length = es.length + (es.flatMap fun e => e.2.toList).count '\n' := by
  induction es with
  | nil => rfl
  | cons e es ih =>
    have hkey : e.1.toList.count '\n' = 0 := List.count_eq_zero.mpr (hkeys e.1 List.mem_cons_self)
    have hequals : " = ".toList.count '\n' = 0 := by decide
    have hrest := ih fun j hj => hkeys j (List.mem_cons_of_mem _ hj)
    simp only [linesOf_cons, line, String.toList_append, List.length_append, length_splitOn,
      List.count_append, hkey, hequals, hrest, List.length_cons, List.flatMap_cons]
    omega

lemma length_linesOf_eq_iff (hkeys : ∀ k ∈ es.map Prod.fst, '\n' ∉ k.toList) :
    (linesOf es).length = es.length ↔ OneLine es := by
  rw [length_linesOf hkeys, Nat.add_eq_left, List.count_eq_zero, List.mem_flatMap]
  simp only [not_exists, not_and, OneLine]

lemma entries_eq_of_linesOf_eq (hsame : es.map Prod.fst = es'.map Prod.fst)
    (hnodup : (es.map Prod.fst).Nodup) (hkeys : ∀ k ∈ es.map Prod.fst, '\n' ∉ k.toList)
    (hes : OneLineBut key es) (hes' : OneLineBut key es') (h : linesOf es = linesOf es') :
    es = es' := by
  induction es generalizing es' with
  | nil => rw [List.map_eq_nil_iff.mp hsame.symm]
  | cons e es ih =>
    cases es' with
    | nil => cases hsame
    | cons e' es' =>
      obtain ⟨k, value⟩ := e
      obtain ⟨k', value'⟩ := e'
      obtain ⟨rfl, hrest⟩ : k = k' ∧ es.map Prod.fst = es'.map Prod.fst := List.cons.inj hsame
      obtain ⟨hk, hnodup⟩ := List.nodup_cons.mp hnodup
      have hplain : '\n' ∉ k.toList := hkeys k List.mem_cons_self
      have hkeys : ∀ j ∈ es.map Prod.fst, '\n' ∉ j.toList := fun j hj =>
        hkeys j (List.mem_cons_of_mem _ hj)
      have hlater : OneLineBut key es := fun e he => hes e (List.mem_cons_of_mem _ he)
      have hlater' : OneLineBut key es' := fun e he => hes' e (List.mem_cons_of_mem _ he)
      have htail := ih hrest hnodup hkeys hlater hlater'
      rw [linesOf_cons, linesOf_cons] at h
      by_cases hkey : k = key
      · -- every later entry takes one line, so the lines of this one end at the same place
        subst hkey
        have hlength : (linesOf es).length = (linesOf es').length := by
          rw [(length_linesOf_eq_iff hkeys).mpr (hlater.oneLine hk),
            (length_linesOf_eq_iff (hrest ▸ hkeys)).mpr (hlater'.oneLine (hrest ▸ hk))]
          simpa using congrArg List.length hrest
        obtain ⟨hfirst, hlines⟩ := List.append_inj' h hlength
        rw [line_injective (splitOn_injective hfirst), htail hlines]
      · have hvalue : '\n' ∉ value.toList := hes (k, value) List.mem_cons_self hkey
        have hvalue' : '\n' ∉ value'.toList := hes' (k, value') List.mem_cons_self hkey
        rw [splitOn_line hplain hvalue, splitOn_line hplain hvalue'] at h
        obtain ⟨hfirst, hlines⟩ := List.cons.inj h
        rw [line_injective hfirst, htail hlines]

end Entries

def keys : List String :=
  ["platform", "binary_name", "trusted", strategyKey, executablePathKey, "bundled_path",
    "bundled_exists"]

lemma keys_entries (r : Report) : r.entries.map Prod.fst = keys := rfl

lemma nodup_keys : keys.Nodup := by decide

lemma newline_notMem_of_mem_keys : ∀ k ∈ keys, '\n' ∉ k.toList := by decide +kernel

lemma name_injective {p p' : Platform} (h : p.name = p'.name) : p = p' := by
  cases p with
  | unix =>
    cases p' with
    | unix => rfl
    | windows => exact absurd h (by decide)
  | windows =>
    cases p' with
    | unix => exact absurd h (by decide)
    | windows => rfl

lemma flagText_injective {b b' : Bool} (h : Event.flagText b = Event.flagText b') : b = b' := by
  cases b with
  | false =>
    cases b' with
    | false => rfl
    | true => exact absurd h (by decide)
  | true =>
    cases b' with
    | false => exact absurd h (by decide)
    | true => rfl

def opening (r : Report) : List (String × String) :=
  [("platform", r.platform.name), ("binary_name", r.platform.binaryName),
    ("trusted", Event.flagText r.trusted)]

def middle (r : Report) : List (String × String) :=
  [(strategyKey, r.strategy.toString), (executablePathKey, r.explicitPath.getD "<unset>"),
    ("bundled_path", r.bundledPath.display)]

def closing (r : Report) : List (String × String) :=
  [("bundled_exists", Event.flagText r.bundledExists)]

lemma entries_eq (r : Report) : r.entries = r.opening ++ r.middle ++ r.closing := rfl

lemma newline_notMem_flagText (b : Bool) : '\n' ∉ (Event.flagText b).toList := by
  cases b <;> decide

lemma oneLine_opening (r : Report) : OneLine r.opening := by
  intro e he
  simp only [opening, List.mem_cons, List.not_mem_nil, or_false] at he
  rcases he with rfl | rfl | rfl
  · cases r.platform <;> decide
  · cases r.platform <;> decide
  · exact newline_notMem_flagText r.trusted

lemma oneLine_closing (r : Report) : OneLine r.closing := by
  intro e he
  obtain rfl := List.mem_singleton.mp he
  exact newline_notMem_flagText r.bundledExists

lemma linesOf_entries (r : Report) :
    linesOf r.entries = r.opening.map line ++ linesOf r.middle ++ r.closing.map line := by
  have hkeys : ∀ k ∈ (r.opening ++ r.middle ++ r.closing).map Prod.fst, '\n' ∉ k.toList :=
    newline_notMem_of_mem_keys
  simp only [List.map_append, List.forall_mem_append] at hkeys
  rw [entries_eq, linesOf, List.flatMap_append, List.flatMap_append,
    ← linesOf_of_oneLine hkeys.1.1 r.oneLine_opening,
    ← linesOf_of_oneLine hkeys.2 r.oneLine_closing]
  rfl

lemma linesOf_eq_of_text_eq {r r' : Report} (h : r.text = r'.text) :
    linesOf r.entries = linesOf r'.entries := by
  rw [← splitOn_text, ← splitOn_text, h]

lemma settled_of_text_eq {r r' : Report} (h : r.text = r'.text) :
    r.platform = r'.platform ∧ r.trusted = r'.trusted ∧ r.bundledExists = r'.bundledExists := by
  have hlines := linesOf_eq_of_text_eq h
  rw [linesOf_entries, linesOf_entries] at hlines
  obtain ⟨hfront, hclosing⟩ := List.append_inj' hlines rfl
  obtain ⟨hopening, -⟩ := List.append_inj hfront rfl
  simp only [opening, List.map_cons, List.cons.injEq] at hopening
  obtain ⟨hplatform, -, htrusted, -⟩ := hopening
  obtain ⟨hexists, -⟩ := List.cons.inj hclosing
  exact ⟨name_injective (line_injective hplatform), flagText_injective (line_injective htrusted),
    flagText_injective (line_injective hexists)⟩

lemma entries_eq_of_text_eq {r r' : Report} {key : String} (hr : OneLineBut key r.entries)
    (hr' : OneLineBut key r'.entries) (h : r.text = r'.text) : r.entries = r'.entries := by
  have hsame := (keys_entries r).trans (keys_entries r').symm
  have hnodup : (r.entries.map Prod.fst).Nodup := nodup_keys
  exact entries_eq_of_linesOf_eq hsame hnodup newline_notMem_of_mem_keys hr hr'
    (linesOf_eq_of_text_eq h)

lemma eq_of_getD_eq {shown : String} {path path' : Option String}
    (h : path.getD shown = path'.getD shown) (hset : path ≠ some shown)
    (hset' : path' ≠ some shown) : path = path' := by
  cases path with
  | none =>
    cases path' with
    | none => rfl
    | some p' => exact absurd (congrArg some h.symm) hset'
  | some p =>
    cases path' with
    | none => exact absurd (congrArg some h) hset
    | some p' => exact congrArg some h

/-- The text of a report tells its platform, its trust and whether the bundled executable exists.
With all values but one on one line it tells the other values as they are shown, where a path that
is not set is shown as `<unset>`. Its lines are those of the seven entries, which take one each
exactly when no value holds a newline. -/
theorem text_tells_entries (r r' : Report) :
    (r.text = r'.text →
      r.platform = r'.platform ∧ r.trusted = r'.trusted ∧ r.bundledExists = r'.bundledExists) ∧
    (∀ key, OneLineBut key r.entries → OneLineBut key r'.entries → r.text = r'.text →
      r.strategy.toString = r'.strategy.toString ∧
      r.explicitPath.getD "<unset>" = r'.explicitPath.getD "<unset>" ∧
      (r.explicitPath ≠ some "<unset>" → r'.explicitPath ≠ some "<unset>" →
        r.explicitPath = r'.explicitPath) ∧
      r.bundledPath.display = r'.bundledPath.display) ∧
    r.entries.map Prod.fst = keys ∧
    r.text.toList.splitOn '\n' = linesOf r.entries ∧
    ((r.text.toList.splitOn '\n').length = keys.length ↔ OneLine r.entries) ∧
    (OneLine r.entries → r.text.toList.splitOn '\n' = r.entries.map line) := by
  refine ⟨settled_of_text_eq, ?_, keys_entries r, splitOn_text r, ?_, ?_⟩
  · intro key hr hr' h
    have hentries := entries_eq_of_text_eq hr hr' h
    simp only [entries, List.cons.injEq, Prod.mk.injEq, true_and, and_true] at hentries
    obtain ⟨-, -, -, hstrategy, hpath, hbundled, -⟩ := hentries
    exact ⟨hstrategy, hpath, eq_of_getD_eq hpath, hbundled⟩
  · rw [splitOn_text]
    exact length_linesOf_eq_iff newline_notMem_of_mem_keys
  · intro hone
    rw [splitOn_text]
    exact linesOf_of_oneLine newline_notMem_of_mem_keys hone

-- The bundled paths differ in a byte that spells no character, and both paths that are set hold a
-- newline.
theorem text_tells_path_with_newline :
    let r : Report := ⟨.unix, true, .known .path, some "a\nb", ⟨[0xff]⟩, true⟩
    let r' : Report := ⟨.unix, true, .unrecognized "path", some "a\nb", ⟨[0xfe]⟩, true⟩
    r.text = r'.text ∧ r.strategy.toString = r'.strategy.toString ∧
      r.explicitPath = r'.explicitPath ∧ r.bundledPath.display = r'.bundledPath.display := by
  intro r r'
  have hdisplay : (⟨[0xff]⟩ : Path).display = (⟨[0xfe]⟩ : Path).display := by decide +kernel
  let shown (path : String) : String :=
    "\n".intercalate ["platform = " ++ "unix", "binary_name = " ++ "jarl", "trusted = " ++ "true",
      "jarl.executableStrategy = " ++ "path", "jarl.executablePath = " ++ "a\nb",
      "bundled_path = " ++ path, "bundled_exists = " ++ "true"]
  have htext : r.text = r'.text := congrArg shown hdisplay
  have hr : OneLineBut executablePathKey r.entries := by decide +kernel
  have hr' : OneLineBut executablePathKey r'.entries := by decide +kernel
  have htold := (text_tells_entries r r').2.1 executablePathKey hr hr' htext
  exact ⟨htext, htold.1, htold.2.2.1 (by decide) (by decide), htold.2.2.2⟩

-- A path that is set imitates one that is not, and newlines under two keys move text from one
-- value into the other.
theorem text_imitated :
    (let r : Report := ⟨.unix, true, .known .path, none, ⟨[]⟩, true⟩
     let r' : Report := ⟨.unix, true, .known .path, some "<unset>", ⟨[]⟩, true⟩
     r.text = r'.text ∧ r.explicitPath ≠ r'.explicitPath) ∧
    (let r : Report :=
      ⟨.unix, true, .unrecognized "a", some "b\njarl.executablePath = c", ⟨[]⟩, true⟩
     let r' : Report :=
      ⟨.unix, true, .unrecognized "a\njarl.executablePath = b", some "c", ⟨[]⟩, true⟩
     r.text = r'.text ∧ r.strategy.toString ≠ r'.strategy.toString ∧
       r.explicitPath ≠ r'.explicitPath ∧ (r.text.toList.splitOn '\n').length = 8) := by
  refine ⟨⟨rfl, by decide⟩, ?_, by decide, by decide, ?_⟩
  · decide +kernel
  · decide +kernel

end Report

end Locator
