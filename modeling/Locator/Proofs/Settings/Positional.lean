import Locator.Proofs.Json.Lists
import Locator.Proofs.Settings.Format

/-! The two keys in order give each value of a list its key. -/

namespace Locator.Settings

open Json

inductive Positional : List (List Char) → Settings → Prop
  | none : Positional [] {}
  | strategy {a : List Char} {strategy : StrategySetting} : StrategyText a strategy →
      Positional [a] ⟨strategy, .none⟩
  | both {a b : List Char} {strategy : StrategySetting} {path? : Option String} :
      StrategyText a strategy → NullOrQuotes b path? → Positional [a, b] ⟨strategy, path?⟩

def keyed (vs : List (List Char)) : List Entry :=
  List.zipWith Entry.mk [strategyKey, executablePathKey] vs

variable {vs : List (List Char)} {a c r t w : List Char} {s : Settings}

lemma Positional.length_le (h : Positional vs s) : vs.length ≤ 2 := by
  cases h <;> simp

lemma describes_keyed (h : vs.length ≤ 2) : Describes (keyed vs) s ↔ Positional vs s := by
  rw [describes_iff]
  match vs with
  | [] =>
    constructor
    · rintro ⟨seen, hseen, rfl⟩
      obtain rfl := settled_nil.mp hseen
      exact .none
    · rintro ⟨⟩
      exact ⟨{}, settled_nil.mpr rfl, rfl⟩
  | [a] =>
    constructor
    · rintro ⟨seen, hseen, rfl⟩
      obtain ⟨-, strategy, ha, rfl⟩ := settled_strategy.mp hseen
      exact .strategy ha
    · rintro (_ | ha)
      exact ⟨_, settled_strategy.mpr ⟨rfl, _, ha, rfl⟩, rfl⟩
  | [a, b] =>
    constructor
    · rintro ⟨seen, hseen, rfl⟩
      obtain ⟨between, hfirst, hsecond⟩ := settled_cons.mp hseen
      obtain ⟨-, strategy, ha, rfl⟩ := settled_strategy.mp hfirst
      obtain ⟨-, path?, hb, rfl⟩ := settled_path.mp hsecond
      exact .both ha hb
    · rintro (_ | _ | @⟨_, _, strategy, path?, ha, hb⟩)
      refine ⟨⟨some strategy, some path?⟩, settled_cons.mpr ⟨⟨some strategy, none⟩, ?_, ?_⟩, rfl⟩
      · exact settled_strategy.mpr ⟨rfl, strategy, ha, rfl⟩
      · exact settled_path.mpr ⟨rfl, path?, hb, rfl⟩
  | _ :: _ :: _ :: _ => simp at h

lemma strategyText_of_readStrategy {strategy : StrategySetting} (ha : Value a)
    (h : readStrategy (a ++ r) = .ok (strategy, t)) : StrategyText a strategy ∧ t = r := by
  obtain ⟨⟨raw, u⟩, hraw, hp⟩ := map_eq_ok.mp h
  cases hp
  obtain ⟨hquotes, rfl⟩ := quotes_of_readText ha hraw
  exact ⟨⟨raw, hquotes, rfl⟩, rfl⟩

lemma positional_of_readList (hc : Contents .list (vs.map (Member.mk [])) c)
    (h : readList (c ++ ']' :: r) = .ok (s, t)) : Positional vs s ∧ t = r := by
  obtain ⟨⟨hasStrategy, t₁⟩, hfirst, h⟩ := bind_eq_ok.mp h
  cases vs with
  | nil =>
    rw [hc.nextElement_nil] at hfirst
    cases hfirst
    cases h
    exact ⟨.none, rfl⟩
  | cons a vs =>
    obtain ⟨u, ha, hu, hnext⟩ := hc.nextElement_cons
    rw [hnext] at hfirst
    cases hfirst
    obtain ⟨⟨strategy, t₂⟩, hstrategy, h⟩ := bind_eq_ok.mp h
    obtain ⟨hs, rfl⟩ := strategyText_of_readStrategy ha hstrategy
    obtain ⟨⟨hasPath, t₃⟩, hsecond, h⟩ := bind_eq_ok.mp h
    cases vs with
    | nil =>
      rw [hu.nextElement_nil] at hsecond
      cases hsecond
      cases h
      exact ⟨.strategy hs, rfl⟩
    | cons b vs =>
      obtain ⟨u', hb, hu', hnext'⟩ := hu.nextElement_cons
      rw [hnext'] at hsecond
      cases hsecond
      obtain ⟨⟨path?, t₄⟩, hpath, h⟩ := bind_eq_ok.mp h
      obtain ⟨hp, rfl⟩ := nullOrQuotes_of_readText? hb hpath
      obtain ⟨t₅, hend, h⟩ := bind_eq_ok.mp h
      cases h
      cases vs with
      | nil =>
        rw [hu'.endList_nil] at hend
        cases hend
        exact ⟨.both hs hp, rfl⟩
      | cons d vs =>
        obtain ⟨e, he⟩ := hu'.endList_cons (']' :: r)
        rw [he] at hend
        cases hend

lemma readList_of_positional (hc : Contents .list (vs.map (Member.mk [])) c)
    (h : Positional vs s) (r : List Char) : readList (c ++ ']' :: r) = .ok (s, r) := by
  cases h with
  | none =>
    rw [readList, hc.nextElement_nil]
    rfl
  | strategy hs =>
    obtain ⟨u, -, hu, hnext⟩ := hc.nextElement_cons
    have hread := readStrategy_complete .nil hs (u ++ ']' :: r)
    rw [List.nil_append] at hread
    simp only [readList, hnext, hread, hu.nextElement_nil, bind, Except.bind]
    rfl
  | both hs hp =>
    obtain ⟨u, -, hu, hnext⟩ := hc.nextElement_cons
    obtain ⟨u', -, hu', hnext'⟩ := hu.nextElement_cons
    have hread := readStrategy_complete .nil hs (u ++ ']' :: r)
    have hread' := readText?_complete .nil hp (u' ++ ']' :: r)
    rw [List.nil_append] at hread hread'
    simp only [readList, hnext, hread, hnext', hread', hu'.endList_nil, bind, Except.bind]
    rfl

lemma read_list (hw : Blanks w) (r : List Char) : read (w ++ '[' :: r) = readList r := by
  simp [read, skipBlank_complete hw (c := '[') rfl]

lemma ofJson_iff_of_holdsList {text : String} (h : HoldsList text.toList vs) :
    ofJson text = .ok s ↔ Positional vs s := by
  obtain ⟨w₁, c, w₂, hw₁, hc, hw₂, htext⟩ := h
  rw [ofJson, ofFile_eq_ok, htext, read_list hw₁]
  constructor
  · rintro ⟨r, hr, -⟩
    exact (positional_of_readList hc hr).1
  · intro hs
    exact ⟨w₂, readList_of_positional hc hs w₂, hw₂⟩

/-- A list of at most two values is read if and only if the object that has them under the two keys
is, and as the same settings. A longer list is rejected, whatever its values. -/
theorem list_agrees_with_object (list : String) (vs : List (List Char))
    (hlist : HoldsList list.toList vs) :
    (vs.length ≤ 2 → ∀ object : String, Holds object.toList (keyed vs) →
      ∀ s, ofJson list = .ok s ↔ ofJson object = .ok s) ∧
    (2 < vs.length → ∃ e, ofJson list = .error e) := by
  constructor
  · intro hlength object hobject s
    rw [ofJson_iff_of_holdsList hlist, ofJson_iff_of_holds hobject, describes_keyed hlength]
  · intro hlength
    cases hread : ofJson list with
    | error e => exact ⟨e, rfl⟩
    | ok s =>
      have hshort := ((ofJson_iff_of_holdsList hlist).mp hread).length_le
      omega

theorem list_agrees_with_object_null :
    ofJson "[\"path\" , null]" = .ok ⟨.ofString "path", none⟩ ∧
      ∃ e, ofJson "[null,null,null]" = .error e := by
  have hnull : Value ['n', 'u', 'l', 'l'] := .scalar .null
  have hpath : Quotes ['"', 'p', 'a', 't', 'h', '"'] "path" :=
    ⟨['p', 'a', 't', 'h'], spells_written "path".toList, rfl⟩
  have hspace : Blanks [' '] := by simp [Blanks]
  constructor
  · have hlist : HoldsList "[\"path\" , null]".toList
        [['"', 'p', 'a', 't', 'h', '"'], ['n', 'u', 'l', 'l']] :=
      ⟨[], _, [], .nil, .filled (.more (.element .nil) hpath.value hspace
        (.last (.element hspace) hnull .nil)), .nil, by decide⟩
    have hs := spells_written strategyKey.toList
    have hp := spells_written executablePathKey.toList
    have hobject : Holds
        "\x7b\"jarl.executableStrategy\":\"path\",\"jarl.executablePath\": null\x7d".toList
        (keyed [['"', 'p', 'a', 't', 'h', '"'], ['n', 'u', 'l', 'l']]) :=
      ⟨[], _, _, [], .nil, .filled (.more (.member .nil hs.body .nil .nil) hpath.value .nil
        (.last (.member .nil hp.body .nil hspace) hnull .nil)), .nil,
        .cons ⟨hs, rfl⟩ (.cons ⟨hp, rfl⟩ .nil), by decide⟩
    apply ((list_agrees_with_object _ _ hlist).1 (by decide) _ hobject _).mpr
    exact ofJson_of_holds hobject
      ((describes_keyed (by decide)).mpr (.both ⟨"path", hpath, rfl⟩ .null))
  · have hlist : HoldsList "[null,null,null]".toList
        [['n', 'u', 'l', 'l'], ['n', 'u', 'l', 'l'], ['n', 'u', 'l', 'l']] :=
      ⟨[], _, [], .nil, .filled (.more (.element .nil) hnull .nil
        (.more (.element .nil) hnull .nil (.last (.element .nil) hnull .nil))), .nil, by decide⟩
    exact (list_agrees_with_object _ _ hlist).2 (by decide)

end Locator.Settings
