import Locator.Json.Structure
import Locator.Settings

/-! An object with the two keys, or a list with the two values in that order. -/

namespace Locator.Settings

open Json

def readStrategy (s : List Char) : Except Fault (StrategySetting × List Char) :=
  (readText s).map fun (raw, r) => (.ofString raw, r)

structure Seen where
  strategy : Option StrategySetting := none
  executablePath : Option (Option String) := none

def Seen.settings (seen : Seen) : Settings :=
  ⟨seen.strategy.getD default, seen.executablePath.getD none⟩

/-- A second occurrence is reported where the object closes, if it closes at once. -/
def duplicate (key : String) (s : List Char) : Fault :=
  .before (leaveObject s) (.duplicateField key)

def readMember (seen : Seen) (key : String) (s : List Char) :
    Except Fault (Seen × List Char) :=
  if key = strategyKey then
    if seen.strategy.isSome then .error (duplicate key s)
    else do
      let (strategy, r) ← readStrategy (← readColon s)
      return ({ seen with strategy := some strategy }, r)
  else if key = executablePathKey then
    if seen.executablePath.isSome then .error (duplicate key s)
    else do
      let (path, r) ← readText? (← readColon s)
      return ({ seen with executablePath := some path }, r)
  else do
    let r ← skipValue (← readColon s)
    return (seen, r)

theorem length_readStrategy {s r : List Char} {strategy : StrategySetting}
    (h : readStrategy s = .ok (strategy, r)) : r.length < s.length := by
  unfold readStrategy at h
  cases hs : readText s with
  | error e => simp [hs, Except.map] at h
  | ok p =>
    obtain ⟨raw, t⟩ := p
    simp only [hs, Except.map, Except.ok.injEq, Prod.mk.injEq] at h
    obtain ⟨-, rfl⟩ := h
    exact length_readText hs

theorem length_readMember {seen seen' : Seen} {key : String} {s r : List Char}
    (h : readMember seen key s = .ok (seen', r)) : r.length < s.length := by
  cases hc : readColon s with
  | error e =>
    simp only [readMember, hc, bind, Except.bind] at h
    repeat' split at h
    all_goals simp at h
  | ok t =>
    have ht := length_readColon hc
    simp only [readMember, hc, bind, Except.bind] at h
    split at h
    · split at h
      · simp at h
      · cases hv : readStrategy t with
        | error e => simp [hv] at h
        | ok p =>
          simp only [hv, pure, Except.pure, Except.ok.injEq, Prod.mk.injEq] at h
          obtain ⟨-, rfl⟩ := h
          exact Nat.lt_trans (length_readStrategy hv) ht
    split at h
    · split at h
      · simp at h
      · cases hv : readText? t with
        | error e => simp [hv] at h
        | ok p =>
          simp only [hv, pure, Except.pure, Except.ok.injEq, Prod.mk.injEq] at h
          obtain ⟨-, rfl⟩ := h
          exact Nat.lt_trans (length_readText? hv) ht
    · cases hv : skipValue t with
      | error e => simp [hv] at h
      | ok u =>
        simp only [hv, pure, Except.pure, Except.ok.injEq, Prod.mk.injEq] at h
        obtain ⟨-, rfl⟩ := h
        exact Nat.lt_of_le_of_lt (length_skipOpen_le hv) ht

def readMembers (seen : Seen) (first : Bool) (s : List Char) : Except Fault (Seen × List Char) :=
  match _h : nextKey first s with
  | .error e => .error e
  | .ok (none, r) => .ok (seen, r)
  | .ok (some key, r) =>
    match _hm : readMember seen key r with
    | .error e => .error e
    | .ok (seen', t) => readMembers seen' false t
termination_by s.length
decreasing_by exact Nat.lt_trans (length_readMember _hm) (length_nextKey _h)

def readObject (s : List Char) : Except Fault (Settings × List Char) := do
  let (seen, r) ← readMembers {} true s
  return (seen.settings, ← endObject r)

def readList (s : List Char) : Except Fault (Settings × List Char) := do
  let (hasStrategy, r) ← nextElement true s
  if !hasStrategy then return ({}, ← endList r)
  let (strategy, r) ← readStrategy r
  let (hasPath, r) ← nextElement false r
  if !hasPath then return (⟨strategy, none⟩, ← endList r)
  let (path, r) ← readText? r
  return (⟨strategy, path⟩, ← endList r)

def read (s : List Char) : Except Fault (Settings × List Char) :=
  match skipBlank s with
  | [] => .error (.past [] .endInValue)
  | c :: r =>
    if c = '[' then readList r
    else if c = '{' then readObject r
    else .error (unexpected "struct ExecutableSettings" (c :: r))

def ofFile (path : Option Path) (text : String) : Except SettingsError Settings :=
  (readDocument read text).mapError fun fault => .parse path (fault.message text)

def ofJson (text : String) : Except SettingsError Settings := ofFile none text

end Locator.Settings
