import Locator.Path

namespace Locator

def superuserHome : { home : Path // home.bytes ≠ [] } := ⟨.ofString "/root", by decide⟩

structure Environment where
  entries : List (String × Bytes) := []
  /-- The home directory that the machine has on record for the user. -/
  userHome : { home : Path // home.bytes ≠ [] } := superuserHome
deriving DecidableEq, Repr

namespace Environment

def get? (env : Environment) (name : String) : Option Bytes := env.entries.lookup name

def text? (env : Environment) (name : String) : Option String :=
  (env.get? name).bind Utf8.decode?

def equals : UInt8 := 0x3d

def record (entry : String × Bytes) : Bytes := Utf8.encode entry.1 ++ equals :: entry.2

/-- What follows a name and an equals sign in a variable's record. The name may reach into the
value, up to an equals sign there. -/
def reference? (env : Environment) (name : String) : Option String :=
  let start := Utf8.encode name ++ [equals]
  (env.entries.find? fun entry => start.isPrefixOf (record entry)).bind fun entry =>
    Utf8.decode? ((record entry).drop start.length)

def unset (env : Environment) (name : String) : Environment :=
  { env with entries := env.entries.filter (·.1 ≠ name) }

def set (env : Environment) (name : String) (value : Bytes) : Environment :=
  { env with entries := (name, value) :: (env.unset name).entries }

theorem lookup_filter_ne {β : Type} (l : List (String × β)) {a b : String} (h : b ≠ a) :
    (l.filter (·.1 ≠ a)).lookup b = l.lookup b := by
  induction l with
  | nil => rfl
  | cons p l ih =>
    obtain ⟨k, v⟩ := p
    by_cases hk : k = a
    · have hb : (b == k) = false := by simp [hk, h]
      rw [List.filter_cons_of_neg (by simp [hk]), ih, List.lookup_cons, hb]
    · rw [List.filter_cons_of_pos (by simp [hk]), List.lookup_cons, List.lookup_cons, ih]

@[simp] theorem get?_set_self (env : Environment) (name : String) (value : Bytes) :
    (env.set name value).get? name = some value := by
  simp [get?, set]

theorem get?_set_of_ne (env : Environment) {name other : String} (value : Bytes)
    (h : other ≠ name) : (env.set name value).get? other = env.get? other := by
  have hb : (other == name) = false := by simp [h]
  rw [get?, set, List.lookup_cons, hb]
  exact lookup_filter_ne env.entries h

def home (env : Environment) : Path :=
  (((env.get? "HOME").filter (· ≠ [])).map Path.mk).getD env.userHome

end Environment

end Locator
