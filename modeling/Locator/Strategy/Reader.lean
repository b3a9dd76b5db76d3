import Locator.Json.Structure
import Locator.Strategy

/-! A variant is written in lower case, whatever name the strategy goes by. -/

namespace Locator

open Json

namespace StrategySetting

def toJson (s : StrategySetting) : String := quote s.toString

def ofJson (text : String) : Except Fault StrategySetting :=
  (readDocument readText text).map ofString

end StrategySetting

namespace Strategy

def variant (s : Strategy) : String := String.ofList (s.inspect.toList.map Char.toLower)

def toJson (s : Strategy) : String := quote s.variant

def ofVariant (name : String) (s : List Char) : Except Fault (Strategy × List Char) :=
  match all.find? (·.variant == name) with
  | some strategy => .ok (strategy, s)
  | none => .error (.before s (.unknownVariant name (all.map variant)))

def readName (s : List Char) : Except Fault (Strategy × List Char) := do
  let (name, r) ← readString s
  ofVariant (String.ofList name) r

def readNull (s : List Char) : Except Fault (List Char) :=
  match skipBlank s with
  | [] => .error (.past [] .endInValue)
  | c :: r =>
    if c = 'n' then readLetters ['u', 'l', 'l'] r else .error (unexpected "unit" (c :: r))

def readTagged (s : List Char) : Except Fault (Strategy × List Char) :=
  match skipBlank s with
  | [] => .error (.past [] .endInObject)
  | c :: r =>
    if c = '"' then do
      let (strategy, r) ← readName r
      let r ← readNull (← readColon r)
      match skipBlank r with
      | [] => .error (.before [] .endInObject)
      | d :: t => if d = '}' then return (strategy, t) else .error (.before (d :: t) .expectedValue)
    else if c = '}' then .error (.past (c :: r) .expectedValue)
    else .error (.past (c :: r) .keyNotString)

def read (s : List Char) : Except Fault (Strategy × List Char) :=
  match skipBlank s with
  | [] => .error (.past [] .endInValue)
  | c :: r =>
    if c = '"' then readName r
    else if c = '{' then readTagged r
    else .error (.past (c :: r) .expectedValue)

def ofJson (text : String) : Except Fault Strategy := readDocument read text

end Strategy

end Locator
