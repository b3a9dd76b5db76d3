import Locator.Text.Quoted

namespace Locator

inductive Strategy where
  | bundled
  | environment
  | path
deriving DecidableEq, Repr

namespace Strategy

def all : List Strategy := [.bundled, .environment, .path]

def name : Strategy → String
  | .bundled => "bundled"
  | .environment => "environment"
  | .path => "path"

def inspect : Strategy → String
  | .bundled => "Bundled"
  | .environment => "Environment"
  | .path => "Path"

def ofName? (raw : String) : Option Strategy :=
  all.find? (·.name == raw)

end Strategy

inductive StrategySetting where
  | known (strategy : Strategy)
  | unrecognized (raw : String)
deriving DecidableEq, Repr

namespace StrategySetting

instance : Inhabited StrategySetting := ⟨.known .bundled⟩

def ofString (raw : String) : StrategySetting :=
  match Strategy.ofName? raw with
  | some strategy => .known strategy
  | none => .unrecognized raw

def known? : StrategySetting → Option Strategy
  | .known strategy => some strategy
  | .unrecognized _ => none

def toString : StrategySetting → String
  | .known strategy => strategy.name
  | .unrecognized raw => raw

def inspect : StrategySetting → String
  | .known strategy => "Known(" ++ strategy.inspect ++ ")"
  | .unrecognized raw => "Unrecognized(" ++ Quoted.ofString raw ++ ")"

end StrategySetting

end Locator
