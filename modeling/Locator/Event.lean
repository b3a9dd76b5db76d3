import Locator.Resolver.Note

namespace Locator

inductive Level where
  | error
  | warn
  | info
  | debug
  | trace
deriving DecidableEq, Repr

namespace Level

def detail : Level → Nat
  | .error => 1
  | .warn => 2
  | .info => 3
  | .debug => 4
  | .trace => 5

def name : Level → String
  | .error => "ERROR"
  | .warn => "WARN"
  | .info => "INFO"
  | .debug => "DEBUG"
  | .trace => "TRACE"

end Level

inductive SearchMiss where
  | notFound
  | nowhereToLook
deriving DecidableEq, Repr

def SearchMiss.message : SearchMiss → String
  | .notFound => "cannot find binary path"
  | .nowhereToLook => "no path to search and provided name is not an absolute path"

inductive Event where
  | resolving (config : Config) (request : Request)
  | note (text : String)
  | searchMissed (name : String) (cause : SearchMiss)
  | searchCancelled (name : String)
  | resolved (resolution : Resolution)
deriving DecidableEq, Repr

namespace Event

def level : Event → Level
  | .resolving .. => .debug
  | .note _ => .info
  | .searchMissed .. => .debug
  | .searchCancelled _ => .warn
  | .resolved _ => .info

def target : Event → String
  | .resolving .. => "jarl_locate_core::resolver"
  | .note _ => "jarl_locate::resolve"
  | .searchMissed .. => "jarl_locate_core::adapters::which_search"
  | .searchCancelled _ => "jarl_locate_core::adapters::which_search"
  | .resolved _ => "jarl_locate_cli::handlers::resolve"

def message : Event → String
  | .resolving .. => "Resolving jarl executable"
  | .note text => text
  | .searchMissed name cause =>
    "which lookup for " ++ name ++ " returned no match: " ++ cause.message
  | .searchCancelled name => "which lookup for " ++ name ++ " did not complete"
  | .resolved _ => "Resolved jarl executable"

def flagText (b : Bool) : String := if b then "true" else "false"

def fields : Event → List (String × String)
  | .resolving config request =>
    [("trusted", flagText request.trusted),
     ("strategy", request.strategy.toString),
     ("extension_root", config.extensionRoot.display),
     ("platform", config.platform.name)]
  | .resolved resolution =>
    [("source", resolution.source.name), ("path", resolution.path.display)]
  | _ => []

def fieldNames (event : Event) : List String := "message" :: event.fields.map (·.1)

def hexText (n : Nat) : String := String.ofList (Nat.toDigits 16 n)

def shownChar (c : Char) : String :=
  if c.toNat = 0x07 ∨ c.toNat = 0x08 ∨ c.toNat = 0x0c then "\\x0" ++ hexText c.toNat
  else if c.toNat = 0x1b ∨ c.toNat = 0x7f then "\\x" ++ hexText c.toNat
  else if 0x80 ≤ c.toNat ∧ c.toNat ≤ 0x9f then "\\u\x7b" ++ hexText c.toNat ++ "\x7d"
  else String.ofList [c]

def text (event : Event) : String :=
  event.level.name ++ " " ++ event.target ++ ": " ++
    String.join (event.message.toList.map shownChar) ++
    String.join (event.fields.map fun (name, value) => " " ++ name ++ "=" ++ value)

end Event

end Locator
