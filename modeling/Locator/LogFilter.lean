import Locator.Environment
import Locator.LogRule.Reader

/-! The longest target decides, then the rule that asks for a field, then the later one. -/

namespace Locator

structure LogFilter where
  rules : List LogRule
deriving DecidableEq, Repr

namespace LogFilter

def fallback (verbose : Bool) : Level := if verbose then .debug else .info

/-- Nothing between two commas is no directive. -/
def ofText (text : String) : Except Directive.Fault LogFilter := do
  let pieces := (text.toList.splitOn ',').filter (· ≠ [])
  let directives ← pieces.mapM Directive.ofText
  return ⟨directives.filterMap Directive.rule?⟩

def variableName : String := "RUST_LOG"

/-- The filter that the environment asks for, or the usual one where it asks for none in a
well-formed way. There is no filter for a text that is cut inside a character. -/
def ofEnvironment? (env : Environment) (verbose : Bool) : Option LogFilter :=
  match (env.text? variableName).map ofText with
  | some (.ok filter) => some filter
  | some (.error .cut) => none
  | some (.error .malformed) | none => some ⟨[⟨none, none, .upTo (fallback verbose)⟩]⟩

def prefer (best : Option LogRule) (rule : LogRule) : Option LogRule :=
  match best with
  | none => some rule
  | some b => if b.yields rule then some rule else some b

def select? (filter : LogFilter) (event : Event) : Option LogRule :=
  (filter.rules.filter (·.applies event)).foldl prefer none

def allows (filter : LogFilter) (event : Event) : Bool :=
  match filter.select? event with
  | none => false
  | some rule => rule.threshold.allows event.level

end LogFilter

end Locator
