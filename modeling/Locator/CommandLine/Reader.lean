import Locator.CommandLine.Options

/-! The words before a command and those after it are one level each. -/

namespace Locator.CommandLine

def hyphen : UInt8 := 0x2d

def equals : UInt8 := 0x3d

inductive Word where
  | separator
  | long (name : Bytes) (value : Option Bytes)
  | letters (letters : Bytes)
  | plain
deriving DecidableEq, Repr

def splitValue (raw : Bytes) : Bytes × Option Bytes :=
  match raw.dropWhile (· ≠ equals) with
  | [] => (raw, none)
  | _ :: value => (raw.takeWhile (· ≠ equals), some value)

def Word.ofBytes (raw : Bytes) : Word :=
  match raw with
  | [] => .plain
  | first :: rest =>
    if first ≠ hyphen then .plain
    else match rest with
      | [] => .plain
      | second :: rest =>
        if second ≠ hyphen then .letters (second :: rest)
        else if rest = [] then .separator
        else .long (splitValue rest).1 (splitValue rest).2

/-- How far a level has been read. `pending` is an option that still waits for its value, or whose
value has come but has not been looked at. -/
structure Level where
  options : Options := {}
  pending : Option (Opt × Option Bytes) := none
  separated : Bool := false
deriving DecidableEq, Repr

namespace Level

def awaits (level : Level) : Bool :=
  match level.pending with
  | some (_, none) => true
  | _ => false

def settle (level : Level) : Except UsageError Level :=
  match level.pending with
  | none => .ok level
  | some (_, none) => .error .noValue
  | some (opt, some raw) => do
    return { level with options := ← level.options.enter opt raw, pending := none }

def enter (level : Level) (opt : Opt) (raw : Bytes) : Except UsageError Level := do
  let level ← level.settle
  return { level with options := ← level.options.enter opt raw }

def await (level : Level) (opt : Opt) : Except UsageError Level := do
  return { ← level.settle with pending := some (opt, none) }

def lift {α : Type} (result : Except UsageError α) : Except Stop α := result.mapError .usage

def stop (level : Level) (reason : Stop) : Except Stop Level := do
  discard (lift level.settle)
  .error reason

def flag (level : Level) (scope : Option Command) (long : Bool) (opt : Opt) :
    Except Stop Level :=
  match opt with
  | .help => level.stop (.help (.ofScope scope) long)
  | .version => level.stop .version
  | _ => lift (level.enter opt [])

def takeLong (level : Level) (scope : Option Command) (name : Bytes) (value : Option Bytes) :
    Except Stop Level :=
  match Opt.ofName? scope name with
  | none => .error (.usage .unknownArgument)
  | some opt =>
    match opt, value with
    | .trusted, none => lift (level.enter .trusted (Utf8.encode "true"))
    | .trusted, some raw => lift (level.enter .trusted raw)
    | .verbose, none => level.flag scope true .verbose
    | .help, none => level.flag scope true .help
    | .version, none => level.flag scope true .version
    | .verbose, some _ => .error (.usage .unwantedValue)
    | .help, some _ => .error (.usage .unwantedValue)
    | .version, some _ => .error (.usage .unwantedValue)
    | opt, none => lift (level.await opt)
    | opt, some raw => lift (level.enter opt raw)

def takeLetters (level : Level) (scope : Option Command) : Bytes → Except Stop Level
  | [] => .ok level
  | letter :: rest =>
    match Opt.ofLetter? scope letter with
    | none => .error (.usage .unknownArgument)
    | some opt => do (← level.flag scope false opt).takeLetters scope rest

def misplaced (level : Level) (scope : Option Command) (raw : Bytes) : UsageError :=
  if scope.isSome || (level.separated && (Page.ofName? raw).isSome) then .unknownArgument
  else .unknownCommand

def take (level : Level) (scope : Option Command) (raw : Bytes) : Except Stop Level :=
  if level.separated then .error (.usage (level.misplaced scope raw))
  else match Word.ofBytes raw, level.pending with
    | .separator, _ => .ok { level with separated := true }
    | .long name value, _ => level.takeLong scope name value
    | .letters letters, _ => level.takeLetters scope letters
    | .plain, some (opt, none) => .ok { level with pending := some (opt, some raw) }
    | .plain, _ => .error (.usage (level.misplaced scope raw))

def topic : List Bytes → Stop
  | [] => .help .overview true
  | [name] =>
    match Page.ofName? name with
    | some page => .help page true
    | none => .usage .unknownCommand
  | _ => .usage .unknownCommand

def read (level : Level) (scope : Option Command) :
    List Bytes → Except Stop (Level × Option (Command × List Bytes))
  | [] => .ok (level, none)
  | word :: rest =>
    match if scope.isSome || level.separated || level.awaits then none else Page.ofName? word with
    | some (.command c) => .ok (level, some (c, rest))
    | some _ => .error (topic rest)
    | none => do (← level.take scope word).read scope rest

def finish (level : Level) (env : Environment) : Except Stop (Options × Options) := lift do
  let level ← level.settle
  return (level.options, ← level.options.inherited env)

end Level

/-- The level after a command is finished before the one ahead of it. -/
def read (env : Environment) (words : List Bytes) : Except Stop Invocation := do
  match ← Level.read {} none words with
  | (level, none) =>
    let (given, inherited) ← level.finish env
    return (given.orElse inherited).invocation none
  | (outer, some (command, rest)) =>
    let (inner, _) ← Level.read {} (some command) rest
    let (innerGiven, innerInherited) ← inner.finish env
    let (outerGiven, outerInherited) ← outer.finish env
    let given := innerGiven.orElse outerGiven
    return (given.orElse (innerInherited.orElse outerInherited)).invocation (some command)

end Locator.CommandLine
