import Locator.Program

namespace Locator

namespace Machine

def codeOf : IO.Error → Nat
  | .noFileOrDirectory _ code _ => code.toNat
  | .inappropriateType _ code _ => code.toNat
  | .invalidArgument _ code _ => code.toNat
  | .resourceExhausted _ code _ => code.toNat
  | .otherError code _ => code.toNat
  | _ => 0

def faultOf (e : IO.Error) : FileError :=
  match codeOf e with
  | 20 => .notDirectory
  | 21 => .isDirectory
  | 36 => .nameTooLong
  | 40 => .tooManyLinks
  | _ => .notFound

def attempt {α : Type} (action : IO α) : IO (Except FileError α) := do
  match ← action.toBaseIO with
  | .ok a => return .ok a
  | .error e => return .error (faultOf e)

def textOf (path : Path) : Except FileError String :=
  match Utf8.decode? path.bytes with
  | none => .error .notFound
  | some text =>
    if text.toList.contains '\x00' then .error .nulByte
    else if text = "" then .error .notFound
    else .ok text

def status (path : Path) : IO (Except FileError FileStatus) := do
  match textOf path with
  | .error e => return .error e
  | .ok text => attempt do
    let directory ← IO.currentDir
    let data ← (directory / text).metadata
    match data.type with
    | .dir => return .directory
    | .file => return .file true
    | _ => return .file false

def read (path : Path) : IO (Except FileError Bytes) := do
  match textOf path with
  | .error e => return .error e
  | .ok text => attempt do
    let directory ← IO.currentDir
    return (← IO.FS.readBinFile (directory / text)).toList

/-- The machine at hand. Permission bits cannot be asked for here, so every regular file counts as
one that may be executed. -/
def host : Host IO where
  workingDirectory := attempt do return .ofString (← IO.currentDir).toString
  status := status
  read := read

def names : List String :=
  ["PATH", "HOME", LogFilter.variableName] ++ CommandLine.Opt.all.filterMap CommandLine.Opt.standIn?

def environment : IO Environment := do
  let mentioned ← match ← EnvironmentFile.find host with
    | none => pure []
    | some file => do
      match ← read file with
      | .ok content => pure ((EnvironmentFile.assignments content).flatMap (·.names))
      | .error _ => pure []
  (names ++ mentioned).foldlM (fun env name => do
    match ← IO.getEnv name with
    | some value => return env.set name (Utf8.encode value)
    | none => return env) {}

end Machine

end Locator

def main (args : List String) : IO UInt32 := do
  let output ← Locator.Program.run Locator.Machine.host (← Locator.Machine.environment)
    (args.map Locator.Utf8.encode)
  IO.print output.stdout
  IO.eprint output.stderr
  return output.exitCode.toUInt32
