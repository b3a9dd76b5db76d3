import Locator.Path

namespace Locator

inductive FileError where
  | notFound
  | notDirectory
  | isDirectory
  | nameTooLong
  | tooManyLinks
  | nulByte
deriving DecidableEq, Repr

def FileError.message : FileError → String
  | .notFound => "No such file or directory (os error 2)"
  | .notDirectory => "Not a directory (os error 20)"
  | .isDirectory => "Is a directory (os error 21)"
  | .nameTooLong => "File name too long (os error 36)"
  | .tooManyLinks => "Too many levels of symbolic links (os error 40)"
  | .nulByte => "file name contained an unexpected NUL byte"

inductive FileStatus where
  | directory
  | file (executable : Bool)
deriving DecidableEq, Repr

structure Host (m : Type → Type) where
  workingDirectory : m (Except FileError Path)
  status : Path → m (Except FileError FileStatus)
  read : Path → m (Except FileError Bytes)

namespace Host

variable {m : Type → Type} [Monad m]

def isPresent (host : Host m) (path : Path) : m Bool := do
  match ← host.status path with
  | .ok _ => return true
  | .error _ => return false

def isExecutable (host : Host m) (path : Path) : m Bool := do
  match ← host.status path with
  | .ok (.file executable) => return executable
  | _ => return false

end Host

end Locator
