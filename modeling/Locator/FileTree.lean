import Locator.Host

/-! Files, directories and links, kept as a table from locations to nodes. -/

namespace Locator

abbrev Location := List Bytes

inductive Node where
  | directory
  | file (mode : Nat) (content : Bytes)
  | link (target : Path)
deriving DecidableEq, Repr

structure FileTree where
  entries : List (Location × Node) := []
deriving Repr

namespace FileTree

def node? (t : FileTree) (here : Location) : Option Node :=
  if here = [] then some .directory else t.entries.lookup here

def stays (piece : Bytes) : Bool := piece = [] || piece = Path.dot

def maxName : Nat := 255

def maxPath : Nat := 4096

def maxLinks : Nat := 40

/-- Follows the pieces of a path from a directory; `jump` goes on from where a link leads. Every
piece needs a directory to stand in, the empty piece after a last slash too. The last name may be
missing: the location is then where it would be. -/
def walk (t : FileTree) (jump : Location → List Bytes → Except FileError Location)
    (here : Location) (pieces : List Bytes) : Except FileError Location :=
  match pieces with
  | [] => .ok here
  | piece :: rest =>
    match t.node? here with
    | some .directory =>
      if stays piece then t.walk jump here rest
      else if piece = Path.dots then t.walk jump here.dropLast rest
      else if maxName < piece.length then .error .nameTooLong
      else match t.node? (here ++ [piece]) with
        | some (.link target) =>
          jump (if target.isAbsolute then [] else here) (target.bytes.splitOn Path.slash ++ rest)
        | some _ => t.walk jump (here ++ [piece]) rest
        | none => if rest.all stays then .ok (here ++ [piece]) else .error .notFound
    | some (.file ..) => .error .notDirectory
    | _ => .error .notFound

def follow (t : FileTree) (links : Nat) : Location → List Bytes → Except FileError Location :=
  match links with
  | 0 => t.walk fun _ _ => .error .tooManyLinks
  | links + 1 => t.walk (t.follow links)

def locate (t : FileTree) (cwd : Location) (path : Path) : Except FileError Location :=
  if path.bytes.contains 0 then .error .nulByte
  else if path.bytes = [] then .error .notFound
  else if maxPath ≤ path.bytes.length then .error .nameTooLong
  else t.follow maxLinks (if path.isAbsolute then [] else cwd) (path.bytes.splitOn Path.slash)

def find (t : FileTree) (cwd : Location) (path : Path) : Except FileError Node := do
  match t.node? (← t.locate cwd path) with
  | some node => return node
  | none => .error .notFound

def executable (mode : Nat) : Bool := mode &&& 0o111 != 0

def Node.status : Node → FileStatus
  | .file mode _ => .file (executable mode)
  | _ => .directory

def status (t : FileTree) (cwd : Location) (path : Path) : Except FileError FileStatus :=
  (t.find cwd path).map Node.status

def read (t : FileTree) (cwd : Location) (path : Path) : Except FileError Bytes := do
  match ← t.find cwd path with
  | .file _ content => return content
  | _ => .error .isDirectory

def put (t : FileTree) (here : Location) (node : Node) : FileTree :=
  ⟨(here, node) :: t.entries.filter (·.1 ≠ here)⟩

def prune (t : FileTree) (here : Location) : FileTree :=
  ⟨t.entries.filter fun e => !here.isPrefixOf e.1⟩

end FileTree

end Locator
