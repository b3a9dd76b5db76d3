import Locator.Environment
import Locator.FileTree

namespace Locator

structure World where
  tree : FileTree := {}
  cwd : Location := []
  environment : Environment := {}
deriving Repr

namespace World

/-- A directory that has been removed while it was the working directory keeps a location under
its parent, by a name that no path can spell. -/
def orphan : Bytes := [Path.slash]

def pathOf (here : Location) : Path :=
  if here = [] then ⟨[Path.slash]⟩ else ⟨here.flatMap (Path.slash :: ·)⟩

def workingDirectory (w : World) : Except FileError Path :=
  if w.cwd.contains orphan then .error .notFound else .ok (pathOf w.cwd)

def host (w : World) : Host Id where
  workingDirectory := w.workingDirectory
  status := w.tree.status w.cwd
  read := w.tree.read w.cwd

def locate (w : World) (path : Path) : Except FileError Location := w.tree.locate w.cwd path

def put (w : World) (path : Path) (node : Node) : Except FileError World := do
  return { w with tree := w.tree.put (← w.locate path) node }

def splitName? (path : Path) : Option (List Bytes × Bytes) :=
  match (path.bytes.splitOn Path.slash).reverse.dropWhile FileTree.stays with
  | [] => none
  | name :: before => some (before.reverse, name)

def start (w : World) (path : Path) : Location := if path.isAbsolute then [] else w.cwd

def slot (w : World) (path : Path) : Except FileError Location := do
  match splitName? path with
  | none => .error .notFound
  | some (before, name) =>
    return (← w.tree.follow FileTree.maxLinks (w.start path) before) ++ [name]

def makePieces (w : World) (here : Location) (pieces : List Bytes) : Except FileError World :=
  (List.range pieces.length).foldlM (fun w i => do
    let place ← w.tree.follow FileTree.maxLinks here (pieces.take (i + 1))
    match w.tree.node? place with
    | some _ => return w
    | none => return { w with tree := w.tree.put place .directory }) w

def makeDirectory (w : World) (path : Path) : Except FileError World :=
  w.makePieces (w.start path) (path.bytes.splitOn Path.slash)

def makeParents (w : World) (path : Path) : Except FileError World :=
  match splitName? path with
  | none => .ok w
  | some (before, _) => w.makePieces (w.start path) before

def write (w : World) (path : Path) (mode : Nat) (content : Bytes) : Except FileError World := do
  (← w.makeParents path).put path (.file mode content)

def setMode (w : World) (path : Path) (mode : Nat) : Except FileError World := do
  match ← w.tree.find w.cwd path with
  | .file _ content => w.put path (.file mode content)
  | _ => return w

def link (w : World) (path target : Path) : Except FileError World := do
  let w ← w.makeParents path
  return { w with tree := w.tree.put (← w.slot path) (.link target) }

def detach (w : World) (gone : Location) : World :=
  let parent := gone.dropLast
  let depth := w.cwd.length - parent.length
  let places := (List.range depth).map fun i => parent ++ List.replicate (i + 1) orphan
  { w with
    cwd := parent ++ List.replicate depth orphan
    tree := places.foldl (fun t place => t.put place .directory) w.tree }

def remove (w : World) (path : Path) : Except FileError World := do
  let gone ← w.slot path
  let pruned := { w with tree := w.tree.prune gone }
  return if gone.isPrefixOf w.cwd then pruned.detach gone else pruned

def changeDirectory (w : World) (path : Path) : Except FileError World := do
  let place ← w.locate path
  match w.tree.node? place with
  | some .directory => return { w with cwd := place }
  | some _ => .error .notDirectory
  | none => .error .notFound

def setVariable (w : World) (name : String) : Option Bytes → World
  | some value => { w with environment := w.environment.set name value }
  | none => { w with environment := w.environment.unset name }

end World

end Locator
