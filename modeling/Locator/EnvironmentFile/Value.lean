import Locator.Text.Alphanumeric

namespace Locator.EnvironmentFile

inductive Piece where
  | char (c : Char)
  | reference (name : String)
deriving DecidableEq, Repr

def Piece.name? : Piece → Option String
  | .char _ => none
  | .reference name => some name

abbrev Value := List Piece

/-- Where in a value a character stands. Escapes and references remember whether they stand in
double quotes. -/
inductive Place where
  | bare
  | weak
  | strong
  | escape (inWeak : Bool)
  | reference (inWeak : Bool) (name : List Char)
  | braced (inWeak : Bool) (name : List Char)
  | ended
  | comment
deriving DecidableEq, Repr

namespace Place

def outer (inWeak : Bool) : Place := if inWeak then .weak else .bare

def named (name : List Char) : Piece := .reference (String.ofList name)

def step (p : Place) (c : Char) : Option (Place × Value) :=
  match p with
  | .bare =>
    if c = '$' then some (.reference false [], [])
    else if c = '\'' then some (.strong, [])
    else if c = '"' then some (.weak, [])
    else if c = '\\' then some (.escape false, [])
    else if c = ' ' ∨ c = '\t' then some (.ended, [])
    else some (.bare, [.char c])
  | .weak =>
    if c = '$' then some (.reference true [], [])
    else if c = '"' then some (.bare, [])
    else if c = '\\' then some (.escape true, [])
    else some (.weak, [.char c])
  | .strong => if c = '\'' then some (.bare, []) else some (.strong, [.char c])
  | .escape inWeak =>
    if ['\\', '\'', '"', '$', ' '].contains c then some (outer inWeak, [.char c])
    else if c = 'n' then some (outer inWeak, [.char '\n'])
    else none
  | .reference inWeak name =>
    if CharClass.alphanumeric.contains c then some (.reference inWeak (name ++ [c]), [])
    else if c = '{' ∧ name = [] then some (.braced inWeak [], [])
    else if c = '$' then some (.reference inWeak [], [named name])
    else some (outer inWeak, [named name, .char c])
  | .braced inWeak name =>
    if c = '}' then some (outer inWeak, [named name])
    else some (.braced inWeak (name ++ [c]), [])
  | .ended =>
    if c = ' ' ∨ c = '\t' then some (.ended, [])
    else if c = '#' then some (.comment, [])
    else none
  | .comment => some (.comment, [])

def finish : Place → Option Value
  | .bare | .ended | .comment | .escape false => some []
  | .reference false name => some [named name]
  | _ => none

def read (p : Place) : List Char → Option Value
  | [] => p.finish
  | c :: rest => do
    let (next, pieces) ← p.step c
    return pieces ++ (← next.read rest)

end Place

def Value.read? (s : List Char) : Option Value := Place.bare.read s

end Locator.EnvironmentFile
