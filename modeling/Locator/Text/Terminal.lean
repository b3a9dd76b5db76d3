import Locator.Text.Utf8

/-! An escape byte opens a control sequence, which a terminal obeys and does not show. -/

namespace Locator.Terminal

inductive Position where
  | ground
  | escape
  | escapeIntermediate
  | csiEntry
  | csiParameter
  | csiIntermediate
  | csiIgnored
  | dcsEntry
  | dcsParameter
  | dcsIntermediate
  | dcsIgnored
  | dcsData
  | osc
  | message
deriving DecidableEq, Repr

def isBetween (least greatest b : UInt8) : Bool := least ≤ b && b ≤ greatest

def isBlank (b : UInt8) : Bool := b = 0x20 || b = 0x09 || b = 0x0a || b = 0x0c || b = 0x0d

def isControl (b : UInt8) : Bool := b < 0x20

def isContinuation (b : UInt8) : Bool := isBetween 0x80 0xbf b

def isLead (b : UInt8) : Bool := isBetween 0xc2 0xf4 b

namespace Position

def obeys : Position → Bool
  | .ground | .escape | .escapeIntermediate | .csiEntry | .csiParameter | .csiIntermediate
  | .csiIgnored => true
  | _ => false

def afterEscape (b : UInt8) : Position :=
  if isBetween 0x20 0x2f b then .escapeIntermediate
  else if b = 0x5b then .csiEntry
  else if b = 0x5d then .osc
  else if b = 0x50 then .dcsEntry
  else if b = 0x58 || b = 0x5e || b = 0x5f then .message
  else if isBetween 0x30 0x7e b then .ground
  else .escape

/-- From a place inside a sequence of parameters: `intermediate` for the bytes before the final
one, `ignored` for what is out of order, `final` after the final byte. -/
def afterParameter (here parameter intermediate ignored final : Position) (b : UInt8) : Position :=
  if isBetween 0x20 0x2f b then intermediate
  else if isBetween 0x30 0x3b b then parameter
  else if isBetween 0x3c 0x3f b then ignored
  else if isBetween 0x40 0x7e b then final
  else here

def next (p : Position) (b : UInt8) : Position :=
  if b = 0x1b then .escape
  else if b = 0x18 || b = 0x1a then .ground
  else match p with
    | .ground => .ground
    | .escape => afterEscape b
    | .escapeIntermediate => if isBetween 0x30 0x7e b then .ground else .escapeIntermediate
    | .csiEntry => afterParameter .csiEntry .csiParameter .csiIntermediate .csiParameter .ground b
    | .csiParameter =>
      afterParameter .csiParameter .csiParameter .csiIntermediate .csiIgnored .ground b
    | .csiIntermediate =>
      afterParameter .csiIntermediate .csiIgnored .csiIntermediate .csiIgnored .ground b
    | .csiIgnored => if isBetween 0x40 0x7e b then .ground else .csiIgnored
    | .dcsEntry => afterParameter .dcsEntry .dcsParameter .dcsIntermediate .dcsParameter .dcsData b
    | .dcsParameter =>
      afterParameter .dcsParameter .dcsParameter .dcsIntermediate .dcsIgnored .dcsData b
    | .dcsIntermediate =>
      afterParameter .dcsIntermediate .dcsIgnored .dcsIntermediate .dcsIgnored .dcsData b
    | .dcsIgnored => if b = 0x9c then .ground else .dcsIgnored
    | .dcsData => if b = 0x9c then .ground else .dcsData
    | .message => if b = 0x9c then .ground else .message
    | .osc => if b = 0x07 then .ground else .osc

def shows (p : Position) (b : UInt8) : Bool :=
  if isControl b then isBlank b && p.obeys
  else p = .ground && (isBetween 0x20 0x7e b || isLead b)

end Position

/-- The bytes of a whole text that are shown. After one that is, the bytes that continue its
character are as well, and no sequence is open. -/
def strip (showing : Bool) (p : Position) : Bytes → Bytes
  | [] => []
  | b :: rest =>
    if p.shows b || (showing && isContinuation b) then b :: strip true .ground rest
    else strip false (p.next b) rest

/-- The bytes of a stream that are shown. A blank inside a sequence does not end it for good: the
stream comes back to it at the next byte that is not shown. -/
def stripStream (showing : Bool) (p : Position) : Bytes → Bytes
  | [] => []
  | b :: rest =>
    if showing then
      if Position.ground.shows b || isContinuation b then
        b :: stripStream true (if isLead b then .ground else p) rest
      else stripStream false (p.next b) rest
    else if p.shows b then b :: stripStream true (p.next b) rest
    else stripStream false (p.next b) rest

def bold (s : String) : String := "\x1b[1m" ++ s ++ "\x1b[0m"

end Locator.Terminal
