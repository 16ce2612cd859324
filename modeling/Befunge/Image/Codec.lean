import Befunge.Image.Basic
import Befunge.MessagePack.Fields

/-!
The bytes of an image: nested MessagePack records.
-/
set_option autoImplicit false

namespace Befunge

open MessagePack

namespace Position

def fieldNames : List String := ["x", "y"]

def toItem (p : Position) : Item :=
  .ofRecord [("x", .ofNat p.x), ("y", .ofNat p.y)]

-- Coordinates are unsigned words of 64 bits.
def ofItem? (item : Item) : Option Position :=
  match fields? fieldNames item with
  | some [some x, some y] => do
      let x ← x.natBelow? UInt64.size
      let y ← y.natBelow? UInt64.size
      some ⟨x, y⟩
  | _ => none

end Position

namespace Direction

def tag : Direction → String
  | .up => "Up"
  | .left => "Left"
  | .down => "Down"
  | .right => "Right"

def tags : List String := all.map tag

def toItem (d : Direction) : Item :=
  .ofText d.tag

-- The direction that a name, or its number, stands for.
def ofTag? (item : Item) : Option Direction :=
  match key? tags item with
  | some (.field i) => all[i]?
  | _ => none

-- A direction alone, or as the only key of a map, with nothing for its value.
def ofItem? : Item → Option Direction
  | .map [(tag, .nil)] => ofTag? tag
  | .map _ => none
  | item => ofTag? item

end Direction

namespace Pointer

def fieldNames : List String := ["position", "direction"]

def toItem (p : Pointer) : Item :=
  .ofRecord [("position", p.position.toItem), ("direction", p.direction.toItem)]

def ofItem? (item : Item) : Option Pointer :=
  match fields? fieldNames item with
  | some [some position, some direction] => do
      let position ← Position.ofItem? position
      let direction ← Direction.ofItem? direction
      some { position, direction }
  | _ => none

end Pointer

namespace Grid

def fieldNames : List String := ["rows"]

def toItem (g : Grid) : Item :=
  .ofRecord [("rows", .array (g.rows.toList.map fun row =>
    .array (row.toList.map fun c => .ofText (String.singleton c))))]

def ofItem? (item : Item) : Option Grid :=
  match fields? fieldNames item with
  | some [some rows] => do
      let rows ← rows.list? (Item.list? Item.char?)
      some ⟨(rows.map List.toArray).toArray⟩
  | _ => none

end Grid

namespace Stack

def fieldNames : List String := ["values"]

def valueOfItem? (item : Item) : Option Value :=
  match item.int? with
  | some i => if -0x8000000000000000 ≤ i ∧ i < 0x8000000000000000 then some (Int64.ofInt i) else none
  | none => none

def toItem (s : Stack) : Item :=
  .ofRecord [("values", .array (s.bottomFirst.map fun v => .ofInt v.toInt))]

def ofItem? (item : Item) : Option Stack :=
  match fields? fieldNames item with
  | some [some values] => (values.list? valueOfItem?).map ofBottomFirst
  | _ => none

end Stack

namespace Generator

def fieldNames : List String := ["seed", "stream", "word_pos"]

-- The number of the next word is written with sixteen bytes.
def toItem (g : Generator) : Item :=
  .ofRecord
    [("seed", .array (g.key.toList.map fun b => .ofNat b.toNat)),
      ("stream", .ofNat g.stream.toNat),
      ("word_pos", .bin (bigEndian 16 g.position.toNat))]

def keyOfItem? (item : Item) : Option (Vector UInt8 32) :=
  match (item.itemsOf? 32).bind fun items => items.mapM (Item.natBelow? UInt8.size) with
  | some values =>
      if size : values.length = 32 then
        some ⟨(values.map Nat.toUInt8).toArray, by rw [List.size_toArray, List.length_map, size]⟩
      else none
  | none => none

-- The number of a word: sixteen bytes, or a number, which may be negative. It counts modulo 2^68.
def positionOfItem? : Item → Option (BitVec 68)
  | .bin bytes => if bytes.length = 16 then some (BitVec.ofNat 68 (ofBigEndian bytes)) else none
  | item => item.int?.map (BitVec.ofInt 68)

def ofItem? (item : Item) : Option Generator :=
  match fields? fieldNames item with
  | some [some key, some stream, some position] => do
      let key ← keyOfItem? key
      let stream ← stream.natBelow? UInt64.size
      let position ← positionOfItem? position
      some { key, stream := UInt64.ofNat stream, position }
  | _ => none

end Generator

namespace Machine

def fieldNames : List String :=
  ["grid", "pointer", "stack", "string_mode", "finished", "output", "steps", "rng"]

def toItem (m : Machine) : Item :=
  .ofRecord
    [("grid", m.grid.toItem), ("pointer", m.pointer.toItem), ("stack", m.stack.toItem),
      ("string_mode", .bool m.stringMode), ("finished", .bool m.halted),
      ("output", .ofText m.output), ("steps", .ofNat m.steps.toNat),
      ("rng", m.generator.toItem)]

def ofItem? (item : Item) : Option Machine :=
  match fields? fieldNames item with
  | some [some grid, some pointer, some stack, some stringMode, some halted, some output,
        some steps, some generator] => do
      let grid ← Grid.ofItem? grid
      let pointer ← Pointer.ofItem? pointer
      let stack ← Stack.ofItem? stack
      let stringMode ← stringMode.bool?
      let halted ← halted.bool?
      let output ← output.text?
      let steps ← steps.natBelow? UInt64.size
      let generator ← Generator.ofItem? generator
      some { grid, pointer, stack, stringMode, halted, output, steps := UInt64.ofNat steps, generator }
  | _ => none

end Machine

namespace Image

def fieldNames : List String := ["format", "source", "name", "snapshot", "breakpoints"]

def nameToItem : Option String → Item
  | some name => .ofText name
  | none => .nil

-- A name, nothing, or a missing field.
def nameOfItem? : Option Item → Option (Option String)
  | none => some none
  | some .nil => some none
  | some item => item.text?.map some

def toItem (image : Image) : Item :=
  .ofRecord
    [("format", .ofNat image.format.toNat), ("source", .ofText image.source),
      ("name", nameToItem image.name), ("snapshot", image.machine.toItem),
      ("breakpoints", .array (image.breakpoints.map Position.toItem))]

def ofItem? (item : Item) : Option Image :=
  match fields? fieldNames item with
  | some [some format, some source, name, some machine, some breakpoints] => do
      let format ← format.natBelow? UInt32.size
      let source ← source.text?
      let name ← nameOfItem? name
      let machine ← Machine.ofItem? machine
      let breakpoints ← breakpoints.list? Position.ofItem?
      some { format := UInt32.ofNat format, source, name, machine, breakpoints }
  | _ => none

inductive Refusal where
  -- They are not the bytes of an image of any version.
  | malformed
  -- They are an image of another version.
  | unsupported (format : UInt32)
deriving DecidableEq, Repr

namespace Refusal

def message : Refusal → String
  | .malformed => "malformed image"
  | .unsupported format =>
      "unsupported image format " ++ toString format.toNat ++ " (expected " ++
        toString currentFormat.toNat ++ ")"

def toError (refusal : Refusal) : Error :=
  { cause := .serialization refusal.message }

end Refusal

def encode (image : Image) : Bytes :=
  image.toItem.encode

-- The image that the bytes begin with. The version counts only when all else is in order.
def decode (bytes : Bytes) : Except Refusal Image :=
  match (MessagePack.decode bytes).bind ofItem? with
  | some image =>
      if image.format = currentFormat then .ok image else .error (.unsupported image.format)
  | none => .error .malformed

end Image

end Befunge
