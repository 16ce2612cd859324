import Befunge.Source

/-!
Data items of the MessagePack format and their bytes.

An item keeps what a reader can tell from its bytes and may care for: whether a number is in an
unsigned or a signed form, and whether a byte string has a one-byte length. Text is kept as bytes,
which need not be UTF-8.
-/
set_option autoImplicit false

namespace Befunge.MessagePack

inductive Item where
  | nil
  | bool (b : Bool)
  | uint (n : Nat)
  | sint (i : Int)
  -- The four or eight bytes of a floating-point number.
  | float (bytes : Bytes)
  | str (bytes : Bytes)
  -- A byte string with a one-byte length.
  | bin (bytes : Bytes)
  -- A byte string with a longer length.
  | longBin (bytes : Bytes)
  | array (items : List Item)
  | map (entries : List (Item × Item))
  -- A type byte and the data of an extension.
  | ext (kind : UInt8) (data : Bytes)
deriving Repr, Inhabited

-- The lowest `8 * width` bits of a number, the uppermost byte first.
def bigEndian : Nat → Nat → Bytes
  | 0, _ => []
  | width + 1, n => bigEndian width (n / 256) ++ [n.toUInt8]

def ofBigEndian (bytes : Bytes) : Nat :=
  bytes.foldl (fun n b => 256 * n + b.toNat) 0

def coded (code : UInt8) (width n : Nat) : Bytes :=
  code :: bigEndian width n

def twosComplement (width : Nat) (i : Int) : Nat :=
  (i % (1 <<< (8 * width) : Nat)).toNat

def uintBytes (n : Nat) : Bytes :=
  if n < 0x80 then [n.toUInt8]
  else if n < 0x100 then coded 0xcc 1 n
  else if n < 0x10000 then coded 0xcd 2 n
  else if n < 0x100000000 then coded 0xce 4 n
  else coded 0xcf 8 n

def sintBytes (i : Int) : Bytes :=
  if -32 ≤ i ∧ i < 0 then bigEndian 1 (twosComplement 1 i)
  else if -0x80 ≤ i ∧ i < 0x80 then coded 0xd0 1 (twosComplement 1 i)
  else if -0x8000 ≤ i ∧ i < 0x8000 then coded 0xd1 2 (twosComplement 2 i)
  else if -0x80000000 ≤ i ∧ i < 0x80000000 then coded 0xd2 4 (twosComplement 4 i)
  else coded 0xd3 8 (twosComplement 8 i)

def strHead (length : Nat) : Bytes :=
  if length < 32 then [(0xa0 + length).toUInt8]
  else if length < 0x100 then coded 0xd9 1 length
  else if length < 0x10000 then coded 0xda 2 length
  else coded 0xdb 4 length

-- What stands before a byte string that is not short.
def longBinHead (length : Nat) : Bytes :=
  if length < 0x10000 then coded 0xc5 2 length else coded 0xc6 4 length

def arrayHead (count : Nat) : Bytes :=
  if count < 16 then [(0x90 + count).toUInt8]
  else if count < 0x10000 then coded 0xdc 2 count
  else coded 0xdd 4 count

def mapHead (count : Nat) : Bytes :=
  if count < 16 then [(0x80 + count).toUInt8]
  else if count < 0x10000 then coded 0xde 2 count
  else coded 0xdf 4 count

def extHead (length : Nat) : Bytes :=
  if length = 1 then [0xd4]
  else if length = 2 then [0xd5]
  else if length = 4 then [0xd6]
  else if length = 8 then [0xd7]
  else if length = 16 then [0xd8]
  else if length < 0x100 then coded 0xc7 1 length
  else if length < 0x10000 then coded 0xc8 2 length
  else coded 0xc9 4 length

mutual

def Item.encode : Item → Bytes
  | .nil => [0xc0]
  | .bool b => [if b then 0xc3 else 0xc2]
  | .uint n => uintBytes n
  | .sint i => sintBytes i
  | .float bytes => (if bytes.length = 4 then 0xca else 0xcb) :: bytes
  | .str bytes => strHead bytes.length ++ bytes
  | .bin bytes => coded 0xc4 1 bytes.length ++ bytes
  | .longBin bytes => longBinHead bytes.length ++ bytes
  | .array items => arrayHead items.length ++ encodeItems items
  | .map entries => mapHead entries.length ++ encodeEntries entries
  | .ext kind data => extHead data.length ++ kind :: data

def encodeItems : List Item → Bytes
  | [] => []
  | item :: rest => item.encode ++ encodeItems rest

def encodeEntries : List (Item × Item) → Bytes
  | [] => []
  | (key, value) :: rest => key.encode ++ (value.encode ++ encodeEntries rest)

end

end Befunge.MessagePack
