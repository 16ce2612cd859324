import Befunge.MessagePack.Item

/-!
Items from bytes. Every form of a number, a length or a count is read, not the shortest alone. An
item is read together with all that is in it, and the bytes behind it are given back.
-/
set_option autoImplicit false

namespace Befunge.MessagePack

def split? (n : Nat) (bytes : Bytes) : Option (Bytes × Bytes) :=
  let taken := bytes.take n
  if taken.length = n then some (taken, bytes.drop n) else none

def readNat (width : Nat) (bytes : Bytes) : Option (Nat × Bytes) :=
  (split? width bytes).map fun (taken, rest) => (ofBigEndian taken, rest)

def ofTwosComplement (width n : Nat) : Int :=
  if n < 1 <<< (8 * width - 1) then n else (n : Int) - (1 <<< (8 * width) : Nat)

-- The beginning of an item: all of it, or the number of the parts that follow.
inductive Head where
  | whole (item : Item)
  | array (count : Nat)
  | map (count : Nat)
deriving Repr, Inhabited

def readUint (width : Nat) (bytes : Bytes) : Option (Head × Bytes) :=
  (readNat width bytes).map fun (n, rest) => (.whole (.uint n), rest)

def readSint (width : Nat) (bytes : Bytes) : Option (Head × Bytes) :=
  (readNat width bytes).map fun (n, rest) => (.whole (.sint (ofTwosComplement width n)), rest)

def readContent (make : Bytes → Item) (n : Nat) (bytes : Bytes) : Option (Head × Bytes) :=
  (split? n bytes).map fun (taken, rest) => (.whole (make taken), rest)

def readSized (make : Bytes → Item) (width : Nat) (bytes : Bytes) : Option (Head × Bytes) :=
  (readNat width bytes).bind fun (n, rest) => readContent make n rest

def readExt (n : Nat) : Bytes → Option (Head × Bytes)
  | [] => none
  | kind :: rest => readContent (.ext kind) n rest

def readSizedExt (width : Nat) (bytes : Bytes) : Option (Head × Bytes) :=
  (readNat width bytes).bind fun (n, rest) => readExt n rest

def readCount (make : Nat → Head) (width : Nat) (bytes : Bytes) : Option (Head × Bytes) :=
  (readNat width bytes).map fun (n, rest) => (make n, rest)

-- The beginning of an item, as its code byte says. The byte c1 is never used.
def readHead : Bytes → Option (Head × Bytes)
  | [] => none
  | code :: rest =>
      let n := code.toNat
      if n < 0x80 then some (.whole (.uint n), rest)
      else if n < 0x90 then some (.map (n - 0x80), rest)
      else if n < 0xa0 then some (.array (n - 0x90), rest)
      else if n < 0xc0 then readContent .str (n - 0xa0) rest
      else if 0xe0 ≤ n then some (.whole (.sint ((n : Int) - 0x100)), rest)
      else match n with
        | 0xc0 => some (.whole .nil, rest)
        | 0xc2 => some (.whole (.bool false), rest)
        | 0xc3 => some (.whole (.bool true), rest)
        | 0xc4 => readSized .bin 1 rest
        | 0xc5 => readSized .longBin 2 rest
        | 0xc6 => readSized .longBin 4 rest
        | 0xc7 => readSizedExt 1 rest
        | 0xc8 => readSizedExt 2 rest
        | 0xc9 => readSizedExt 4 rest
        | 0xca => readContent .float 4 rest
        | 0xcb => readContent .float 8 rest
        | 0xcc => readUint 1 rest
        | 0xcd => readUint 2 rest
        | 0xce => readUint 4 rest
        | 0xcf => readUint 8 rest
        | 0xd0 => readSint 1 rest
        | 0xd1 => readSint 2 rest
        | 0xd2 => readSint 4 rest
        | 0xd3 => readSint 8 rest
        | 0xd4 => readExt 1 rest
        | 0xd5 => readExt 2 rest
        | 0xd6 => readExt 4 rest
        | 0xd7 => readExt 8 rest
        | 0xd8 => readExt 16 rest
        | 0xd9 => readSized .str 1 rest
        | 0xda => readSized .str 2 rest
        | 0xdb => readSized .str 4 rest
        | 0xdc => readCount .array 2 rest
        | 0xdd => readCount .array 4 rest
        | 0xde => readCount .map 2 rest
        | 0xdf => readCount .map 4 rest
        | _ => none

-- So many parts, each read by `part`; `before` are the ones already read, the last one first.
def readMany {α : Type} (part : Bytes → Option (α × Bytes)) :
    Nat → List α → Bytes → Option (List α × Bytes)
  | 0, before, bytes => some (before.reverse, bytes)
  | count + 1, before, bytes =>
      match part bytes with
      | some (a, rest) => readMany part count (a :: before) rest
      | none => none

def readEntry (item : Bytes → Option (Item × Bytes)) (bytes : Bytes) :
    Option ((Item × Item) × Bytes) :=
  match item bytes with
  | some (key, rest) =>
      match item rest with
      | some (value, rest) => some ((key, value), rest)
      | none => none
  | none => none

-- An item in which arrays, maps and extensions are nested at most `depth` deep.
def readItem : Nat → Bytes → Option (Item × Bytes)
  | depth, bytes =>
      match readHead bytes with
      | none => none
      | some (.whole (.ext kind data), rest) => if depth = 0 then none else some (.ext kind data, rest)
      | some (.whole item, rest) => some (item, rest)
      | some (.array count, rest) =>
          match depth with
          | 0 => none
          | depth + 1 =>
              (readMany (readItem depth) count [] rest).map fun (items, rest) => (.array items, rest)
      | some (.map count, rest) =>
          match depth with
          | 0 => none
          | depth + 1 =>
              (readMany (readEntry (readItem depth)) count [] rest).map fun (entries, rest) =>
                (.map entries, rest)

-- Arrays, maps and extensions are nested no deeper than this.
def maxDepth : Nat := 1023

-- The item that the bytes begin with.
def decode (bytes : Bytes) : Option Item :=
  (readItem maxDepth bytes).map Prod.fst

end Befunge.MessagePack
