/-!
Program text from the bytes of a file.
-/
set_option autoImplicit false

namespace Befunge

abbrev Bytes := List UInt8

-- The text of a file, and whether its bytes were UTF-8.
structure Source where
  utf8 : Bool
  text : String
deriving DecidableEq, Repr

namespace Source

def latin1 (bytes : Bytes) : String :=
  String.ofList (bytes.map fun b => Char.ofNat b.toNat)

def encode (text : String) : Bytes :=
  text.toUTF8.data.toList

def utf8? (bytes : Bytes) : Option String :=
  String.fromUTF8? bytes.toByteArray

-- Bytes that are UTF-8 are read as that; all others are read byte by byte, so that every byte of
-- the file becomes a cell.
def decode (bytes : Bytes) : Source :=
  match utf8? bytes with
  | some text => ⟨true, text⟩
  | none => ⟨false, latin1 bytes⟩

theorem to_byte_array_encode (text : String) : (encode text).toByteArray = text.toByteArray := by
  ext1
  simp [encode]

theorem utf8_encode (text : String) : utf8? (encode text) = some text := by
  rw [utf8?, to_byte_array_encode, String.fromUTF8?, dif_pos text.isValidUTF8]
  rfl

theorem decode_encode (text : String) : decode (encode text) = ⟨true, text⟩ := by
  rw [decode, utf8_encode]

end Source

end Befunge
