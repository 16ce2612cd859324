/-!
Decimal numerals: the ones that are read (an optional sign and ASCII digits, in the range of a
64-bit word) and the padding of the ones that are written.
-/
set_option autoImplicit false

namespace Befunge.Text

-- The value of a run of ASCII digits, most significant first.
def digitsValue (digits : List Char) : Nat :=
  digits.foldl (fun n c => 10 * n + (c.toNat - '0'.toNat)) 0

-- The value of a non-empty run of ASCII digits. Leading zeros count for nothing.
def digits? (text : List Char) : Option Nat :=
  if !text.isEmpty && text.all Char.isDigit then some (digitsValue text) else none

def unsigned? : List Char → Option Nat
  | '+' :: rest => digits? rest
  | text => digits? text

-- A numeral with an optional plus sign and a value below 2^64.
def natural? (text : String) : Option Nat :=
  (unsigned? text.toList).filter (· < UInt64.size)

-- A numeral with an optional sign and a value in the range of a signed 64-bit word.
def integer? (text : String) : Option Int :=
  match text.toList with
  | '-' :: rest => ((digits? rest).filter (· ≤ UInt64.size / 2)).map fun n : Nat => -(n : Int)
  | rest => ((unsigned? rest).filter (· < UInt64.size / 2)).map fun n : Nat => (n : Int)

def padLeft (width : Nat) (fill : Char) (text : String) : String :=
  String.ofList (List.replicate (width - text.length) fill) ++ text

def zeroPadded (width n : Nat) : String :=
  padLeft width '0' (toString n)

end Befunge.Text
