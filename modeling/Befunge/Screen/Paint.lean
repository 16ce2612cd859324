/-!
Colours on a terminal: the sequences that switch them on and off.
-/
set_option autoImplicit false

namespace Befunge.Screen

def escape (code : String) : String :=
  "\x1b[" ++ code ++ "m"

def plain : String := escape "0"

def bold : String := escape "1"

def dim : String := escape "2"

def inverse : String := escape "7"

def red : String := escape "31"

def magenta : String := escape "35"

def boldRed : String := escape "1;31"

def boldGreen : String := escape "1;32"

def boldCyan : String := escape "1;36"

def paint (colour text : String) : String :=
  colour ++ text ++ plain

end Befunge.Screen
