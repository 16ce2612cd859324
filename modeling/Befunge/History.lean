import Befunge.Machine.Basic
import Befunge.Window

/-!
The machines that a session can step back to, each as it was before a step.
-/
set_option autoImplicit false

namespace Befunge

abbrev History := Window Machine

namespace History

def defaultCapacity : Nat := 1000

end History

end Befunge
