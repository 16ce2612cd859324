import Befunge.Proofs.Console.Frame
import Befunge.Proofs.Image.RoundTrip
import Befunge.Proofs.MessagePack.Truncation

/-!
A saved session that is not all there is not loaded. Wherever the bytes of an image end too early, they
are refused, and the debugger goes on with the session that it has.
-/
set_option autoImplicit false

namespace Befunge

namespace Image

theorem decode_truncated (image : Image) (fits : image.Fits) (part : Bytes) (cut : part <+: image.encode)
    (short : part ≠ image.encode) : decode part = .error .malformed := by
  have nothing := MessagePack.decode_of_truncated image.toItem (storable_to_item image fits) part cut short
  rw [decode, nothing, Option.bind_none]

theorem encode_ne_nil (image : Image) : image.encode ≠ [] := by
  rw [encode, toItem, MessagePack.Item.ofRecord, MessagePack.Item.encode]
  exact List.cons_ne_nil _ _

end Image

namespace Console

theorem load_malformed (fuel : Nat) (c : Console) (files : Files) (line path : String) (bytes : Bytes)
    (parsed : Command.parse line = .ok (some (.load path)))
    (opened : files.openRead path = .ok (.file bytes)) (malformed : Image.decode bytes = .error .malformed) :
    files.perform (c.eval fuel line) = ((some (.error Image.Refusal.malformed.toError), c), files) := by
  rw [eval, parsed]
  dsimp only [execute, load, Files.perform]
  rw [opened, imageIn, malformed]
  rfl

theorem truncated_image_is_refused (image : Image) (fits : image.Fits) (part : Bytes)
    (cut : part <+: image.encode) (short : part ≠ image.encode) :
    Image.decode part = .error .malformed ∧ [] ≠ image.encode ∧
      ∀ (fuel : Nat) (c : Console) (files : Files) (line path : String),
        Command.parse line = .ok (some (.load path)) → files.openRead path = .ok (.file part) →
        files.perform (c.eval fuel line) = ((some (.error Image.Refusal.malformed.toError), c), files) := by
  have refused := image.decode_truncated fits part cut short
  refine ⟨refused, image.encode_ne_nil.symm, ?_⟩
  intro fuel c files line path parsed opened
  exact load_malformed fuel c files line path part parsed opened refused

-- An image whose text has a character of two bytes, and a file that ends between the two.
def accented : Image :=
  .capture (Session.start "é@" {})

def cutShort : Files :=
  { entries := [(["cut"], accented.encode.take 18)] }

theorem truncated_image_is_refused_inside_a_character :
    accented.Fits ∧ (accented.encode.take 18).getLast? = some 0xc3 ∧
      accented.encode[18]? = some 0xa9 ∧
      Image.decode (accented.encode.take 18) = .error .malformed ∧
      (cutShort.perform (started.eval 0 "load cut")).1 =
        (some (.error Image.Refusal.malformed.toError), started) := by
  have machine : accented.machine.Fits :=
    ⟨⟨by decide +kernel, by decide +kernel⟩, ⟨by decide, by decide⟩, by decide, by decide⟩
  have fits : accented.Fits :=
    ⟨by decide +kernel, fun _ named => (nomatch named), machine, by decide, fun _ member => (nomatch member)⟩
  have inside : 18 < accented.encode.length := by decide +kernel
  have short : accented.encode.take 18 ≠ accented.encode := by
    intro same
    have length := congrArg List.length same
    rw [List.length_take] at length
    omega
  obtain ⟨refused, _, kept⟩ := truncated_image_is_refused accented fits _ (List.take_prefix 18 _) short
  refine ⟨fits, by decide +kernel, by decide +kernel, refused, ?_⟩
  rw [kept 0 started cutShort "load cut" "cut" rfl (by decide +kernel)]

end Console

end Befunge
