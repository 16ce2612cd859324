import Befunge.Proofs.Image.Parts

/-!
An image survives being written and read, whatever it holds, and so does an image that was read from
any bytes at all. Images of another version are refused by their number and for no other reason.
-/
set_option autoImplicit false

namespace Befunge

open MessagePack

namespace Image

-- What the code of an image can express: texts, rows, stacks and lists have lengths of 32 bits, and
-- places have coordinates of 64. All else is of a fixed size.
structure Fits (image : Image) : Prop where
  source : (Source.encode image.source).length < 2 ^ 32
  name : ∀ name, image.name = some name → (Source.encode name).length < 2 ^ 32
  machine : image.machine.Fits
  count : image.breakpoints.length < 2 ^ 32
  breakpoints : ∀ p ∈ image.breakpoints, p.Fits

theorem name_of_item_name_to_item (name : Option String) : nameOfItem? (some (nameToItem name)) = some name := by
  cases name with
  | none => rfl
  | some text => exact congrArg (Option.map some) (Item.text_of_text text)

theorem of_item_to_item (image : Image) (fits : image.Fits) : ofItem? image.toItem = some image := by
  have fields := fields_of_record
    [("format", .ofNat image.format.toNat), ("source", .ofText image.source),
      ("name", nameToItem image.name), ("snapshot", image.machine.toItem),
      ("breakpoints", .array (image.breakpoints.map Position.toItem))]
    (show fieldNames.Nodup by decide)
  have found : fields? fieldNames image.toItem =
      some [some (.ofNat image.format.toNat), some (.ofText image.source), some (nameToItem image.name),
        some image.machine.toItem, some (.array (image.breakpoints.map Position.toItem))] := fields
  have places := Item.list_written Position.ofItem? Position.toItem image.breakpoints
    fun p member => p.of_item_to_item (fits.breakpoints p member)
  simp [ofItem?, found, name_of_item_name_to_item, Machine.of_item_to_item image.machine fits.machine,
    image.format.toNat_lt, places]

theorem storable_name (depth : Nat) (name : Option String)
    (short : ∀ text, name = some text → (Source.encode text).length < 2 ^ 32) :
    Storable depth (nameToItem name) := by
  cases name with
  | none => exact .nil depth
  | some text => exact .str depth _ (short text rfl)

theorem storable_to_item (image : Image) (fits : image.Fits) : Storable maxDepth image.toItem := by
  refine storable_of_record (maxDepth - 1) fieldNames _ rfl (by decide) (by decide +kernel) ?_
  intro item member
  simp only [List.map_cons, List.map_nil, List.mem_cons, List.not_mem_nil, or_false] at member
  rcases member with rfl | rfl | rfl | rfl | rfl
  · exact .uint _ _ (Nat.lt_trans image.format.toNat_lt (by decide))
  · exact .str _ _ fits.source
  · exact storable_name _ image.name fits.name
  · exact image.machine.storable_to_item (maxDepth - 5) fits.machine
  · exact storable_array (maxDepth - 2) _ _ fits.count fun p inside =>
      p.storable_to_item (maxDepth - 3) (fits.breakpoints p inside)

theorem fits_of_name (item : Item) (name : Option String) (stored : Stored item)
    (read : nameOfItem? (some item) = some name) (text : String) (same : name = some text) :
    (Source.encode text).length < 2 ^ 32 := by
  subst same
  rw [nameOfItem?.eq_def] at read
  split at read
  · cases read
  · cases read
  · rename_i other _ some
    cases some
    obtain ⟨found, readText, equal⟩ := Option.map_eq_some_iff.1 read
    cases equal
    exact Item.text_small _ text stored readText

theorem fits_of_item (item : Item) (image : Image) (stored : Stored item)
    (read : ofItem? item = some image) : image.Fits := by
  rw [ofItem?] at read
  split at read
  · rename_i formatItem sourceItem nameItem? machineItem placesItem found
    have parts := stored_fields _ item _ stored found
    obtain ⟨format, _, read⟩ := Option.bind_eq_some_iff.1 read
    obtain ⟨source, sourceRead, read⟩ := Option.bind_eq_some_iff.1 read
    obtain ⟨name, nameRead, read⟩ := Option.bind_eq_some_iff.1 read
    obtain ⟨machine, machineRead, read⟩ := Option.bind_eq_some_iff.1 read
    obtain ⟨places, placesRead, same⟩ := Option.bind_eq_some_iff.1 read
    cases same
    obtain ⟨count, members⟩ := Item.stored_list _ placesItem places (parts _ (by simp)) placesRead
    refine
      { source := Item.text_small sourceItem source (parts _ (by simp)) sourceRead
        name := ?_
        machine := Machine.fits_of_item machineItem machine (parts _ (by simp)) machineRead
        count := count
        breakpoints := ?_ }
    · cases nameItem? with
      | none =>
          cases nameRead
          simp
      | some nameItem => exact fits_of_name nameItem name (parts _ (by simp)) nameRead
    · intro p member
      obtain ⟨part, _, partRead⟩ := members p member
      exact Position.fits_of_item part p partRead
  · cases read

theorem decode_encode_eq (image : Image) (fits : image.Fits) :
    decode image.encode =
      if image.format = currentFormat then .ok image else .error (.unsupported image.format) := by
  rw [decode, encode, decode_encode_item _ (storable_to_item image fits), Option.bind_some,
    of_item_to_item image fits]

theorem decode_eq_ok (bytes : Bytes) (image : Image) (decoded : decode bytes = .ok image) :
    image.format = currentFormat ∧ image.Fits := by
  rw [decode] at decoded
  split at decoded
  · rename_i other found
    split at decoded
    · rename_i current
      cases decoded
      obtain ⟨item, itemRead, imageRead⟩ := Option.bind_eq_some_iff.1 found
      exact ⟨current, fits_of_item item image ⟨maxDepth, storable_of_decode bytes item itemRead⟩ imageRead⟩
    · cases decoded
  · cases decoded

theorem image_codec_lossless (image : Image) (fits : image.Fits) :
    (image.format = currentFormat → decode image.encode = .ok image) ∧
      (image.format ≠ currentFormat →
        decode image.encode = .error (.unsupported image.format) ∧
          (Refusal.unsupported image.format).toError =
            { cause := .serialization
                ("unsupported image format " ++ toString image.format.toNat ++ " (expected " ++
                  toString currentFormat.toNat ++ ")") }) ∧
      ∀ bytes read, decode bytes = .ok read →
        read.format = currentFormat ∧ decode read.encode = .ok read := by
  have written := decode_encode_eq image fits
  refine ⟨?_, ?_, ?_⟩
  · intro current
    rw [written, if_pos current]
  · intro other
    exact ⟨by rw [written, if_neg other], rfl⟩
  · intro bytes read decoded
    obtain ⟨current, readFits⟩ := decode_eq_ok bytes read decoded
    refine ⟨current, ?_⟩
    rw [decode_encode_eq read readFits, if_pos current]

-- A ragged grid, characters of several bytes, values and coordinates at the ends of their ranges, and
-- a place that is listed twice.
def sample (format : UInt32) : Image :=
  { format
    source := "λ\n\n"
    name := some ""
    machine :=
      { grid := ⟨#[#['λ', '😀', '\x00'], #[], #['@']]⟩
        pointer := ⟨⟨2 ^ 64 - 1, 255⟩, .left⟩
        stack := .ofBottomFirst [Int64.minValue, -33, -32, 0, 256, Int64.maxValue]
        stringMode := true
        output := "é"
        steps := 65535
        generator := { key := Vector.replicate 32 255, stream := 1, position := -1 } }
    breakpoints := [⟨1, 0⟩, ⟨0, 65536⟩, ⟨1, 0⟩] }

theorem image_codec_lossless_sample :
    (sample 2).Fits ∧ (sample 3).Fits ∧ decode (sample 2).encode = .ok (sample 2) ∧
      decode (sample 3).encode = .error (.unsupported 3) := by
  have places : ∀ p ∈ (sample 2).breakpoints, p.Fits := by
    intro p member
    have bounds : ∀ p ∈ (sample 2).breakpoints, p.x < 2 ^ 64 ∧ p.y < 2 ^ 64 := by decide
    exact ⟨(bounds p member).1, (bounds p member).2⟩
  have machine : (sample 2).machine.Fits :=
    ⟨⟨by decide, by decide⟩, ⟨by decide, by decide⟩, by decide, by decide +kernel⟩
  have name : ∀ text, (sample 2).name = some text → (Source.encode text).length < 2 ^ 32 := by
    intro text same
    cases same
    decide
  have fits : (sample 2).Fits := ⟨by decide +kernel, name, machine, by decide, places⟩
  have other : (sample 3).Fits := ⟨fits.source, fits.name, fits.machine, fits.count, fits.breakpoints⟩
  exact ⟨fits, other, (image_codec_lossless (sample 2) fits).1 rfl,
    ((image_codec_lossless (sample 3) other).2.1 (by decide)).1⟩

end Image

end Befunge
