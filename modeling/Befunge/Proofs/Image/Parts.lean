import Befunge.Image.Codec
import Befunge.Proofs.MessagePack.Record

/-!
The parts of an image one by one. For each of them: it is read back from its item, its item has a
written form, and a part that was read from a written item keeps to the sizes that writing needs.
-/
set_option autoImplicit false

namespace Befunge

open MessagePack

namespace Position

-- Coordinates are words of 64 bits.
structure Fits (p : Position) : Prop where
  column : p.x < 2 ^ 64
  row : p.y < 2 ^ 64

theorem of_item_to_item (p : Position) (fits : p.Fits) : ofItem? p.toItem = some p := by
  have fields := fields_of_record [("x", Item.ofNat p.x), ("y", Item.ofNat p.y)]
    (show fieldNames.Nodup by decide)
  have found : fields? fieldNames p.toItem = some [some (Item.ofNat p.x), some (Item.ofNat p.y)] := fields
  have column := Item.nat_below_of_nat UInt64.size p.x fits.column
  have row := Item.nat_below_of_nat UInt64.size p.y fits.row
  simp only [ofItem?, found, column, row, Option.bind_eq_bind, Option.bind_some]

theorem storable_to_item (depth : Nat) (p : Position) (fits : p.Fits) :
    Storable (depth + 1) p.toItem := by
  refine storable_of_record depth fieldNames _ rfl (by decide) (by decide +kernel) ?_
  intro item member
  simp only [List.map_cons, List.map_nil, List.mem_cons, List.not_mem_nil, or_false] at member
  rcases member with rfl | rfl
  · exact .uint depth p.x fits.column
  · exact .uint depth p.y fits.row

theorem fits_of_item (item : Item) (p : Position) (read : ofItem? item = some p) : p.Fits := by
  rw [ofItem?] at read
  split at read
  · obtain ⟨x, column, rest⟩ := Option.bind_eq_some_iff.1 read
    obtain ⟨y, row, same⟩ := Option.bind_eq_some_iff.1 rest
    cases same
    exact ⟨Item.nat_below_small _ _ x column, Item.nat_below_small _ _ y row⟩
  · cases read

end Position

namespace Direction

theorem of_item_to_item (d : Direction) : ofItem? d.toItem = some d := by
  cases d <;> decide +kernel

theorem storable_to_item (depth : Nat) (d : Direction) : Storable depth d.toItem := by
  refine .str depth _ ?_
  cases d <;> decide +kernel

end Direction

namespace Pointer

theorem of_item_to_item (p : Pointer) (fits : p.position.Fits) : ofItem? p.toItem = some p := by
  have fields := fields_of_record [("position", p.position.toItem), ("direction", p.direction.toItem)]
    (show fieldNames.Nodup by decide)
  have found : fields? fieldNames p.toItem = some [some p.position.toItem, some p.direction.toItem] := fields
  simp [ofItem?, found, Position.of_item_to_item p.position fits, Direction.of_item_to_item]

theorem storable_to_item (depth : Nat) (p : Pointer) (fits : p.position.Fits) :
    Storable (depth + 2) p.toItem := by
  refine storable_of_record (depth + 1) fieldNames _ rfl (by decide) (by decide +kernel) ?_
  intro item member
  simp only [List.map_cons, List.map_nil, List.mem_cons, List.not_mem_nil, or_false] at member
  rcases member with rfl | rfl
  · exact p.position.storable_to_item depth fits
  · exact p.direction.storable_to_item (depth + 1)

theorem fits_of_item (item : Item) (p : Pointer) (read : ofItem? item = some p) : p.position.Fits := by
  rw [ofItem?] at read
  split at read
  · obtain ⟨position, place, rest⟩ := Option.bind_eq_some_iff.1 read
    obtain ⟨direction, _, same⟩ := Option.bind_eq_some_iff.1 rest
    cases same
    exact Position.fits_of_item _ position place
  · cases read

end Pointer

namespace Grid

structure Fits (g : Grid) : Prop where
  rows : g.rows.size < 2 ^ 32
  cells : ∀ row ∈ g.rows, row.size < 2 ^ 32

def rowItem (row : List Char) : Item :=
  .array (row.map fun c => .ofText (String.singleton c))

theorem to_item_eq (g : Grid) :
    g.toItem = .ofRecord [("rows", .array ((g.rows.toList.map Array.toList).map rowItem))] := by
  rw [toItem, List.map_map]
  rfl

theorem of_item_to_item (g : Grid) : ofItem? g.toItem = some g := by
  have row : ∀ cells : List Char, (rowItem cells).list? Item.char? = some cells := fun cells =>
    Item.list_written _ _ cells fun c _ => Item.char_of_text_singleton c
  have rows := Item.list_written (Item.list? Item.char?) rowItem (g.rows.toList.map Array.toList)
    fun cells _ => row cells
  have fields := fields_of_record [("rows", .array ((g.rows.toList.map Array.toList).map rowItem))]
    (show fieldNames.Nodup by decide)
  have found : fields? fieldNames g.toItem =
      some [some (.array ((g.rows.toList.map Array.toList).map rowItem))] := by
    rw [to_item_eq]
    exact fields
  have same : ((g.rows.toList.map Array.toList).map List.toArray).toArray = g.rows := by
    simp [List.map_map, Function.comp_def]
  simp only [ofItem?, found, rows]
  exact congrArg (fun rows => some (Grid.mk rows)) same

theorem storable_char (depth : Nat) (c : Char) : Storable depth (.ofText (String.singleton c)) := by
  refine .str depth _ ?_
  have size : (Source.encode (String.singleton c)).length = c.utf8Size := by
    simp [Source.encode, List.utf8Encode_singleton]
  have small := c.utf8Size_le_four
  omega

theorem storable_to_item (depth : Nat) (g : Grid) (fits : g.Fits) : Storable (depth + 3) g.toItem := by
  rw [to_item_eq]
  refine storable_of_record (depth + 2) fieldNames _ rfl (by decide) (by decide +kernel) ?_
  intro item member
  simp only [List.map_cons, List.map_nil, List.mem_cons, List.not_mem_nil, or_false] at member
  subst member
  refine storable_array (depth + 1) rowItem _ (by simpa using fits.rows) ?_
  intro cells inside
  obtain ⟨row, there, rfl⟩ := List.mem_map.1 inside
  refine storable_array depth _ _ (by simpa using fits.cells row (Array.mem_def.2 there)) ?_
  exact fun c _ => storable_char depth c

theorem fits_of_item (item : Item) (g : Grid) (stored : Stored item) (read : ofItem? item = some g) :
    g.Fits := by
  rw [ofItem?] at read
  split at read
  · rename_i rowsItem found
    obtain ⟨rows, listed, same⟩ := Option.bind_eq_some_iff.1 read
    cases same
    have rowsStored := stored_fields _ item _ stored found rowsItem (by simp)
    obtain ⟨count, members⟩ := Item.stored_list _ rowsItem rows rowsStored listed
    refine ⟨by simpa using count, ?_⟩
    intro row inside
    obtain ⟨cells, there, rfl⟩ : ∃ cells ∈ rows, cells.toArray = row := by simpa using inside
    obtain ⟨part, partStored, cellsRead⟩ := members cells there
    simpa using (Item.stored_list _ part cells partStored cellsRead).1
  · cases read

end Grid

namespace Stack

theorem value_of_item_of_value (v : Value) : valueOfItem? (.ofInt v.toInt) = some v := by
  have lower := v.le_toInt
  have upper := v.toInt_lt
  rw [valueOfItem?, Item.int_of_int]
  simp only []
  rw [if_pos ⟨lower, upper⟩, Int64.ofInt_toInt]

theorem of_item_to_item (s : Stack) : ofItem? s.toItem = some s := by
  have values := Item.list_written valueOfItem? (fun v : Value => .ofInt v.toInt) s.bottomFirst
    fun v _ => value_of_item_of_value v
  have fields := fields_of_record
    [("values", .array (s.bottomFirst.map fun v : Value => .ofInt v.toInt))]
    (show fieldNames.Nodup by decide)
  have found : fields? fieldNames s.toItem =
      some [some (.array (s.bottomFirst.map fun v : Value => .ofInt v.toInt))] := fields
  simp only [ofItem?, found, values, Option.map_some, Option.some.injEq]
  apply Stack.ext
  simp [ofBottomFirst, bottomFirst]

theorem storable_value (depth : Nat) (v : Value) : Storable depth (.ofInt v.toInt) := by
  have lower := v.le_toInt
  have upper := v.toInt_lt
  unfold Item.ofInt
  split
  · exact .uint depth _ (by omega)
  · exact .sint depth _ lower upper

theorem storable_to_item (depth : Nat) (s : Stack) (fits : s.topFirst.length < 2 ^ 32) :
    Storable (depth + 2) s.toItem := by
  refine storable_of_record (depth + 1) fieldNames _ rfl (by decide) (by decide +kernel) ?_
  intro item member
  simp only [List.map_cons, List.map_nil, List.mem_cons, List.not_mem_nil, or_false] at member
  subst member
  exact storable_array depth _ _ (by simpa [bottomFirst] using fits) fun v _ => storable_value depth v

theorem fits_of_item (item : Item) (s : Stack) (stored : Stored item) (read : ofItem? item = some s) :
    s.topFirst.length < 2 ^ 32 := by
  rw [ofItem?] at read
  split at read
  · rename_i valuesItem found
    obtain ⟨values, listed, same⟩ := Option.map_eq_some_iff.1 read
    subst same
    have valuesStored := stored_fields _ item _ stored found valuesItem (by simp)
    simpa [ofBottomFirst] using (Item.stored_list _ valuesItem values valuesStored listed).1
  · cases read

end Stack

namespace Generator

def keyItem (key : Vector UInt8 32) : Item :=
  .array (key.toList.map fun b => .ofNat b.toNat)

theorem key_of_item_key_item (key : Vector UInt8 32) : keyOfItem? (keyItem key) = some key := by
  have items : key.toList.map (fun b => Item.ofNat b.toNat) = (key.toList.map UInt8.toNat).map Item.ofNat := by
    simp
  have values := map_m_written (Item.natBelow? UInt8.size) Item.ofNat (key.toList.map UInt8.toNat) (by
    intro n member
    obtain ⟨b, _, rfl⟩ := List.mem_map.1 member
    exact Item.nat_below_of_nat _ _ b.toNat_lt)
  have bytes : ((key.toList.map UInt8.toNat).map Nat.toUInt8).toArray = key.toArray := by
    simp [Function.comp_def, ← Vector.toList_toArray]
  have sequence : (keyItem key).itemsOf? 32 = some ((key.toList.map UInt8.toNat).map Item.ofNat) := by
    rw [keyItem, Item.itemsOf?, if_pos (by simp), items]
  simp only [keyOfItem?, sequence, Option.bind_some, values]
  rw [dif_pos (by simp)]
  exact congrArg some (Vector.toArray_inj.1 bytes)

theorem position_of_item_of_position (position : BitVec 68) :
    positionOfItem? (.bin (bigEndian 16 position.toNat)) = some position := by
  have small : position.toNat < 2 ^ (8 * 16) := Nat.lt_trans position.isLt (by decide)
  rw [positionOfItem?, if_pos (length_big_endian 16 _), of_big_endian_big_endian 16 _ small,
    BitVec.ofNat_toNat, BitVec.setWidth_eq]

theorem of_item_to_item (g : Generator) : ofItem? g.toItem = some g := by
  have fields := fields_of_record [("seed", keyItem g.key), ("stream", .ofNat g.stream.toNat),
    ("word_pos", .bin (bigEndian 16 g.position.toNat))] (show fieldNames.Nodup by decide)
  have found : fields? fieldNames g.toItem = some [some (keyItem g.key), some (.ofNat g.stream.toNat),
    some (.bin (bigEndian 16 g.position.toNat))] := fields
  simp [ofItem?, found, key_of_item_key_item, position_of_item_of_position, g.stream.toNat_lt]

theorem storable_to_item (depth : Nat) (g : Generator) : Storable (depth + 2) g.toItem := by
  refine storable_of_record (depth + 1) fieldNames _ rfl (by decide) (by decide +kernel) ?_
  intro item member
  simp only [List.map_cons, List.map_nil, List.mem_cons, List.not_mem_nil, or_false] at member
  rcases member with rfl | rfl | rfl
  · refine storable_array depth _ _ (by simp) fun b _ => .uint depth _ ?_
    have small := b.toNat_lt
    omega
  · exact .uint (depth + 1) _ g.stream.toNat_lt
  · exact .bin (depth + 1) _ (by rw [length_big_endian]; decide)

end Generator

namespace Machine

structure Fits (m : Machine) : Prop where
  grid : m.grid.Fits
  pointer : m.pointer.position.Fits
  stack : m.stack.topFirst.length < 2 ^ 32
  output : (Source.encode m.output).length < 2 ^ 32

theorem of_item_to_item (m : Machine) (fits : m.Fits) : ofItem? m.toItem = some m := by
  have fields := fields_of_record
    [("grid", m.grid.toItem), ("pointer", m.pointer.toItem), ("stack", m.stack.toItem),
      ("string_mode", .bool m.stringMode), ("finished", .bool m.halted), ("output", .ofText m.output),
      ("steps", .ofNat m.steps.toNat), ("rng", m.generator.toItem)] (show fieldNames.Nodup by decide)
  have found : fields? fieldNames m.toItem =
      some [some m.grid.toItem, some m.pointer.toItem, some m.stack.toItem, some (.bool m.stringMode),
        some (.bool m.halted), some (.ofText m.output), some (.ofNat m.steps.toNat),
        some m.generator.toItem] := fields
  simp [ofItem?, found, Grid.of_item_to_item, Pointer.of_item_to_item m.pointer fits.pointer,
    Stack.of_item_to_item, Item.bool?, m.steps.toNat_lt, Generator.of_item_to_item]

theorem storable_to_item (depth : Nat) (m : Machine) (fits : m.Fits) :
    Storable (depth + 4) m.toItem := by
  refine storable_of_record (depth + 3) fieldNames _ rfl (by decide) (by decide +kernel) ?_
  intro item member
  simp only [List.map_cons, List.map_nil, List.mem_cons, List.not_mem_nil, or_false] at member
  rcases member with rfl | rfl | rfl | rfl | rfl | rfl | rfl | rfl
  · exact m.grid.storable_to_item depth fits.grid
  · exact m.pointer.storable_to_item (depth + 1) fits.pointer
  · exact m.stack.storable_to_item (depth + 1) fits.stack
  · exact .bool (depth + 3) m.stringMode
  · exact .bool (depth + 3) m.halted
  · exact .str (depth + 3) _ fits.output
  · exact .uint (depth + 3) _ m.steps.toNat_lt
  · exact m.generator.storable_to_item (depth + 1)

theorem fits_of_item (item : Item) (m : Machine) (stored : Stored item) (read : ofItem? item = some m) :
    m.Fits := by
  rw [ofItem?] at read
  split at read
  · rename_i gridItem pointerItem stackItem modeItem haltedItem outputItem stepsItem rngItem found
    have parts := stored_fields _ item _ stored found
    obtain ⟨grid, gridRead, read⟩ := Option.bind_eq_some_iff.1 read
    obtain ⟨pointer, pointerRead, read⟩ := Option.bind_eq_some_iff.1 read
    obtain ⟨stack, stackRead, read⟩ := Option.bind_eq_some_iff.1 read
    obtain ⟨stringMode, _, read⟩ := Option.bind_eq_some_iff.1 read
    obtain ⟨halted, _, read⟩ := Option.bind_eq_some_iff.1 read
    obtain ⟨output, outputRead, read⟩ := Option.bind_eq_some_iff.1 read
    obtain ⟨steps, _, read⟩ := Option.bind_eq_some_iff.1 read
    obtain ⟨generator, _, same⟩ := Option.bind_eq_some_iff.1 read
    cases same
    exact
      { grid := Grid.fits_of_item gridItem grid (parts _ (by simp)) gridRead
        pointer := Pointer.fits_of_item pointerItem pointer pointerRead
        stack := Stack.fits_of_item stackItem stack (parts _ (by simp)) stackRead
        output := Item.text_small outputItem output (parts _ (by simp)) outputRead }
  · cases read

end Machine

end Befunge
