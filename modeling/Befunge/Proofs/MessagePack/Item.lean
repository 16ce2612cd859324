import Befunge.Proofs.MessagePack.Head

/-!
Whole items: reading gives back what was written and leaves what stands behind it, and an item that
was read from any bytes at all has a written form of its own.
-/
set_option autoImplicit false

namespace Befunge.MessagePack

theorem encode_items_eq (items : List Item) : encodeItems items = items.flatMap Item.encode := by
  induction items with
  | nil => rw [encodeItems, List.flatMap_nil]
  | cons item rest ih => rw [encodeItems, ih, List.flatMap_cons]

def encodeEntry (entry : Item × Item) : Bytes :=
  entry.1.encode ++ entry.2.encode

theorem encode_entries_eq (entries : List (Item × Item)) :
    encodeEntries entries = entries.flatMap encodeEntry := by
  induction entries with
  | nil => rw [encodeEntries, List.flatMap_nil]
  | cons entry rest ih => rw [encodeEntries, ih, List.flatMap_cons, encodeEntry, List.append_assoc]

theorem read_many_flat_map {α : Type} (part : Bytes → Option (α × Bytes)) (write : α → Bytes)
    (parts : List α) (written : ∀ a ∈ parts, ∀ rest, part (write a ++ rest) = some (a, rest))
    (before : List α) (rest : Bytes) :
    readMany part parts.length before (parts.flatMap write ++ rest) =
      some (before.reverse ++ parts, rest) := by
  induction parts generalizing before with
  | nil => simp [readMany]
  | cons a later ih =>
      have first := written a List.mem_cons_self (later.flatMap write ++ rest)
      have others := ih (fun b member => written b (List.mem_cons_of_mem a member)) (a :: before)
      rw [List.length_cons, List.flatMap_cons, List.append_assoc, readMany, first]
      simpa using others

theorem read_many_members {α : Type} (part : Bytes → Option (α × Bytes)) (P : α → Prop)
    (good : ∀ bytes a rest, part bytes = some (a, rest) → P a) (count : Nat) (before items : List α)
    (bytes rest : Bytes) (goodBefore : ∀ a ∈ before, P a)
    (read : readMany part count before bytes = some (items, rest)) :
    items.length = before.length + count ∧ ∀ a ∈ items, P a := by
  induction count generalizing before bytes with
  | zero =>
      simp only [readMany, Option.some.injEq, Prod.mk.injEq] at read
      rw [← read.1]
      exact ⟨List.length_reverse, fun a member => goodBefore a (List.mem_reverse.1 member)⟩
  | succ count ih =>
      rw [readMany] at read
      cases first : part bytes with
      | none => simp [first] at read
      | some result =>
          obtain ⟨a, left⟩ := result
          rw [first] at read
          have goodNow : ∀ b ∈ a :: before, P b := by
            intro b member
            rcases List.mem_cons.1 member with rfl | earlier
            · exact good bytes b left first
            · exact goodBefore b earlier
          obtain ⟨length, members⟩ := ih (a :: before) left goodNow read
          exact ⟨by rw [length, List.length_cons]; omega, members⟩

theorem read_entry_encode_entry (item : Bytes → Option (Item × Bytes)) (entry : Item × Item)
    (key : ∀ rest, item (entry.1.encode ++ rest) = some (entry.1, rest))
    (value : ∀ rest, item (entry.2.encode ++ rest) = some (entry.2, rest)) (rest : Bytes) :
    readEntry item (encodeEntry entry ++ rest) = some (entry, rest) := by
  rw [encodeEntry, List.append_assoc, readEntry, key]
  simp only [value]

theorem read_entry_members (item : Bytes → Option (Item × Bytes)) (P : Item → Prop)
    (good : ∀ bytes a rest, item bytes = some (a, rest) → P a) (bytes rest : Bytes)
    (entry : Item × Item) (read : readEntry item bytes = some (entry, rest)) : P entry.1 ∧ P entry.2 := by
  rw [readEntry] at read
  split at read
  · rename_i key left keyRead
    split at read
    · rename_i value behind valueRead
      cases read
      exact ⟨good _ key _ keyRead, good _ value _ valueRead⟩
    · cases read
  · cases read

theorem read_item_of_head (depth : Nat) (item : Item) (bytes rest : Bytes)
    (head : readHead bytes = some (.whole item, rest)) (plain : ∀ kind data, item ≠ .ext kind data) :
    readItem depth bytes = some (item, rest) := by
  rw [readItem.eq_def]
  simp only [head]

-- Induction on why the item has a written form: one case for each kind of item.
theorem read_item_encode (depth : Nat) (item : Item) (storable : Storable depth item) (rest : Bytes) :
    readItem depth (item.encode ++ rest) = some (item, rest) := by
  induction storable generalizing rest with
  | nil depth => exact read_item_of_head depth _ _ _ (by rw [Item.encode]; rfl) (by simp)
  | bool depth b =>
      refine read_item_of_head depth _ _ _ ?_ (by simp)
      cases b <;> (rw [Item.encode]; rfl)
  | uint depth n fits =>
      rw [Item.encode]
      exact read_item_of_head depth _ _ _ (read_head_uint n rest fits) (by simp)
  | sint depth i lower upper =>
      rw [Item.encode]
      exact read_item_of_head depth _ _ _ (read_head_sint i rest lower upper) (by simp)
  | float depth bytes size =>
      rw [Item.encode]
      exact read_item_of_head depth _ _ _ (read_head_float bytes rest size) (by simp)
  | str depth bytes size =>
      rw [Item.encode, List.append_assoc]
      exact read_item_of_head depth _ _ _ (read_head_str bytes rest size) (by simp)
  | bin depth bytes size =>
      rw [Item.encode, List.append_assoc]
      exact read_item_of_head depth _ _ _ (read_sized_append .bin 1 bytes rest size) (by simp)
  | longBin depth bytes size =>
      rw [Item.encode, List.append_assoc]
      exact read_item_of_head depth _ _ _ (read_head_long_bin bytes rest size) (by simp)
  | array depth items count parts ih =>
      have content := read_many_flat_map (readItem depth) Item.encode items ih [] rest
      rw [Item.encode, List.append_assoc, encode_items_eq, readItem, read_head_array _ _ count]
      simp only [content, Option.map_some, List.reverse_nil, List.nil_append]
  | map depth entries count keys values keysRead valuesRead =>
      have content := read_many_flat_map (readEntry (readItem depth)) encodeEntry entries
        (fun entry member => read_entry_encode_entry _ entry (keysRead entry member)
          (valuesRead entry member)) [] rest
      rw [Item.encode, List.append_assoc, encode_entries_eq, readItem, read_head_map _ _ count]
      simp only [content, Option.map_some, List.reverse_nil, List.nil_append]
  | ext depth kind data size =>
      rw [Item.encode, List.append_assoc, readItem, read_head_ext kind data rest size]
      rfl

theorem storable_of_whole (depth : Nat) (item : Item) (known : (Head.whole item).Storable)
    (plain : ∀ kind data, item ≠ .ext kind data) : Storable depth item := by
  cases item with
  | ext kind data => exact absurd rfl (plain kind data)
  | _ => exact known depth

theorem storable_of_read_item (depth : Nat) (bytes rest : Bytes) (item : Item)
    (read : readItem depth bytes = some (item, rest)) : Storable depth item := by
  induction depth generalizing bytes item rest with
  | zero =>
      rw [readItem.eq_def] at read
      dsimp only at read
      split at read
      · cases read
      · cases read
      · rename_i plain head
        cases read
        exact storable_of_whole _ item (read_head_storable _ _ _ head) plain
      · cases read
      · cases read
  | succ depth ih =>
      rw [readItem.eq_def] at read
      dsimp only at read
      split at read
      · cases read
      · rename_i kind data left head
        cases read
        exact .ext depth kind data (read_head_storable _ _ _ head)
      · rename_i plain head
        cases read
        exact storable_of_whole _ item (read_head_storable _ _ _ head) plain
      · rename_i count left head
        obtain ⟨⟨items, behind⟩, many, same⟩ := Option.map_eq_some_iff.1 read
        cases same
        obtain ⟨length, members⟩ := read_many_members (readItem depth) (Storable depth)
          (fun bytes item rest read => ih bytes rest item read) count [] items left behind (by simp) many
        have fits : count < 2 ^ 32 := read_head_storable _ _ _ head
        exact .array depth items (by rw [length, List.length_nil]; omega) members
      · rename_i count left head
        obtain ⟨⟨entries, behind⟩, many, same⟩ := Option.map_eq_some_iff.1 read
        cases same
        obtain ⟨length, members⟩ := read_many_members (readEntry (readItem depth))
          (fun entry => Storable depth entry.1 ∧ Storable depth entry.2)
          (fun bytes entry rest read => read_entry_members _ _
            (fun bytes item rest read => ih bytes rest item read) bytes rest entry read)
          count [] entries left behind (by simp) many
        have fits : count < 2 ^ 32 := read_head_storable _ _ _ head
        exact .map depth entries (by rw [length, List.length_nil]; omega)
          (fun entry member => (members entry member).1) (fun entry member => (members entry member).2)

theorem decode_encode_item (item : Item) (storable : Storable maxDepth item) :
    decode item.encode = some item := by
  have read := read_item_encode maxDepth item storable []
  rw [List.append_nil] at read
  rw [decode, read, Option.map_some]

theorem storable_of_decode (bytes : Bytes) (item : Item) (decoded : decode bytes = some item) :
    Storable maxDepth item := by
  obtain ⟨⟨other, rest⟩, read, same⟩ := Option.map_eq_some_iff.1 decoded
  cases same
  exact storable_of_read_item maxDepth bytes rest _ read

end Befunge.MessagePack
