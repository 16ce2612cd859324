import Befunge.Proofs.MessagePack.Number

/-!
The beginning of an item: reading takes back what writing put there, and whatever is read could have
been written.
-/
set_option autoImplicit false

namespace Befunge.MessagePack

-- An item that has a written form: numbers of at most 64 bits, lengths and counts of at most 32, and
-- no more than `depth` arrays, maps and extensions around each other.
inductive Storable : Nat → Item → Prop where
  | nil (depth : Nat) : Storable depth .nil
  | bool (depth : Nat) (b : Bool) : Storable depth (.bool b)
  | uint (depth n : Nat) (fits : n < 2 ^ 64) : Storable depth (.uint n)
  | sint (depth : Nat) (i : Int) (lower : -2 ^ 63 ≤ i) (upper : i < 2 ^ 63) : Storable depth (.sint i)
  | float (depth : Nat) (bytes : Bytes) (size : bytes.length = 4 ∨ bytes.length = 8) :
      Storable depth (.float bytes)
  | str (depth : Nat) (bytes : Bytes) (size : bytes.length < 2 ^ 32) : Storable depth (.str bytes)
  | bin (depth : Nat) (bytes : Bytes) (size : bytes.length < 2 ^ 8) : Storable depth (.bin bytes)
  | longBin (depth : Nat) (bytes : Bytes) (size : bytes.length < 2 ^ 32) : Storable depth (.longBin bytes)
  | array (depth : Nat) (items : List Item) (count : items.length < 2 ^ 32)
      (parts : ∀ item ∈ items, Storable depth item) : Storable (depth + 1) (.array items)
  | map (depth : Nat) (entries : List (Item × Item)) (count : entries.length < 2 ^ 32)
      (keys : ∀ entry ∈ entries, Storable depth entry.1)
      (values : ∀ entry ∈ entries, Storable depth entry.2) : Storable (depth + 1) (.map entries)
  | ext (depth : Nat) (kind : UInt8) (data : Bytes) (size : data.length < 2 ^ 32) :
      Storable (depth + 1) (.ext kind data)

theorem read_uint_coded (width n : Nat) (rest : Bytes) (fits : n < 2 ^ (8 * width)) :
    readUint width (bigEndian width n ++ rest) = some (.whole (.uint n), rest) := by
  rw [readUint, read_nat_big_endian width n rest fits, Option.map_some]

theorem read_sint_coded (width : Nat) (i : Int) (rest : Bytes)
    (lower : -(2 ^ (8 * (width + 1) - 1) : Nat) ≤ i) (upper : i < (2 ^ (8 * (width + 1) - 1) : Nat)) :
    readSint (width + 1) (bigEndian (width + 1) (twosComplement (width + 1) i) ++ rest) =
      some (.whole (.sint i), rest) := by
  rw [readSint, read_nat_big_endian _ _ rest (twos_complement_lt _ i), Option.map_some]
  simp only [of_twos_complement_twos_complement width i lower upper]

theorem read_content_append (make : Bytes → Item) (content rest : Bytes) :
    readContent make content.length (content ++ rest) = some (.whole (make content), rest) := by
  rw [readContent, split_append, Option.map_some]

theorem read_sized_append (make : Bytes → Item) (width : Nat) (content rest : Bytes)
    (size : content.length < 2 ^ (8 * width)) :
    readSized make width (bigEndian width content.length ++ (content ++ rest)) =
      some (.whole (make content), rest) := by
  rw [readSized, read_nat_big_endian width _ _ size, Option.bind_some]
  exact read_content_append make content rest

theorem read_ext_append (kind : UInt8) (content rest : Bytes) :
    readExt content.length (kind :: content ++ rest) = some (.whole (.ext kind content), rest) :=
  read_content_append (.ext kind) content rest

theorem read_sized_ext_append (width : Nat) (kind : UInt8) (content rest : Bytes)
    (size : content.length < 2 ^ (8 * width)) :
    readSizedExt width (bigEndian width content.length ++ (kind :: content ++ rest)) =
      some (.whole (.ext kind content), rest) := by
  rw [readSizedExt, read_nat_big_endian width _ _ size, Option.bind_some]
  exact read_ext_append kind content rest

theorem read_count_coded (make : Nat → Head) (width count : Nat) (rest : Bytes)
    (fits : count < 2 ^ (8 * width)) :
    readCount make width (bigEndian width count ++ rest) = some (make count, rest) := by
  rw [readCount, read_nat_big_endian width count rest fits, Option.map_some]

-- The ranges of code bytes that hold a number, a length or a count themselves.
theorem read_head_small_uint (n : Nat) (rest : Bytes) (small : n < 0x80) :
    readHead (n.toUInt8 :: rest) = some (.whole (.uint n), rest) := by
  have code : n.toUInt8.toNat = n := UInt8.toNat_ofNat_of_lt' (by change n < 256; omega)
  simp only [readHead, code, if_pos small]

theorem read_head_small_map (count : Nat) (rest : Bytes) (small : count < 16) :
    readHead ((0x80 + count).toUInt8 :: rest) = some (.map count, rest) := by
  have code : (0x80 + count).toUInt8.toNat = 0x80 + count :=
    UInt8.toNat_ofNat_of_lt' (by change _ < 256; omega)
  simp only [readHead, code]
  rw [if_neg (by omega), if_pos (by omega), Nat.add_sub_cancel_left]

theorem read_head_small_array (count : Nat) (rest : Bytes) (small : count < 16) :
    readHead ((0x90 + count).toUInt8 :: rest) = some (.array count, rest) := by
  have code : (0x90 + count).toUInt8.toNat = 0x90 + count :=
    UInt8.toNat_ofNat_of_lt' (by change _ < 256; omega)
  simp only [readHead, code]
  rw [if_neg (by omega), if_neg (by omega), if_pos (by omega), Nat.add_sub_cancel_left]

theorem read_head_small_str (length : Nat) (rest : Bytes) (small : length < 32) :
    readHead ((0xa0 + length).toUInt8 :: rest) = readContent .str length rest := by
  have code : (0xa0 + length).toUInt8.toNat = 0xa0 + length :=
    UInt8.toNat_ofNat_of_lt' (by change _ < 256; omega)
  simp only [readHead, code]
  rw [if_neg (by omega), if_neg (by omega), if_neg (by omega), if_pos (by omega),
    Nat.add_sub_cancel_left]

theorem read_head_small_sint (i : Int) (rest : Bytes) (lower : -32 ≤ i) (negative : i < 0) :
    readHead ((twosComplement 1 i).toUInt8 :: rest) = some (.whole (.sint i), rest) := by
  have value : (twosComplement 1 i : Int) = i + 0x100 := by
    rw [twosComplement, Nat.one_shiftLeft]
    omega
  have code : (twosComplement 1 i).toUInt8.toNat = twosComplement 1 i :=
    UInt8.toNat_ofNat_of_lt' (by change _ < 256; omega)
  simp only [readHead, code]
  rw [if_neg (by omega), if_neg (by omega), if_neg (by omega), if_neg (by omega), if_pos (by omega)]
  rw [value, Int.add_sub_cancel]

theorem read_head_uint (n : Nat) (rest : Bytes) (fits : n < 2 ^ 64) :
    readHead (uintBytes n ++ rest) = some (.whole (.uint n), rest) := by
  unfold uintBytes
  by_cases fixed : n < 0x80
  · rw [if_pos fixed]
    exact read_head_small_uint n rest fixed
  rw [if_neg fixed]
  by_cases one : n < 0x100
  · rw [if_pos one]
    exact read_uint_coded 1 n rest one
  rw [if_neg one]
  by_cases two : n < 0x10000
  · rw [if_pos two]
    exact read_uint_coded 2 n rest two
  rw [if_neg two]
  by_cases four : n < 0x100000000
  · rw [if_pos four]
    exact read_uint_coded 4 n rest four
  · rw [if_neg four]
    exact read_uint_coded 8 n rest fits

theorem read_head_sint (i : Int) (rest : Bytes) (lower : -2 ^ 63 ≤ i) (upper : i < 2 ^ 63) :
    readHead (sintBytes i ++ rest) = some (.whole (.sint i), rest) := by
  unfold sintBytes
  by_cases fixed : -32 ≤ i ∧ i < 0
  · rw [if_pos fixed]
    exact read_head_small_sint i rest fixed.1 fixed.2
  rw [if_neg fixed]
  by_cases one : -0x80 ≤ i ∧ i < 0x80
  · rw [if_pos one]
    exact read_sint_coded 0 i rest one.1 one.2
  rw [if_neg one]
  by_cases two : -0x8000 ≤ i ∧ i < 0x8000
  · rw [if_pos two]
    exact read_sint_coded 1 i rest two.1 two.2
  rw [if_neg two]
  by_cases four : -0x80000000 ≤ i ∧ i < 0x80000000
  · rw [if_pos four]
    exact read_sint_coded 3 i rest four.1 four.2
  · rw [if_neg four]
    exact read_sint_coded 7 i rest lower upper

theorem read_head_str (bytes rest : Bytes) (size : bytes.length < 2 ^ 32) :
    readHead (strHead bytes.length ++ (bytes ++ rest)) = some (.whole (.str bytes), rest) := by
  unfold strHead
  by_cases fixed : bytes.length < 32
  · rw [if_pos fixed, List.singleton_append, read_head_small_str _ _ fixed]
    exact read_content_append .str bytes rest
  rw [if_neg fixed]
  by_cases one : bytes.length < 0x100
  · rw [if_pos one]
    exact read_sized_append .str 1 bytes rest one
  rw [if_neg one]
  by_cases two : bytes.length < 0x10000
  · rw [if_pos two]
    exact read_sized_append .str 2 bytes rest two
  · rw [if_neg two]
    exact read_sized_append .str 4 bytes rest size

theorem read_head_long_bin (bytes rest : Bytes) (size : bytes.length < 2 ^ 32) :
    readHead (longBinHead bytes.length ++ (bytes ++ rest)) = some (.whole (.longBin bytes), rest) := by
  unfold longBinHead
  by_cases two : bytes.length < 0x10000
  · rw [if_pos two]
    exact read_sized_append .longBin 2 bytes rest two
  · rw [if_neg two]
    exact read_sized_append .longBin 4 bytes rest size

theorem read_head_float (bytes rest : Bytes) (size : bytes.length = 4 ∨ bytes.length = 8) :
    readHead ((if bytes.length = 4 then 0xca else 0xcb) :: (bytes ++ rest)) =
      some (.whole (.float bytes), rest) := by
  have content := read_content_append .float bytes rest
  rcases size with four | eight
  · rw [four] at content ⊢
    exact content
  · rw [eight] at content ⊢
    exact content

theorem read_head_ext (kind : UInt8) (data rest : Bytes) (size : data.length < 2 ^ 32) :
    readHead (extHead data.length ++ (kind :: data ++ rest)) = some (.whole (.ext kind data), rest) := by
  have content := read_ext_append kind data rest
  unfold extHead
  by_cases one : data.length = 1
  · rw [if_pos one]
    rwa [one] at content
  rw [if_neg one]
  by_cases two : data.length = 2
  · rw [if_pos two]
    rwa [two] at content
  rw [if_neg two]
  by_cases four : data.length = 4
  · rw [if_pos four]
    rwa [four] at content
  rw [if_neg four]
  by_cases eight : data.length = 8
  · rw [if_pos eight]
    rwa [eight] at content
  rw [if_neg eight]
  by_cases sixteen : data.length = 16
  · rw [if_pos sixteen]
    rwa [sixteen] at content
  rw [if_neg sixteen]
  by_cases short : data.length < 0x100
  · rw [if_pos short]
    exact read_sized_ext_append 1 kind data rest short
  rw [if_neg short]
  by_cases medium : data.length < 0x10000
  · rw [if_pos medium]
    exact read_sized_ext_append 2 kind data rest medium
  · rw [if_neg medium]
    exact read_sized_ext_append 4 kind data rest size

theorem read_head_array (count : Nat) (rest : Bytes) (fits : count < 2 ^ 32) :
    readHead (arrayHead count ++ rest) = some (.array count, rest) := by
  unfold arrayHead
  by_cases fixed : count < 16
  · rw [if_pos fixed]
    exact read_head_small_array count rest fixed
  rw [if_neg fixed]
  by_cases two : count < 0x10000
  · rw [if_pos two]
    exact read_count_coded .array 2 count rest two
  · rw [if_neg two]
    exact read_count_coded .array 4 count rest fits

theorem read_head_map (count : Nat) (rest : Bytes) (fits : count < 2 ^ 32) :
    readHead (mapHead count ++ rest) = some (.map count, rest) := by
  unfold mapHead
  by_cases fixed : count < 16
  · rw [if_pos fixed]
    exact read_head_small_map count rest fixed
  rw [if_neg fixed]
  by_cases two : count < 0x10000
  · rw [if_pos two]
    exact read_count_coded .map 2 count rest two
  · rw [if_neg two]
    exact read_count_coded .map 4 count rest fits

-- What is known of a beginning that was read: parts that follow are counted with 32 bits, and an item
-- that is whole has a written form wherever an extension, if it is one, may stand.
def Head.Storable : Head → Prop
  | .array count => count < 2 ^ 32
  | .map count => count < 2 ^ 32
  | .whole (.ext _ data) => data.length < 2 ^ 32
  | .whole item => ∀ depth, MessagePack.Storable depth item

theorem read_uint_storable (width : Nat) (narrow : width ≤ 8) (bytes rest : Bytes) (head : Head)
    (read : readUint width bytes = some (head, rest)) : head.Storable := by
  obtain ⟨⟨n, left⟩, number, same⟩ := Option.map_eq_some_iff.1 read
  have fits := read_nat_lt width n bytes left number
  have bound : 2 ^ (8 * width) ≤ 2 ^ 64 := Nat.pow_le_pow_right (by decide) (by omega)
  rw [Prod.mk.injEq] at same
  rw [← same.1]
  exact fun depth => .uint depth n (by omega)

theorem read_sint_storable (width : Nat) (narrow : width < 8) (bytes rest : Bytes) (head : Head)
    (read : readSint (width + 1) bytes = some (head, rest)) : head.Storable := by
  obtain ⟨⟨n, left⟩, number, same⟩ := Option.map_eq_some_iff.1 read
  have bounds := of_twos_complement_bounds width n (read_nat_lt _ n bytes left number)
  have bound : 2 ^ (8 * (width + 1) - 1) ≤ 2 ^ 63 := Nat.pow_le_pow_right (by decide) (by omega)
  rw [Prod.mk.injEq] at same
  rw [← same.1]
  exact fun depth => .sint depth _ (by omega) (by omega)

theorem read_content_storable (make : Bytes → Item) (n : Nat)
    (storable : ∀ content, content.length = n → (Head.whole (make content)).Storable)
    (bytes rest : Bytes) (head : Head) (read : readContent make n bytes = some (head, rest)) :
    head.Storable := by
  obtain ⟨⟨content, left⟩, split, same⟩ := Option.map_eq_some_iff.1 read
  rw [Prod.mk.injEq] at same
  rw [← same.1]
  exact storable content (split_eq_some n bytes content left split).1

theorem read_sized_storable (make : Bytes → Item) (width : Nat)
    (storable : ∀ content, content.length < 2 ^ (8 * width) → (Head.whole (make content)).Storable)
    (bytes rest : Bytes) (head : Head) (read : readSized make width bytes = some (head, rest)) :
    head.Storable := by
  obtain ⟨⟨n, left⟩, number, content⟩ := Option.bind_eq_some_iff.1 read
  have fits := read_nat_lt width n bytes left number
  exact read_content_storable make n (fun taken size => storable taken (by omega)) left rest head content

theorem read_ext_storable (n : Nat) (small : n < 2 ^ 32) (bytes rest : Bytes) (head : Head)
    (read : readExt n bytes = some (head, rest)) : head.Storable := by
  cases bytes with
  | nil => cases read
  | cons kind left =>
      refine read_content_storable (.ext kind) n (fun content size => ?_) left rest head read
      change content.length < 2 ^ 32
      omega

theorem read_sized_ext_storable (width : Nat) (narrow : width ≤ 4) (bytes rest : Bytes) (head : Head)
    (read : readSizedExt width bytes = some (head, rest)) : head.Storable := by
  obtain ⟨⟨n, left⟩, number, content⟩ := Option.bind_eq_some_iff.1 read
  have fits := read_nat_lt width n bytes left number
  have bound : 2 ^ (8 * width) ≤ 2 ^ 32 := Nat.pow_le_pow_right (by decide) (by omega)
  exact read_ext_storable n (by omega) left rest head content

theorem read_count_storable (make : Nat → Head) (width : Nat)
    (storable : ∀ count, count < 2 ^ (8 * width) → (make count).Storable) (bytes rest : Bytes)
    (head : Head) (read : readCount make width bytes = some (head, rest)) : head.Storable := by
  obtain ⟨⟨n, left⟩, number, same⟩ := Option.map_eq_some_iff.1 read
  rw [Prod.mk.injEq] at same
  rw [← same.1]
  exact storable n (read_nat_lt width n bytes left number)

-- One case for each form of a code byte, in the order in which `readHead` tells them apart.
theorem read_head_storable (bytes rest : Bytes) (head : Head) (read : readHead bytes = some (head, rest)) :
    head.Storable := by
  have str : ∀ bound ≤ 2 ^ 32, ∀ content : Bytes, content.length < bound →
      (Head.whole (.str content)).Storable := fun bound small content size depth =>
    .str depth content (by omega)
  have longBin : ∀ bound ≤ 2 ^ 32, ∀ content : Bytes, content.length < bound →
      (Head.whole (.longBin content)).Storable := fun bound small content size depth =>
    .longBin depth content (by omega)
  cases bytes with
  | nil => cases read
  | cons code left =>
      have byte := code.toNat_lt
      simp only [readHead] at read
      split at read
      · cases read
        exact fun depth => .uint depth _ (by omega)
      split at read
      · cases read
        change code.toNat - 0x80 < 2 ^ 32
        omega
      split at read
      · cases read
        change code.toNat - 0x90 < 2 ^ 32
        omega
      split at read
      · exact read_content_storable .str _
          (fun content size => str _ (Nat.le_refl _) content (by omega)) _ _ _ read
      split at read
      · cases read
        exact fun depth => .sint depth _ (by omega) (by omega)
      split at read
      · cases read
        exact fun depth => .nil depth
      · cases read
        exact fun depth => .bool depth false
      · cases read
        exact fun depth => .bool depth true
      · exact read_sized_storable .bin 1 (fun content size depth => .bin depth content size) _ _ _ read
      · exact read_sized_storable .longBin 2 (longBin _ (by decide)) _ _ _ read
      · exact read_sized_storable .longBin 4 (longBin _ (by decide)) _ _ _ read
      · exact read_sized_ext_storable 1 (by decide) _ _ _ read
      · exact read_sized_ext_storable 2 (by decide) _ _ _ read
      · exact read_sized_ext_storable 4 (by decide) _ _ _ read
      · exact read_content_storable .float 4 (fun content size depth => .float depth content (.inl size))
          _ _ _ read
      · exact read_content_storable .float 8 (fun content size depth => .float depth content (.inr size))
          _ _ _ read
      · exact read_uint_storable 1 (by decide) _ _ _ read
      · exact read_uint_storable 2 (by decide) _ _ _ read
      · exact read_uint_storable 4 (by decide) _ _ _ read
      · exact read_uint_storable 8 (by decide) _ _ _ read
      · exact read_sint_storable 0 (by decide) _ _ _ read
      · exact read_sint_storable 1 (by decide) _ _ _ read
      · exact read_sint_storable 3 (by decide) _ _ _ read
      · exact read_sint_storable 7 (by decide) _ _ _ read
      · exact read_ext_storable 1 (by decide) _ _ _ read
      · exact read_ext_storable 2 (by decide) _ _ _ read
      · exact read_ext_storable 4 (by decide) _ _ _ read
      · exact read_ext_storable 8 (by decide) _ _ _ read
      · exact read_ext_storable 16 (by decide) _ _ _ read
      · exact read_sized_storable .str 1 (str _ (by decide)) _ _ _ read
      · exact read_sized_storable .str 2 (str _ (by decide)) _ _ _ read
      · exact read_sized_storable .str 4 (str _ (by decide)) _ _ _ read
      · exact read_count_storable .array 2 (fun count fits => Nat.lt_trans fits (by decide)) _ _ _ read
      · exact read_count_storable .array 4 (fun count fits => fits) _ _ _ read
      · exact read_count_storable .map 2 (fun count fits => Nat.lt_trans fits (by decide)) _ _ _ read
      · exact read_count_storable .map 4 (fun count fits => fits) _ _ _ read
      · cases read

end Befunge.MessagePack
