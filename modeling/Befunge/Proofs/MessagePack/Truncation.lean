import Befunge.Proofs.MessagePack.Item

/-!
Reading looks no further than what it reads: whatever stands behind, the same is found and the rest is
left. So no beginning of a written item is an item of its own, wherever it is cut off.
-/
set_option autoImplicit false

namespace Befunge.MessagePack

def LooksNoFurther {α : Type} (read : Bytes → Option (α × Bytes)) : Prop :=
  ∀ (bytes : Bytes) (a : α) (rest behind : Bytes), read bytes = some (a, rest) →
    read (bytes ++ behind) = some (a, rest ++ behind)

theorem no_further_split (n : Nat) : LooksNoFurther (split? n) := by
  intro bytes taken rest behind read
  obtain ⟨size, rfl⟩ := split_eq_some n bytes taken rest read
  rw [List.append_assoc, ← size, split_append]

theorem no_further_map {α β : Type} (read : Bytes → Option (α × Bytes)) (f : α → β)
    (first : LooksNoFurther read) :
    LooksNoFurther fun bytes => (read bytes).map fun (a, rest) => (f a, rest) := by
  intro bytes b rest behind mapped
  obtain ⟨⟨a, left⟩, found, same⟩ := Option.map_eq_some_iff.1 mapped
  dsimp only at same ⊢
  rw [first bytes a left behind found, Option.map_some, ← (Prod.mk.inj same).1, ← (Prod.mk.inj same).2]

theorem no_further_bind {α β : Type} (read : Bytes → Option (α × Bytes))
    (next : α → Bytes → Option (β × Bytes)) (first : LooksNoFurther read)
    (second : ∀ a, LooksNoFurther (next a)) :
    LooksNoFurther fun bytes => (read bytes).bind fun (a, rest) => next a rest := by
  intro bytes b rest behind bound
  obtain ⟨⟨a, left⟩, found, later⟩ := Option.bind_eq_some_iff.1 bound
  dsimp only at later ⊢
  rw [first bytes a left behind found, Option.bind_some]
  exact second a left b rest behind later

theorem no_further_nat (width : Nat) : LooksNoFurther (readNat width) :=
  no_further_map _ ofBigEndian (no_further_split width)

theorem no_further_uint (width : Nat) : LooksNoFurther (readUint width) :=
  no_further_map _ (fun n => Head.whole (.uint n)) (no_further_nat width)

theorem no_further_sint (width : Nat) : LooksNoFurther (readSint width) :=
  no_further_map _ (fun n => Head.whole (.sint (ofTwosComplement width n))) (no_further_nat width)

theorem no_further_count (make : Nat → Head) (width : Nat) : LooksNoFurther (readCount make width) :=
  no_further_map _ make (no_further_nat width)

theorem no_further_content (make : Bytes → Item) (n : Nat) : LooksNoFurther (readContent make n) :=
  no_further_map _ (fun taken => Head.whole (make taken)) (no_further_split n)

theorem no_further_sized (make : Bytes → Item) (width : Nat) : LooksNoFurther (readSized make width) :=
  no_further_bind _ (readContent make) (no_further_nat width) (no_further_content make)

theorem no_further_ext (n : Nat) : LooksNoFurther (readExt n) := by
  intro bytes head rest behind read
  cases bytes with
  | nil => cases read
  | cons kind left => exact no_further_content (.ext kind) n left head rest behind read

theorem no_further_sized_ext (width : Nat) : LooksNoFurther (readSizedExt width) :=
  no_further_bind _ readExt (no_further_nat width) no_further_ext

theorem no_further_whole (item : Item) :
    LooksNoFurther fun bytes => some (Head.whole item, bytes) := by
  intro bytes head rest behind read
  cases read
  rfl

-- One case for each form of a code byte, in the order in which `readHead` tells them apart.
theorem no_further_head : LooksNoFurther readHead := by
  intro bytes head rest behind
  cases bytes with
  | nil =>
      intro read
      cases read
  | cons code left =>
      simp only [readHead, List.cons_append]
      split
      · exact no_further_whole _ left head rest behind
      split
      · intro read
        cases read
        rfl
      split
      · intro read
        cases read
        rfl
      split
      · exact no_further_content .str _ left head rest behind
      split
      · exact no_further_whole _ left head rest behind
      split
      · exact no_further_whole .nil left head rest behind
      · exact no_further_whole (.bool false) left head rest behind
      · exact no_further_whole (.bool true) left head rest behind
      · exact no_further_sized .bin 1 left head rest behind
      · exact no_further_sized .longBin 2 left head rest behind
      · exact no_further_sized .longBin 4 left head rest behind
      · exact no_further_sized_ext 1 left head rest behind
      · exact no_further_sized_ext 2 left head rest behind
      · exact no_further_sized_ext 4 left head rest behind
      · exact no_further_content .float 4 left head rest behind
      · exact no_further_content .float 8 left head rest behind
      · exact no_further_uint 1 left head rest behind
      · exact no_further_uint 2 left head rest behind
      · exact no_further_uint 4 left head rest behind
      · exact no_further_uint 8 left head rest behind
      · exact no_further_sint 1 left head rest behind
      · exact no_further_sint 2 left head rest behind
      · exact no_further_sint 4 left head rest behind
      · exact no_further_sint 8 left head rest behind
      · exact no_further_ext 1 left head rest behind
      · exact no_further_ext 2 left head rest behind
      · exact no_further_ext 4 left head rest behind
      · exact no_further_ext 8 left head rest behind
      · exact no_further_ext 16 left head rest behind
      · exact no_further_sized .str 1 left head rest behind
      · exact no_further_sized .str 2 left head rest behind
      · exact no_further_sized .str 4 left head rest behind
      · exact no_further_count .array 2 left head rest behind
      · exact no_further_count .array 4 left head rest behind
      · exact no_further_count .map 2 left head rest behind
      · exact no_further_count .map 4 left head rest behind
      · intro read
        cases read

theorem no_further_many {α : Type} (part : Bytes → Option (α × Bytes)) (first : LooksNoFurther part)
    (count : Nat) (before : List α) : LooksNoFurther (readMany part count before) := by
  induction count generalizing before with
  | zero =>
      intro bytes items rest behind read
      cases read
      rfl
  | succ count ih =>
      intro bytes items rest behind read
      rw [readMany] at read ⊢
      cases found : part bytes with
      | none => rw [found] at read; cases read
      | some result =>
          obtain ⟨a, left⟩ := result
          rw [found] at read
          rw [first bytes a left behind found]
          exact ih (a :: before) left items rest behind read

theorem no_further_entry (item : Bytes → Option (Item × Bytes)) (first : LooksNoFurther item) :
    LooksNoFurther (readEntry item) := by
  intro bytes entry rest behind read
  rw [readEntry] at read ⊢
  cases keyRead : item bytes with
  | none => rw [keyRead] at read; cases read
  | some key =>
      cases valueRead : item key.2 with
      | none => simp [keyRead, valueRead] at read
      | some value =>
          simp only [keyRead, valueRead, Option.some.injEq, Prod.mk.injEq] at read
          obtain ⟨rfl, rfl⟩ := read
          simp only [first bytes key.1 key.2 behind keyRead, first key.2 value.1 value.2 behind valueRead]

-- Induction on the depth to which items may be nested.
theorem no_further_item (depth : Nat) : LooksNoFurther (readItem depth) := by
  induction depth with
  | zero =>
      intro bytes item rest behind read
      rw [readItem.eq_def] at read
      dsimp only at read
      split at read
      · cases read
      · cases read
      · rename_i plain head
        cases read
        exact read_item_of_head 0 item _ _ (no_further_head _ _ _ behind head) plain
      · cases read
      · cases read
  | succ depth ih =>
      intro bytes item rest behind read
      rw [readItem.eq_def] at read
      dsimp only at read
      split at read
      · cases read
      · rename_i kind data left head
        cases read
        rw [readItem, no_further_head _ _ _ behind head]
        rfl
      · rename_i plain head
        cases read
        exact read_item_of_head (depth + 1) item _ _ (no_further_head _ _ _ behind head) plain
      · rename_i count left head
        have items := no_further_map _ Item.array (no_further_many (readItem depth) ih count [])
        rw [readItem, no_further_head _ _ _ behind head]
        exact items left item rest behind read
      · rename_i count left head
        have entries := no_further_map _ Item.map
          (no_further_many (readEntry (readItem depth)) (no_further_entry _ ih) count [])
        rw [readItem, no_further_head _ _ _ behind head]
        exact entries left item rest behind read

-- What is read of a part would be read of the whole as well, with the missing bytes left over.
theorem decode_of_truncated (item : Item) (storable : Storable maxDepth item) (part : Bytes)
    (cut : part <+: item.encode) (short : part ≠ item.encode) : decode part = none := by
  obtain ⟨missing, whole⟩ := cut
  cases partRead : readItem maxDepth part with
  | none => rw [decode, partRead, Option.map_none]
  | some result =>
      have more := no_further_item maxDepth part result.1 result.2 missing partRead
      have all := read_item_encode maxDepth item storable []
      rw [List.append_nil, ← whole, more, Option.some.injEq, Prod.mk.injEq] at all
      have nothing := (List.append_eq_nil_iff.1 all.2).2
      rw [nothing, List.append_nil] at whole
      exact absurd whole short

end Befunge.MessagePack
