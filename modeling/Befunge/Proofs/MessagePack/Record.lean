import Mathlib.Data.List.Nodup
import Befunge.MessagePack.Fields
import Befunge.Proofs.MessagePack.Item
import Befunge.Proofs.Source.Utf8

/-!
Records, texts and sequences: what a record was made of is found in it again, and whatever is found in
an item that has a written form has one too.
-/
set_option autoImplicit false

namespace Befunge

namespace MessagePack

-- Some item that was, or can be, written: how deep it stands does not matter to what it holds.
def Stored (item : Item) : Prop :=
  ∃ depth, Storable depth item

theorem map_m_written {α : Type} (read : Item → Option α) (write : α → Item) (values : List α)
    (written : ∀ a ∈ values, read (write a) = some a) : (values.map write).mapM read = some values := by
  induction values with
  | nil => rfl
  | cons a rest ih =>
      have first := written a List.mem_cons_self
      have others := ih fun b member => written b (List.mem_cons_of_mem a member)
      simp [List.mapM_cons, first, others]

theorem map_m_members {α : Type} (read : Item → Option α) (items : List Item) (values : List α)
    (done : items.mapM read = some values) :
    values.length = items.length ∧ ∀ a ∈ values, ∃ item ∈ items, read item = some a := by
  induction items generalizing values with
  | nil =>
      cases done
      simp
  | cons item rest ih =>
      rw [List.mapM_cons] at done
      obtain ⟨a, first, others⟩ := Option.bind_eq_some_iff.1 done
      obtain ⟨later, restDone, same⟩ := Option.bind_eq_some_iff.1 others
      cases same
      obtain ⟨length, members⟩ := ih later restDone
      refine ⟨by rw [List.length_cons, List.length_cons, length], ?_⟩
      intro b member
      rcases List.mem_cons.1 member with rfl | inRest
      · exact ⟨item, List.mem_cons_self, first⟩
      · obtain ⟨source, inside, read⟩ := members b inRest
        exact ⟨source, List.mem_cons_of_mem item inside, read⟩

namespace Item

@[simp] theorem text_of_text (text : String) : (ofText text).text? = some text := by
  simp [ofText, text?, bytes?, Source.utf8_encode]

@[simp] theorem char_of_text_singleton (c : Char) : (ofText (String.singleton c)).char? = some c := by
  simp [ofText, char?, Source.utf8_encode]

@[simp] theorem nat_below_of_nat (bound n : Nat) (inside : n < bound) :
    (ofNat n).natBelow? bound = some n := by
  simp only [ofNat, natBelow?, int?]
  rw [if_pos (by omega), Int.toNat_natCast]

@[simp] theorem int_of_int (i : Int) : (ofInt i).int? = some i := by
  unfold ofInt
  by_cases natural : 0 ≤ i
  · rw [if_pos natural, int?, Int.toNat_of_nonneg natural]
  · rw [if_neg natural, int?]

theorem list_written {α : Type} (read : Item → Option α) (write : α → Item) (values : List α)
    (written : ∀ a ∈ values, read (write a) = some a) :
    (Item.array (values.map write)).list? read = some values :=
  map_m_written read write values written

theorem text_small (item : Item) (text : String) (stored : Stored item) (read : item.text? = some text) :
    (Source.encode text).length < 2 ^ 32 := by
  obtain ⟨bytes, found, utf8⟩ := Option.bind_eq_some_iff.1 read
  rw [Source.encode_of_utf8 bytes text utf8]
  obtain ⟨depth, storable⟩ := stored
  cases storable with
  | str depth content size => cases found; exact size
  | bin depth content size => cases found; omega
  | longBin depth content size => cases found; exact size
  | _ => cases found

theorem nat_below_small (bound : Nat) (item : Item) (n : Nat) (read : item.natBelow? bound = some n) :
    n < bound := by
  rw [natBelow?] at read
  split at read
  · split at read
    · rename_i i inside
      cases read
      omega
    · cases read
  · cases read

theorem stored_byte (b : UInt8) : Stored (.uint b.toNat) := by
  have small := b.toNat_lt
  exact ⟨0, .uint 0 b.toNat (by omega)⟩

theorem stored_items (item : Item) (items : List Item) (stored : Stored item)
    (read : item.items? = some items) : items.length < 2 ^ 32 ∧ ∀ part ∈ items, Stored part := by
  have ofBytes : ∀ bytes : Bytes, ∀ part ∈ bytes.map (fun b => Item.uint b.toNat), Stored part := by
    intro bytes part member
    obtain ⟨b, _, rfl⟩ := List.mem_map.1 member
    exact stored_byte b
  obtain ⟨depth, storable⟩ := stored
  cases storable with
  | array depth parts count inside =>
      cases read
      exact ⟨count, fun part member => ⟨depth, inside part member⟩⟩
  | bin depth content size =>
      cases read
      exact ⟨by rw [List.length_map]; omega, ofBytes content⟩
  | longBin depth content size =>
      cases read
      exact ⟨by rw [List.length_map]; exact size, ofBytes content⟩
  | _ => cases read

theorem stored_items_of (count : Nat) (item : Item) (items : List Item) (stored : Stored item)
    (read : item.itemsOf? count = some items) : ∀ part ∈ items, Stored part := by
  have ofBytes : ∀ bytes : Bytes, (split? count bytes).map (fun cut =>
      cut.1.map fun b => Item.uint b.toNat) = some items → ∀ part ∈ items, Stored part := by
    intro bytes split part member
    obtain ⟨⟨taken, rest⟩, _, rfl⟩ := Option.map_eq_some_iff.1 split
    obtain ⟨b, _, rfl⟩ := List.mem_map.1 member
    exact stored_byte b
  obtain ⟨depth, storable⟩ := stored
  cases storable with
  | array depth parts size inside =>
      rw [itemsOf?] at read
      split at read
      · cases read
        exact fun part member => ⟨depth, inside part member⟩
      · cases read
  | bin depth content size => exact ofBytes content read
  | longBin depth content size => exact ofBytes content read
  | _ => cases read

theorem stored_list {α : Type} (read : Item → Option α) (item : Item) (values : List α)
    (stored : Stored item) (found : item.list? read = some values) :
    values.length < 2 ^ 32 ∧ ∀ a ∈ values, ∃ part, Stored part ∧ read part = some a := by
  obtain ⟨items, inside, done⟩ := Option.bind_eq_some_iff.1 found
  obtain ⟨count, parts⟩ := stored_items item items stored inside
  obtain ⟨length, members⟩ := map_m_members read items values done
  refine ⟨by rw [length]; exact count, ?_⟩
  intro a member
  obtain ⟨part, there, same⟩ := members a member
  exact ⟨part, parts part there, same⟩

end Item

theorem key_of_name (names : List String) (unique : names.Nodup) (i : Nat) (inside : i < names.length) :
    key? names (Item.ofText names[i]) = some (.field i) := by
  have found : names.findIdx? (Source.encode · == Source.encode names[i]) = some i := by
    rw [List.findIdx?_eq_some_iff_getElem]
    refine ⟨inside, by simp, ?_⟩
    intro j earlier same
    have equal := Source.encode_injective _ _ (by simpa using same)
    have places := (List.Nodup.getElem_inj_iff unique).1 equal
    omega
  simp only [Item.ofText, key?, found]

-- Induction on the entries that are left; those before them have filled the fields before.
theorem collect_of_record (done rest : List (String × Item))
    (unique : ((done ++ rest).map Prod.fst).Nodup) :
    collect ((done ++ rest).map Prod.fst)
        (done.map (fun field => some field.2) ++ rest.map fun _ => none)
        (rest.map fun (name, item) => (Item.ofText name, item)) =
      some ((done ++ rest).map fun field => some field.2) := by
  induction rest generalizing done with
  | nil => simp [collect]
  | cons field later ih =>
      obtain ⟨name, item⟩ := field
      have shape : done ++ (name, item) :: later = (done ++ [(name, item)]) ++ later := by simp
      have inside : done.length < ((done ++ (name, item) :: later).map Prod.fst).length := by simp
      have place : ((done ++ (name, item) :: later).map Prod.fst)[done.length] = name := by simp
      have key := key_of_name ((done ++ (name, item) :: later).map Prod.fst) unique done.length inside
      rw [place] at key
      have others := ih (done ++ [(name, item)]) (by rw [← shape]; exact unique)
      rw [← shape] at others
      simp only [List.map_cons, collect, key]
      simpa using others

theorem fields_of_record (fields : List (String × Item)) (unique : (fields.map Prod.fst).Nodup) :
    fields? (fields.map Prod.fst) (Item.ofRecord fields) = some (fields.map fun field => some field.2) := by
  have collected := collect_of_record [] fields unique
  simpa [fields?, Item.ofRecord, Function.comp_def] using collected

-- A record of given field names, with items that can be written, can be written itself.
theorem storable_of_record (depth : Nat) (names : List String) (fields : List (String × Item))
    (same : fields.map Prod.fst = names) (few : names.length < 2 ^ 32)
    (short : ∀ name ∈ names, (Source.encode name).length < 2 ^ 32)
    (storable : ∀ item ∈ fields.map Prod.snd, Storable depth item) :
    Storable (depth + 1) (Item.ofRecord fields) := by
  subst same
  rw [List.length_map] at few
  refine .map depth _ (by rw [List.length_map]; exact few) ?_ ?_
  · intro entry member
    obtain ⟨field, inside, rfl⟩ := List.mem_map.1 member
    exact .str depth _ (short field.1 (List.mem_map.2 ⟨field, inside, rfl⟩))
  · intro entry member
    obtain ⟨field, inside, rfl⟩ := List.mem_map.1 member
    exact storable field.2 (List.mem_map.2 ⟨field, inside, rfl⟩)

theorem storable_array {α : Type} (depth : Nat) (write : α → Item) (values : List α)
    (count : values.length < 2 ^ 32) (storable : ∀ a ∈ values, Storable depth (write a)) :
    Storable (depth + 1) (.array (values.map write)) := by
  refine .array depth _ (by rw [List.length_map]; exact count) ?_
  intro item member
  obtain ⟨a, inside, rfl⟩ := List.mem_map.1 member
  exact storable a inside

theorem collect_members (names : List String) (P : Item → Prop) (entries : List (Item × Item))
    (found all : List (Option Item)) (good : ∀ entry ∈ entries, P entry.2)
    (goodBefore : ∀ item, some item ∈ found → P item) (collected : collect names found entries = some all) :
    ∀ item, some item ∈ all → P item := by
  induction entries generalizing found with
  | nil =>
      cases collected
      exact goodBefore
  | cons entry rest ih =>
      obtain ⟨key, value⟩ := entry
      have goodRest : ∀ entry ∈ rest, P entry.2 := fun entry member =>
        good entry (List.mem_cons_of_mem _ member)
      rw [collect] at collected
      split at collected
      · cases collected
      · exact ih found goodRest goodBefore collected
      · split at collected
        · refine ih _ goodRest ?_ collected
          intro item member
          rcases List.mem_or_eq_of_mem_set member with before | now
          · exact goodBefore item before
          · cases now
            exact good (key, value) List.mem_cons_self
        · cases collected

theorem stored_fields (names : List String) (item : Item) (found : List (Option Item))
    (stored : Stored item) (read : fields? names item = some found) :
    ∀ field, some field ∈ found → Stored field := by
  have fromSequence : ∀ items, item.itemsOf? names.length = some items → items.map some = found →
      ∀ field, some field ∈ found → Stored field := by
    intro items sequence same field member
    rw [← same, List.mem_map] at member
    obtain ⟨part, inside, equal⟩ := member
    rw [Option.some.injEq] at equal
    rw [← equal]
    exact Item.stored_items_of _ item items stored sequence part inside
  cases item with
  | map entries =>
      obtain ⟨depth, storable⟩ := stored
      cases storable with
      | map depth _ count keys values =>
          exact collect_members names Stored entries _ found
            (fun entry member => ⟨depth, values entry member⟩) (by simp) read
  | _ =>
      simp only [fields?] at read
      obtain ⟨items, sequence, same⟩ := Option.map_eq_some_iff.1 read
      exact fromSequence items sequence same

end MessagePack

end Befunge
