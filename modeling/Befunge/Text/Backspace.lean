import Befunge.Text.Grapheme.Cluster

/-!
Typed lines in which the character U+0008 takes back the grapheme cluster typed before it.

Main statement: `apply_backspaces_of_not_mem` says that a line without backspaces stays as it is.
-/
set_option autoImplicit false

namespace Befunge.Text

def backspace : Char := '\x08'

-- What has been typed and not taken back.
structure Typed where
  -- The text, its last character in front.
  backwards : List Char := []
  -- How many bytes of the text each backspace will take back, the next one first.
  sizes : List UInt8 := []
deriving DecidableEq, Repr, Inhabited

namespace Typed

def utf8Size (text : List Char) : Nat :=
  text.foldr (fun c size => c.utf8Size + size) 0

-- The text without so many of its bytes in front. Characters are not cut: the last one goes as a
-- whole.
def dropBytes : Nat → List Char → List Char
  | 0, text => text
  | _, [] => []
  | size + 1, c :: rest => dropBytes (size + 1 - c.utf8Size) rest

def takeBack (t : Typed) : Typed :=
  match t.sizes with
  | [] => t
  | size :: sizes => { backwards := dropBytes size.toNat t.backwards, sizes }

-- Types a cluster. Its size is kept in one byte, so that of a cluster of 256 bytes or more only the
-- rest over a multiple of 256 can be taken back.
def add (cluster : List Char) (t : Typed) : Typed :=
  { backwards := cluster.reverse ++ t.backwards
    sizes := (utf8Size cluster).toUInt8 :: t.sizes }

-- A backspace is a cluster of its own.
def key (t : Typed) (cluster : List Char) : Typed :=
  if cluster = [backspace] then t.takeBack else t.add cluster

end Typed

-- The line that is left when every backspace has been carried out; one with nothing before it has
-- no effect.
def applyBackspaces (line : List Char) : List Char :=
  ((Grapheme.clusters line).foldl Typed.key {}).backwards.reverse

theorem backwards_foldl_key (keys : List (List Char)) (t : Typed) (plain : [backspace] ∉ keys) :
    (keys.foldl Typed.key t).backwards = keys.flatten.reverse ++ t.backwards := by
  induction keys generalizing t with
  | nil => rfl
  | cons cluster rest ih =>
      rw [List.mem_cons, not_or] at plain
      rw [List.foldl_cons, ih _ plain.2, Typed.key, if_neg (Ne.symm plain.1), Typed.add,
        List.flatten_cons, List.reverse_append, List.append_assoc]

theorem apply_backspaces_of_not_mem (line : List Char) (plain : backspace ∉ line) :
    applyBackspaces line = line := by
  have absent : [backspace] ∉ Grapheme.clusters line := by
    intro present
    apply plain
    rw [← Grapheme.flatten_clusters line]
    exact List.mem_flatten.2 ⟨[backspace], present, List.mem_singleton.2 rfl⟩
  rw [applyBackspaces, backwards_foldl_key _ _ absent, Grapheme.flatten_clusters, List.append_nil,
    List.reverse_reverse]

end Befunge.Text
