import Befunge.Text.Grapheme.Class

/-!
Grapheme clusters: what readers take for one character. A text is cut into its clusters from left to
right; whether a character belongs to the cluster before it depends on nothing but that cluster.

Main statement: `flatten_clusters` says that cutting loses nothing.
-/
set_option autoImplicit false

namespace Befunge.Text.Grapheme

-- Whether a cluster, given with its last character in front, ends in a pictograph, marks on it and
-- a joiner.
def endsInJoinedPictograph : List Char → Bool
  | [] => false
  | joiner :: before =>
      classOf joiner == .joiner &&
        (before.dropWhile (classOf · == .extend)).head?.any (classOf · == .pictograph)

-- Whether a cluster, given with its last character in front, ends in a consonant and marks on it, a
-- linker among them.
def endsInLinkedConsonant (cluster : List Char) : Bool :=
  (cluster.takeWhile isConjunctMark).any isLinker &&
    (cluster.dropWhile isConjunctMark).head?.any (classOf · == .consonant)

-- Whether a cluster, given with its last character in front, ends in half of a flag.
def endsInHalfFlag (cluster : List Char) : Bool :=
  (cluster.takeWhile (classOf · == .regional)).length % 2 == 1

-- Whether a character goes on with a cluster that ends in `last`.
def continues (last : Char) (cluster : List Char) (c : Char) : Bool :=
  match classOf last, classOf c with
  | .carriageReturn, .lineFeed => true
  | .carriageReturn, _ | .lineFeed, _ | .control, _ => false
  | _, .carriageReturn | _, .lineFeed | _, .control => false
  | .leading, .leading | .leading, .vowel | .leading, .openSyllable | .leading, .closedSyllable => true
  | .openSyllable, .vowel | .openSyllable, .trailing | .vowel, .vowel | .vowel, .trailing => true
  | .closedSyllable, .trailing | .trailing, .trailing => true
  | _, .extend | _, .joiner | _, .spacing | .prepend, _ => true
  | _, .consonant => endsInLinkedConsonant cluster
  | _, .pictograph => endsInJoinedPictograph cluster
  | .regional, .regional => endsInHalfFlag cluster
  | _, _ => false

-- The clusters after one more character. All is kept backwards here: the last cluster and the last
-- character of each are in front.
def extendLast (cut : List (List Char)) (c : Char) : List (List Char) :=
  match cut with
  | (last :: before) :: rest =>
      if continues last (last :: before) c then (c :: last :: before) :: rest
      else [c] :: (last :: before) :: rest
  | rest => [c] :: rest

def clusters (text : List Char) : List (List Char) :=
  ((text.foldl extendLast []).map List.reverse).reverse

theorem flatten_extend_last (cut : List (List Char)) (c : Char) :
    (extendLast cut c).flatten = c :: cut.flatten := by
  rcases cut with _ | ⟨_ | ⟨last, before⟩, rest⟩
  · rfl
  · rfl
  · by_cases joined : continues last (last :: before) c = true
    · simp only [extendLast, if_pos joined, List.flatten_cons, List.cons_append]
    · simp only [extendLast, if_neg joined, List.flatten_cons, List.cons_append, List.nil_append]

theorem flatten_foldl_extend_last (text : List Char) (cut : List (List Char)) :
    (text.foldl extendLast cut).flatten = text.reverse ++ cut.flatten := by
  induction text generalizing cut with
  | nil => rfl
  | cons c rest ih =>
      rw [List.foldl_cons, ih, flatten_extend_last, List.reverse_cons, List.append_assoc]
      rfl

theorem flatten_clusters (text : List Char) : (clusters text).flatten = text := by
  rw [clusters, ← List.reverse_flatten, flatten_foldl_extend_last, List.flatten_nil, List.append_nil,
    List.reverse_reverse]

end Befunge.Text.Grapheme
