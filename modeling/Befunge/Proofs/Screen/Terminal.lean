import Befunge.Screen.Paint

/-!
What a terminal makes of a text with colours: the characters that it shows, each with the codes that are in
force there. A sequence shows nothing; it puts one more code in force, or none from then on.
-/
set_option autoImplicit false

namespace Befunge.Screen

structure Glyph where
  char : Char
  codes : List String
deriving DecidableEq, Repr

def switched (codes : List String) (code : String) : List String :=
  if code = "0" then [] else codes ++ [code]

-- The glyphs of a text where these codes are in force. Inside of a sequence, what has been read of its code
-- comes with it, newest first.
def glyphsFrom : List String → Option (List Char) → List Char → List Glyph
  | _, _, [] => []
  | codes, none, '\x1b' :: '[' :: rest => glyphsFrom codes (some []) rest
  | codes, none, c :: rest => ⟨c, codes⟩ :: glyphsFrom codes none rest
  | codes, some code, 'm' :: rest => glyphsFrom (switched codes (String.ofList code.reverse)) none rest
  | codes, some code, c :: rest => glyphsFrom codes (some (c :: code)) rest

def glyphs (text : String) : List Glyph :=
  glyphsFrom [] none text.toList

-- The text without its sequences.
def bare (text : String) : List Char :=
  (glyphs text).map Glyph.char

section Reading

variable (codes : List String) (c : Char) (text rest : List Char)

theorem glyphs_cons (plain : c ≠ '\x1b') :
    glyphsFrom codes none (c :: rest) = ⟨c, codes⟩ :: glyphsFrom codes none rest := by
  rw [glyphsFrom]
  intro _ same
  exact absurd same plain

theorem glyphs_append (plain : '\x1b' ∉ text) :
    glyphsFrom codes none (text ++ rest) = text.map (⟨·, codes⟩) ++ glyphsFrom codes none rest := by
  induction text with
  | nil => rfl
  | cons c text ih =>
      obtain ⟨here, later⟩ := not_or.1 (mt List.mem_cons.2 plain)
      rw [List.cons_append, glyphs_cons codes c _ (Ne.symm here), ih later]
      rfl

theorem glyphs_code (code read : List Char) (inside : 'm' ∉ code) :
    glyphsFrom codes (some read) (code ++ 'm' :: rest) =
      glyphsFrom (switched codes (String.ofList (read.reverse ++ code))) none rest := by
  induction code generalizing read with
  | nil => rw [List.nil_append, glyphsFrom, List.append_nil]
  | cons c code ih =>
      obtain ⟨here, later⟩ := not_or.1 (mt List.mem_cons.2 inside)
      rw [List.cons_append, glyphsFrom, ih (c :: read) later, List.reverse_cons, List.append_assoc,
        List.singleton_append]
      exact fun same => here same.symm

theorem glyphs_escape (code : String) (inside : 'm' ∉ code.toList) :
    glyphsFrom codes none ((escape code).toList ++ rest) = glyphsFrom (switched codes code) none rest := by
  have spelled : (escape code).toList ++ rest = '\x1b' :: '[' :: (code.toList ++ 'm' :: rest) := by
    simp [escape]
  rw [spelled, glyphsFrom, glyphs_code codes rest code.toList [] inside]
  simp

-- A painted text leaves no code in force, whatever was in force before it.
theorem glyphs_paint (code painted : String) (inside : 'm' ∉ code.toList) (plain : '\x1b' ∉ painted.toList) :
    glyphsFrom codes none ((paint (escape code) painted).toList ++ rest) =
      painted.toList.map (⟨·, switched codes code⟩) ++ glyphsFrom [] none rest := by
  rw [paint, String.toList_append, String.toList_append, List.append_assoc, List.append_assoc,
    glyphs_escape codes _ code inside, glyphs_append _ painted.toList _ plain, Screen.plain,
    glyphs_escape _ rest "0" (by decide)]
  rfl

end Reading

-- Among other text, where no code is in force, this text shows these glyphs and leaves no code in force.
def Shows (text : List Char) (shown : List Glyph) : Prop :=
  ∀ rest, glyphsFrom [] none (text ++ rest) = shown ++ glyphsFrom [] none rest

theorem glyphs_of_shows (text : String) (shown : List Glyph) (shows : Shows text.toList shown) :
    glyphs text = shown := by
  have alone := shows []
  rwa [List.append_nil, glyphsFrom, List.append_nil] at alone

theorem shows_plain (text : List Char) (plain : '\x1b' ∉ text) : Shows text (text.map (⟨·, []⟩)) :=
  fun rest => glyphs_append [] text rest plain

theorem shows_paint (code painted : String) (inside : 'm' ∉ code.toList) (plain : '\x1b' ∉ painted.toList) :
    Shows (paint (escape code) painted).toList (painted.toList.map (⟨·, switched [] code⟩)) :=
  fun rest => glyphs_paint [] rest code painted inside plain

theorem shows_append (text later : List Char) (shown shownLater : List Glyph) (first : Shows text shown)
    (second : Shows later shownLater) : Shows (text ++ later) (shown ++ shownLater) := by
  intro rest
  rw [List.append_assoc, first, second, List.append_assoc]

end Befunge.Screen
