import Befunge.Proofs.Image.RoundTrip
import Befunge.Proofs.Session.Lockstep

/-!
A session that was saved goes on where it stopped, in whatever session it is loaded into.
-/
set_option autoImplicit false

namespace Befunge

namespace Session

-- The history is dropped, and the rest stays.
def forget (s : Session) : Session :=
  { s with history := s.history.clear }

end Session

namespace Image

open Session

theorem breakpoints_apply_capture (s t : Session) : ((capture s).apply t).breakpoints = s.breakpoints :=
  Breakpoints.of_list_places s.breakpoints

theorem capture_apply_capture (s t : Session) : capture ((capture s).apply t) = capture s := by
  have places := congrArg Breakpoints.places (breakpoints_apply_capture s t)
  rw [capture, places]
  rfl

theorem alike_apply_capture (s t : Session) (bounds : t.config.bounds = s.config.bounds)
    (limit : t.limit = s.limit) (capacity : t.history.capacity = s.history.capacity) :
    Alike ((capture s).apply t) s.forget where
  machine := rfl
  name := rfl
  bounds := bounds
  breakpoints := breakpoints_apply_capture s t
  limit := limit
  history := rfl
  capacity := capacity

-- `s` is saved and loaded into `t`. Whatever is done from then on is answered as `s` itself, without
-- its history, would answer it.
theorem saved_session_resumes (s t : Session) (fits : (capture s).Fits)
    (bounds : t.config.bounds = s.config.bounds) :
    ∃ image, decode (capture s).encode = .ok image ∧
      (image.apply t).source = s.source ∧
      (image.apply t).name = s.name ∧
      (image.apply t).machine = s.machine ∧
      (image.apply t).breakpoints = s.breakpoints ∧
      (image.apply t).history = .empty t.history.capacity ∧
      (image.apply t).config = t.config ∧
      (image.apply t).limit = t.limit ∧
      (image.apply t).tracer = t.tracer ∧
      (capture (image.apply t)).encode = (capture s).encode ∧
      (t.limit = s.limit → t.history.capacity = s.history.capacity →
        ∀ ms, (moves ms (image.apply t)).1 = (moves ms s.forget).1) := by
  have read : decode (capture s).encode = .ok (capture s) := by
    rw [decode_encode_eq (capture s) fits]
    rfl
  refine ⟨capture s, read, rfl, rfl, rfl, breakpoints_apply_capture s t, rfl, rfl, rfl, rfl, ?_, ?_⟩
  · rw [capture_apply_capture]
  · intro limit capacity ms
    exact (alike_moves ms _ _ (alike_apply_capture s t bounds limit capacity)).1

-- A program that stops for a random turn, saved behind it, with a breakpoint and a name.
def paused : Session :=
  let made := construct "1v\n@?@\n @" { seed := 5 } (some "turn") .disabled 3 (some 9)
  (((made.perform (.addBreakpoint ⟨1, 1⟩)).2.perform (.addBreakpoint ⟨0, 1⟩)).2.perform (.move (.steps 3))).2

-- The session it is loaded into has run another program for a while.
def busy : Session :=
  ((construct "23*.@" { seed := 8 } none .disabled 3 (some 9)).perform (.move (.steps 2))).2

theorem saved_session_resumes_after_a_random_turn :
    (capture paused).Fits ∧ paused.machine.generator ≠ (Generator.ofSeed 5) ∧
      busy.history.toList.length = 2 ∧
      ∃ image, decode (capture paused).encode = .ok image ∧ (image.apply busy).machine = paused.machine ∧
        (moves [.proceed 20, .back 1, .run 20] (image.apply busy)).1 =
          (moves [.proceed 20, .back 1, .run 20] paused.forget).1 := by
  have places : ∀ p ∈ (capture paused).breakpoints, p.x < 2 ^ 64 ∧ p.y < 2 ^ 64 := by decide +kernel
  have machine : (capture paused).machine.Fits :=
    ⟨⟨by decide +kernel, by decide +kernel⟩, ⟨by decide +kernel, by decide +kernel⟩, by decide +kernel,
      by decide +kernel⟩
  have name : ∀ text, (capture paused).name = some text → (Source.encode text).length < 2 ^ 32 := by
    intro text same
    cases same
    decide +kernel
  have fits : (capture paused).Fits :=
    ⟨by decide +kernel, name, machine, by decide +kernel,
      fun p member => ⟨(places p member).1, (places p member).2⟩⟩
  obtain ⟨image, read, _, _, same, _, _, _, _, _, _, answers⟩ := saved_session_resumes paused busy fits rfl
  exact ⟨fits, by decide +kernel, by decide +kernel, image, read, same, answers rfl rfl _⟩

end Image

end Befunge
