import Befunge.Launch.Run
import Befunge.Proofs.Session.Bare

/-!
A program run from the command line. Whatever the options, the machine takes the steps that it takes
alone, and what is printed is what it has written by the end.
-/
set_option autoImplicit false

namespace Befunge

namespace Launch

namespace Options

-- The numbers among the options are words of 64 bits.
structure Fits (options : Options) : Prop where
  seed : ∀ n, options.seed = some n → n < UInt64.size
  maxSteps : ∀ n, options.maxSteps = some n → n < UInt64.size

theorem fits_flag (options next : Options) (word : String) (fits : options.Fits)
    (flag : options.flag? word = some next) : next.Fits := by
  unfold flag? at flag
  split at flag
  all_goals cases flag
  all_goals exact ⟨fits.seed, fits.maxSteps⟩

theorem fits_argument (options next : Options) (word : String) (fits : options.Fits)
    (taken : options.argument word = .ok next) : next.Fits := by
  rw [argument] at taken
  split at taken
  · rename_i set flag
    cases taken
    exact fits_flag options next word fits flag
  · split at taken
    · cases taken
    · split at taken
      · cases taken
      · cases taken
        exact ⟨fits.seed, fits.maxSteps⟩

theorem fits_setting (options : Options) (set : Nat → Options) (word : String) (n : Nat) (fits : options.Fits)
    (setting : options.setting? word = some set) (small : n < UInt64.size) : (set n).Fits := by
  unfold setting? at setting
  split at setting
  · cases setting
    exact ⟨fun m same => Option.some.inj same ▸ small, fits.maxSteps⟩
  · cases setting
    exact ⟨fits.seed, fun m same => Option.some.inj same ▸ small⟩
  · cases setting

theorem natural_lt (text : String) (n : Nat) (read : Text.natural? text = some n) : n < UInt64.size := by
  rw [Text.natural?, Option.filter_eq_some_iff] at read
  exact of_decide_eq_true read.2

theorem fits_parse_from (options last : Options) (arguments : List String) (fits : options.Fits)
    (parsed : parseFrom options arguments = .ok last) : last.Fits := by
  induction options, arguments using parseFrom.induct with
  | case1 options =>
      cases parsed
      exact fits
  | case2 options word set setting =>
      simp only [parseFrom, setting] at parsed
      cases parsed
  | case3 options word other =>
      simp only [parseFrom, other] at parsed
      exact fits_argument options last word fits parsed
  | case4 options word value rest set setting n read ih =>
      simp only [parseFrom, setting, read] at parsed
      exact ih (fits_setting options set word n fits setting (natural_lt value n read)) parsed
  | case5 options word value rest set setting unread =>
      simp only [parseFrom, setting, unread] at parsed
      cases parsed
  | case6 options word value rest other next taken ih =>
      simp only [parseFrom, other, taken] at parsed
      exact ih (fits_argument options next word fits taken) parsed
  | case7 options word value rest other refusal refused =>
      simp only [parseFrom, other, refused] at parsed
      cases parsed

theorem fits_parse (arguments : List String) (options : Options) (parsed : parse arguments = .ok options) :
    options.Fits :=
  fits_parse_from {} options arguments ⟨fun _ none => (nomatch none), fun _ none => (nomatch none)⟩ parsed

end Options

def config (options : Options) (seed : UInt64) : Config :=
  { seed := (options.seed.map UInt64.ofNat).getD seed
    bounds := if options.strict then .strict else .lenient }

-- The program alone, for so many steps.
def bare (options : Options) (seed : UInt64) (bytes : Bytes) (n : Nat) : Machine.RunEnd × Machine :=
  Machine.run (config options seed).bounds n
    (Machine.load (Source.decode bytes).text (config options seed))

theorem seed_config (options : Options) (seed : UInt64) (fits : options.Fits) :
    (config options seed).seed.toNat = options.seed.getD seed.toNat := by
  cases given : options.seed with
  | none => simp [config, given]
  | some n =>
      have small := fits.seed n given
      simp [config, given, Nat.mod_eq_of_lt small]

-- A run of so many steps is one that a limit ends at the latest, or the program itself.
def Ends (options : Options) (seed : UInt64) (bytes : Bytes) (n : Nat) : Prop :=
  options.maxSteps = some n ∨ options.maxSteps = none ∧ (bare options seed bytes n).1 ≠ .paused

theorem ends_within_session (options : Options) (seed : UInt64) (path : String) (bytes : Bytes) (n : Nat)
    (fits : options.Fits) (ends : Ends options seed bytes n) :
    Session.EndsWithin n { session options seed path (Source.decode bytes).text with history := .empty 0 } := by
  rw [Session.EndsWithin, session]
  dsimp only
  rcases ends with limited | ⟨unlimited, ended⟩
  · have small := fits.maxSteps n limited
    rw [limited]
    simp [Session.start, Machine.load, Nat.mod_eq_of_lt small]
  · rw [unlimited]
    exact ended

theorem run_program_of_runs (options : Options) (n : Nat) (s ended : Session) (result : Except Error Unit)
    (runs : Session.Runs n { s with history := .empty 0 } ended result) :
    ∃ stderr, ∀ fuel, n < fuel → runProgram fuel options s =
      some { code := if ended.machine.halted then 0 else 1, stdout := ended.machine.output, stderr } := by
  cases result with
  | ok =>
      rw [if_pos (runs.ok.1 rfl)]
      exact ⟨_, fun fuel enough => by rw [runProgram, runs.run fuel enough]⟩
  | error error =>
      have running : ¬ ended.machine.halted = true := fun halted => nomatch runs.ok.2 halted
      rw [if_neg running]
      exact ⟨_, fun fuel enough => by rw [runProgram, runs.run fuel enough]⟩

section Running

variable (fuel : Nat) (seed : UInt64) (arguments : List String) (options : Options) (files : Files)
variable (input path : String) (bytes : Bytes)

structure Asks (arguments : List String) (options : Options) (path : String) : Prop where
  parsed : Options.parse arguments = .ok options
  help : options.help = false
  version : options.version = false
  debug : options.debug = false
  file : options.file = some path

theorem run_of_asks (asks : Asks arguments options path) (opened : files.openRead path = .ok (.file bytes)) :
    run fuel seed arguments files input =
      runProgram fuel options (session options seed path (Source.decode bytes).text) := by
  rw [run, task, asks.parsed]
  simp only [asks.help, asks.version, asks.debug, asks.file, Bool.false_eq_true, if_false, Files.perform, opened,
    programIn]

theorem run_prints_bare (n : Nat) (asks : Asks arguments options path)
    (opened : files.openRead path = .ok (.file bytes)) (ends : Ends options seed bytes n) :
    ∃ stderr, ∀ fuel, n < fuel → run fuel seed arguments files input =
      some
        { code := if (bare options seed bytes n).2.halted then 0 else 1
          stdout := (bare options seed bytes n).2.output
          stderr } := by
  have fits := Options.fits_parse arguments options asks.parsed
  obtain ⟨ended, result, runs⟩ :=
    Session.run_is_bare n _ (ends_within_session options seed path bytes n fits ends)
  obtain ⟨stderr, printed⟩ := run_program_of_runs options n _ ended result runs
  refine ⟨stderr, fun fuel enough => ?_⟩
  have machine : ended.machine = (bare options seed bytes n).2 := runs.machine
  rw [run_of_asks fuel seed arguments options files input path bytes asks opened, printed fuel enough, machine]

-- The program runs as the machine alone does, to the same output, and the exit code tells whether it
-- halted. What is traced or shown besides goes elsewhere.
theorem command_line_runs_the_program (n : Nat) (asks : Asks arguments options path)
    (opened : files.openRead path = .ok (.file bytes)) (ends : Ends options seed bytes n) :
    (config options seed).seed.toNat = options.seed.getD seed.toNat ∧
    ∃ result,
      (∀ fuel, n < fuel → run fuel seed arguments files input = some result) ∧
      result.stdout = (bare options seed bytes n).2.output ∧
      (result.code = 0 ↔ (bare options seed bytes n).2.halted = true) ∧
      ∀ (others : List String) (trace traceJson dumpState : Bool),
        Asks others { options with trace, traceJson, dumpState } path →
        ∃ stderr, ∀ fuel, n < fuel → run fuel seed others files input = some { result with stderr } := by
  obtain ⟨stderr, printed⟩ := run_prints_bare seed arguments options files input path bytes n asks opened ends
  refine ⟨seed_config options seed (Options.fits_parse arguments options asks.parsed), _, printed, rfl, ?_, ?_⟩
  · dsimp only
    cases (bare options seed bytes n).2.halted <;> decide
  · intro others trace traceJson dumpState alike
    exact run_prints_bare seed others { options with trace, traceJson, dumpState } files input path bytes n
      alike opened ends

end Running

-- The text of a byte that is no UTF-8, and then a read outside of the grid.
def scribble : Bytes := [0x22, 0xE9, 0x22, 0x2C, 0x39, 0x35, 0x67, 0x40]

def desk : Files := { entries := [(["scribble"], scribble)] }

def strictly : Options :=
  { file := some "scribble", maxSteps := some 9, strict := true, trace := true, traceJson := true }

theorem command_line_runs_the_program_up_to_a_fault :
    Asks ["--trace-json", "--max-steps", "9", "--strict", "scribble"] strictly "scribble" ∧
    ∃ result, result.stdout = "é" ∧ result.code ≠ 0 ∧
      (∀ fuel, 9 < fuel →
        run fuel 0 ["--trace-json", "--max-steps", "9", "--strict", "scribble"] desk "" = some result) ∧
      ∃ stderr, ∀ fuel, 9 < fuel →
        run fuel 0 ["--dump-state", "scribble", "--strict", "--max-steps", "+09"] desk "" =
          some { result with stderr } := by
  have asks : Asks ["--trace-json", "--max-steps", "9", "--strict", "scribble"] strictly "scribble" :=
    ⟨by decide +kernel, rfl, rfl, rfl, rfl⟩
  have alike : Asks ["--dump-state", "scribble", "--strict", "--max-steps", "+09"]
      { strictly with trace := false, traceJson := false, dumpState := true } "scribble" :=
    ⟨by decide +kernel, rfl, rfl, rfl, rfl⟩
  obtain ⟨_, result, printed, stdout, code, others⟩ :=
    command_line_runs_the_program 0 _ strictly desk "" "scribble" scribble 9 asks (by decide +kernel) (.inl rfl)
  refine ⟨asks, result, ?_, ?_, printed, others _ false false true alike⟩
  · rw [stdout]
    decide +kernel
  · rw [Ne, code]
    decide +kernel

end Launch

end Befunge
