import SpriteMachine.Proofs.Halting
import SpriteMachine.Proofs.Landing
import SpriteMachine.Proofs.Loading

/-! Straight code. A step that neither fails, waits, jumps nor returns takes the counter up by one word or
two, so the memory bounds how many of them there are in a row. Nothing is assumed of the program, which may
rewrite itself on the way. A program that never comes upon a word to turn at runs out of memory. -/

namespace SpriteMachine

def Instruction.Turns (word : UInt16) : Prop :=
  Word.group word ∈ [0x1, 0x2, 0xB] ∨ word = 0x00EE ∨ ∃ x, word = layoutByte 0xF x 0x0A

namespace Machine

open Instruction

variable {G : Type}

/-- A running machine with nothing but zeros ahead. -/
structure Blank (machine : Machine G) : Prop where
  running : machine.isHalted = false
  zeros : ∀ address, machine.counter ≤ address → machine.memory.byte address = 0

theorem Blank.fetched? {machine : Machine G} (blank : machine.Blank)
    (inside : machine.counter + 1 < 0x1000) : machine.fetched? = some 0 :=
  fetched?_of_zeros inside (blank.zeros _ (Nat.le_refl _)) (blank.zeros _ (Nat.le_succ _))

theorem blank_fresh {program : Program} (bare : program.data = []) (screen : Screen) (random : G) :
    (fresh program.memory screen random).Blank where
  running := rfl
  zeros address behind := by
    have start : 0x200 ≤ address := behind
    refine (program.byte_memory_of_outside ?_).trans ?_
    · rw [bare, List.length_nil]
      simp only [Memory.programStart]
      omega
    · rw [Memory.byte_initial]
      exact Font.byteAt_of_le (Nat.le_trans (by decide) start)

variable [Generator G]

section Steps

variable {machine : Machine G} {keys : Keypad}

theorem exists_ok_of_not_diverts (straight : ¬ machine.Diverts keys) :
    ∃ outcome, (machine.step keys).1 = .ok outcome := by
  rcases result : (machine.step keys).1 with fault | outcome
  · exact absurd (.failed fault result) straight
  · exact ⟨outcome, rfl⟩

theorem counter_step_of_not_diverts (straight : ¬ machine.Diverts keys) :
    machine.counter + 1 < 0x1000 ∧ machine.counter + 2 ≤ (machine.step keys).2.counter ∧
      (machine.step keys).2.counter ≤ machine.counter + 4 := by
  obtain ⟨outcome, ok⟩ := exists_ok_of_not_diverts straight
  obtain ⟨word, fetched⟩ := exists_fetched_of_step_ok ok
  refine ⟨counter_lt_of_fetched fetched, ?_⟩
  cases (machine.diverts_or_proceeds keys).resolve_left straight with
  | next moved | skipped _ _ _ moved => omega

theorem step_of_diverts (running : machine.isHalted = false)
    (straight : ∀ word, machine.fetched? = some word → ¬ Turns word) (diverts : machine.Diverts keys) :
    0x1000 ≤ machine.counter + 1 ∧
      (machine.step keys).1 = .error (.fetch ⟨machine.counter, 0x1000⟩) := by
  cases diverts with
  | failed fault failed =>
    cases (step_error_iff running keys).1 failed with
    | unfetched outside => exact ⟨outside, failed⟩
    | returned fetched empty => exact absurd (.inr (.inl rfl)) (straight _ fetched)
    | called target fetched inside full =>
      exact absurd (.inl (by simp [group_layoutAddress])) (straight _ fetched)
  | waited result =>
    obtain ⟨word, fetched⟩ := exists_fetched_of_step_ok result
    exact absurd (.inr (.inr ((step_waits_iff running fetched).1 result).1)) (straight word fetched)
  | jumped word digit carried => exact absurd (.inl digit) (straight word carried.1)
  | returned carried => exact absurd (.inr (.inl rfl)) (straight _ carried.1)

end Steps

def GoesStraight (machine : Machine G) (actions : List Action) : Prop :=
  ∀ earlier keys later, actions = earlier ++ .step keys :: later →
    ¬ (machine.run earlier).Diverts keys

theorem goesStraight_nil (machine : Machine G) : machine.GoesStraight [] := by
  intro earlier keys later split
  cases List.append_eq_nil_iff.1 split.symm with
  | intro _ extra => cases extra

theorem goesStraight_cons {machine : Machine G} {action : Action} {later : List Action} :
    machine.GoesStraight (action :: later) ↔
      (∀ keys, action = .step keys → ¬ machine.Diverts keys) ∧
        (machine.act action).GoesStraight later := by
  constructor
  · refine fun straight => ⟨?_, fun earlier keys rest split => ?_⟩
    · rintro keys rfl
      exact straight [] keys later rfl
    · exact straight (action :: earlier) keys rest (congrArg (action :: ·) split)
  · rintro ⟨now, onward⟩ earlier keys rest split
    cases earlier with
    | nil =>
      cases split
      exact now keys rfl
    | cons first earlier =>
      cases split
      exact onward earlier keys rest rfl

theorem exists_first_diversion (machine : Machine G) (actions : List Action) :
    machine.GoesStraight actions ∨
      ∃ earlier keys later, actions = earlier ++ .step keys :: later ∧
        machine.GoesStraight earlier ∧ (machine.run earlier).Diverts keys := by
  induction actions generalizing machine with
  | nil => exact .inl machine.goesStraight_nil
  | cons action later ih =>
    by_cases first : ∃ keys, action = .step keys ∧ machine.Diverts keys
    · obtain ⟨keys, rfl, diverts⟩ := first
      exact .inr ⟨[], keys, later, rfl, machine.goesStraight_nil, diverts⟩
    · have now : ∀ keys, action = .step keys → ¬ machine.Diverts keys :=
        fun keys same diverts => first ⟨keys, same, diverts⟩
      rcases ih (machine.act action) with straight | ⟨earlier, keys, rest, rfl, straight, diverts⟩
      · exact .inl (goesStraight_cons.2 ⟨now, straight⟩)
      · exact .inr ⟨action :: earlier, keys, rest, rfl, goesStraight_cons.2 ⟨now, straight⟩, diverts⟩

namespace GoesStraight

variable {machine : Machine G} {actions : List Action}

theorem isHalted_run (straight : machine.GoesStraight actions)
    (running : machine.isHalted = false) : (machine.run actions).isHalted = false := by
  induction actions generalizing machine with
  | nil => exact running
  | cons action later ih =>
    obtain ⟨now, onward⟩ := goesStraight_cons.1 straight
    refine ih onward ?_
    cases action with
    | step keys =>
      obtain ⟨outcome, ok⟩ := exists_ok_of_not_diverts (now keys rfl)
      exact isHalted_step_of_ok ok
    | tick | present => exact running

/-- Every step takes at least one word, and the last one to be taken ends at or before 0x1000. -/
theorem counter_run (straight : machine.GoesStraight actions) :
    machine.counter + 2 * actions.countP Action.isStep ≤ (machine.run actions).counter ∧
      machine.counter + 2 * actions.countP Action.isStep ≤ max machine.counter 0x1000 ∧
      (machine.run actions).counter ≤ max machine.counter 0x1002 := by
  induction actions generalizing machine with
  | nil => exact ⟨Nat.le_refl _, Nat.le_max_left _ _, Nat.le_max_left _ _⟩
  | cons action later ih =>
    obtain ⟨now, onward⟩ := goesStraight_cons.1 straight
    have rest := ih onward
    rw [run_cons]
    cases action with
    | step keys =>
      have moved := counter_step_of_not_diverts (now keys rfl)
      rw [List.countP_cons_of_pos rfl]
      rw [act] at rest ⊢
      omega
    | tick | present =>
      rw [List.countP_cons_of_neg (by simp [Action.isStep])]
      exact rest

theorem countP_isStep_le (straight : machine.GoesStraight actions) :
    actions.countP Action.isStep ≤ (0x1000 - machine.counter) / 2 := by
  have bounds := straight.counter_run
  omega

end GoesStraight

namespace Blank

variable {machine : Machine G} (blank : machine.Blank)

include blank

theorem step (inside : machine.counter + 1 < 0x1000) (keys : Keypad) :
    (machine.step keys).1 = .ok (.unimplemented 0) ∧
      (machine.step keys).2.counter = machine.counter + 2 ∧ (machine.step keys).2.Blank := by
  have fetched := blank.fetched? inside
  have meaningless : Meaningless 0 := .system (by decide) ⟨by decide, by decide⟩
  have passed : (machine.step keys).2 = _ :=
    step_of_meaningless blank.running fetched meaningless
  refine ⟨(step_unimplemented_iff blank.running fetched).2 ⟨rfl, meaningless⟩, ?_⟩
  rw [passed]
  refine ⟨rfl, blank.running, fun address behind => blank.zeros address ?_⟩
  exact Nat.le_trans (Nat.le_add_right _ 2) behind

theorem run {actions : List Action}
    (fits : machine.counter + 2 * actions.countP Action.isStep ≤ 0x1000) :
    (machine.run actions).Blank ∧
      (machine.run actions).counter = machine.counter + 2 * actions.countP Action.isStep := by
  induction actions generalizing machine with
  | nil => exact ⟨blank, rfl⟩
  | cons action later ih =>
    cases action with
    | step keys =>
      rw [List.countP_cons_of_pos rfl] at fits ⊢
      obtain ⟨_, moved, still⟩ := blank.step (by omega) keys
      have room : (machine.step keys).2.counter + 2 * later.countP Action.isStep ≤ 0x1000 := by
        omega
      obtain ⟨last, counted⟩ := ih still room
      refine ⟨last, ?_⟩
      rw [run_cons, act, counted]
      omega
    | tick | present =>
      rw [List.countP_cons_of_neg (by simp [Action.isStep])] at fits ⊢
      exact ih ⟨blank.running, blank.zeros⟩ fits

theorem step_at_end (ended : machine.counter = 0x1000) (keys : Keypad) :
    (machine.step keys).1 = .error (.fetch ⟨0x1000, 0x1000⟩) := by
  rw [step_of_unfetched blank.running (fetched?_eq_none_iff.2 (by rw [ended]; decide)), ended]
  rfl

end Blank

/-- A step on the straight takes at least a word off what is left of the memory, so at most half of what is
left are taken in a row, and a longer history has a first step that leaves the straight. Where no word on
the way can do that, it is the step at which the memory ends. A machine without a program gets there after
1792 words without a meaning. -/
theorem straight_code_runs_out_of_memory :
    (∀ (machine : Machine G) keys, ¬ machine.Diverts keys →
      0x1000 - (machine.step keys).2.counter + 2 ≤ 0x1000 - machine.counter) ∧
    (∀ (machine : Machine G) actions,
      let most := (0x1000 - machine.counter) / 2
      (machine.GoesStraight actions → actions.countP Action.isStep ≤ most) ∧
      (most < actions.countP Action.isStep →
        ∃ earlier keys later, actions = earlier ++ .step keys :: later ∧
          machine.GoesStraight earlier ∧ (machine.run earlier).Diverts keys)) ∧
    (∀ (machine : Machine G) actions, machine.isHalted = false →
      (∀ earlier keys later word, actions = earlier ++ .step keys :: later →
        (machine.run earlier).fetched? = some word → ¬ Turns word) →
      let most := (0x1000 - machine.counter) / 2
      most < actions.countP Action.isStep →
        ∃ earlier keys later, actions = earlier ++ .step keys :: later ∧
          machine.GoesStraight earlier ∧ earlier.countP Action.isStep ≤ most ∧
          let last := machine.run earlier
          let fault := Fault.fetch ⟨last.counter, 0x1000⟩
          (last.step keys).1 = .error fault ∧ (last.step keys).2.fault = some fault ∧
            0xFFF ≤ last.counter ∧ (machine.counter ≤ 0xFFE → last.counter ≤ 0x1002)) ∧
    ∀ (program : Program) screen (random : G) actions, program.data = [] →
      let last := (fresh program.memory screen random).run actions
      let made := actions.countP Action.isStep
      made ≤ 1792 → last.counter = 0x200 + 2 * made ∧
        ∀ keys, (last.step keys).1 =
          if made < 1792 then .ok (.unimplemented 0) else .error (.fetch ⟨0x1000, 0x1000⟩) := by
  refine ⟨fun machine keys straight => ?_, fun machine actions => ⟨?_, fun many => ?_⟩, ?_, ?_⟩
  · have moved := counter_step_of_not_diverts straight
    omega
  · exact GoesStraight.countP_isStep_le
  · exact (machine.exists_first_diversion actions).resolve_left fun straight =>
      Nat.not_lt_of_le straight.countP_isStep_le many
  · intro machine actions running straight most many
-- There are more steps than can all go straight, so one of them is the first that does not.
    obtain ⟨earlier, keys, later, split, calm, diverts⟩ :=
      (machine.exists_first_diversion actions).resolve_left fun all =>
        Nat.not_lt_of_le all.countP_isStep_le many
    have still := calm.isHalted_run running
    obtain ⟨outside, failed⟩ := step_of_diverts still (straight earlier keys later · split) diverts
    have bounds := calm.counter_run
    refine ⟨earlier, keys, later, split, calm, calm.countP_isStep_le, failed, ?_, by omega, by omega⟩
    rw [step_of_error still failed]
    rfl
  · intro program screen random actions bare last made few
    have start : (fresh program.memory screen random).counter = 0x200 := rfl
    have room : (fresh program.memory screen random).counter + 2 * actions.countP Action.isStep ≤
        0x1000 := by
      rw [start]
      omega
    obtain ⟨blank, counted⟩ := (blank_fresh bare screen random).run room
    rw [start] at counted
    refine ⟨counted, fun keys => ?_⟩
    split
    · next inside => exact (blank.step (by omega) keys).1
    · next full => exact blank.step_at_end (by omega) keys

theorem not_turns_zero : ¬ Turns 0 := by
  rintro (digit | same | ⟨x, same⟩)
  · exact absurd digit (by decide)
  · exact absurd same (by decide)
  · revert x
    decide

theorem zeros_run_out_of_memory :
    let start : Machine Stride := { fresh Memory.initial Screen.blank ⟨0, 0⟩ with counter := 0xFFC }
    let step := Action.step Keypad.released
    let actions := [step, .tick, step, .present, step]
    start.isHalted = false ∧
      (∀ earlier keys later word, actions = earlier ++ .step keys :: later →
        (start.run earlier).fetched? = some word → ¬ Turns word) ∧
      (0x1000 - start.counter) / 2 < actions.countP Action.isStep ∧
      ∃ earlier keys later, actions = earlier ++ .step keys :: later ∧
        start.GoesStraight earlier ∧ earlier.countP Action.isStep ≤ 2 ∧
        ((start.run earlier).step keys).1 = .error (.fetch ⟨(start.run earlier).counter, 0x1000⟩) ∧
        (start.run earlier).counter ≤ 0x1002 := by
  intro start step actions
  have pointed : start.counter = 0xFFC := rfl
  have blank : start.Blank := ⟨rfl, fun address behind =>
    (Memory.byte_initial address).trans (Font.byteAt_of_le (Nat.le_trans (by decide) behind))⟩
  clear_value start
  have straight : ∀ earlier keys later word, actions = earlier ++ .step keys :: later →
      (start.run earlier).fetched? = some word → ¬ Turns word := by
    intro earlier keys later word split fetched
    have steps : 3 = earlier.countP Action.isStep + (later.countP Action.isStep + 1) := by
      rw [← List.countP_cons_of_pos (a := .step keys) rfl, ← List.countP_append, ← split]
      rfl
    have still : (start.run earlier).Blank := (blank.run (by omega)).1
    have zero := still.fetched? (counter_lt_of_fetched fetched)
    obtain rfl : word = 0 := Option.some.inj (fetched.symm.trans zero)
    exact not_turns_zero
  have many : (0x1000 - start.counter) / 2 < actions.countP Action.isStep := by
    rw [pointed]
    decide
  obtain ⟨earlier, keys, later, split, calm, few, failed, _, _, upper⟩ :=
    straight_code_runs_out_of_memory.2.2.1 start actions blank.running straight many
  rw [pointed] at few upper
  exact ⟨blank.running, straight, many, earlier, keys, later, split, calm, few, failed,
    upper (by decide)⟩

end Machine

end SpriteMachine
