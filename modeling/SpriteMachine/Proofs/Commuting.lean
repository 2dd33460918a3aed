import SpriteMachine.Proofs.Decoding
import SpriteMachine.Proofs.Interleaving
import SpriteMachine.Random.Stride

/-! Ticks before a step and ticks after it. Unless the word that a step fetches is one of those that use the
timers, both orders give the same answer and the same machine, whether the step goes well, is rejected or
fails, and also once the machine has halted. It follows that ticks can be moved past a whole history that
carries out no such word. -/

namespace SpriteMachine

namespace Instruction

theorem usesTimers_iff {instruction : Instruction} :
    instruction.usesTimers = true ↔ ∃ x, instruction = misc .getDelay x ∨
      instruction = misc .setDelay x ∨ instruction = misc .setSound x := by
  cases instruction with
  | misc op x => cases op <;> simp [usesTimers]
  | _ => simp [usesTimers]

theorem usesTimers_decode_iff {word : UInt16} :
    (decode word).usesTimers = true ↔ ∃ x, word = layoutByte 0xF x 0x07 ∨
      word = layoutByte 0xF x 0x15 ∨ word = layoutByte 0xF x 0x18 :=
  usesTimers_iff.trans (exists_congr fun _ =>
    or_congr (decode_eq_iff rfl) (or_congr (decode_eq_iff rfl) (decode_eq_iff rfl)))

end Instruction

namespace Machine

open Instruction

variable {G : Type}

theorem likeness_ticks (count : Nat) :
    Likeness fun first second : Machine G => second = first.ticks count where
  sight := by
    rintro first _ rfl
    exact ⟨rfl, rfl, rfl, rfl, rfl, rfl⟩
  primed := by
    rintro first _ rfl keys
    rfl
  halt := by
    rintro first _ rfl fault
    rfl
  move := by
    rintro first _ rfl advance
    rfl

theorem tick_ticks (machine : Machine G) (count : Nat) :
    (machine.ticks count).tick = machine.tick.ticks count := by
  rw [tick, tick, ← ticks_add, ← ticks_add, Nat.add_comm]

variable [Generator G]

theorem step_ticks {machine : Machine G} {keys : Keypad}
    (spared : ∀ instruction, machine.performs? (.step keys) = some instruction →
      instruction.usesTimers = false) (count : Nat) :
    (machine.ticks count).step keys = ((machine.step keys).1, (machine.step keys).2.ticks count) := by
  have like : machine.ticks count = machine.ticks count := rfl
  have kept := (likeness_ticks count).step like fun instruction performed =>
    ⟨_, effect_ticks (machine.primed keys) (spared instruction performed) count, rfl⟩
  exact Prod.ext kept.1 kept.2

/-- A history that does not use the timers goes the same way after some ticks, and leads to where the same
ticks after it lead. -/
theorem run_ticks {machine : Machine G} {actions : List Action} (timerless : machine.Timerless actions)
    (count : Nat) :
    (machine.ticks count).answers actions = machine.answers actions ∧
      (machine.ticks count).run actions = (machine.run actions).ticks count := by
  induction actions generalizing machine with
  | nil => exact ⟨rfl, rfl⟩
  | cons action later ih =>
    obtain ⟨spared, timerless⟩ := timerless_cons.1 timerless
    have first : (machine.ticks count).answer action = machine.answer action ∧
        (machine.ticks count).act action = (machine.act action).ticks count := by
      cases action with
      | step keys =>
        have moved := step_ticks spared count
        refine ⟨?_, congrArg Prod.snd moved⟩
        rw [answer, answer, moved]
      | tick => exact ⟨rfl, tick_ticks machine count⟩
      | present => exact ⟨rfl, rfl⟩
    rw [answers, answers, run_cons, run_cons, first.1, first.2, (ih timerless).1, (ih timerless).2]
    exact ⟨rfl, rfl⟩

/-- Ticks commute with every step whose word is missing or is none of those that use the timers, and with
every history that carries out no such word: the answers are the same, and so is the machine, in all its
parts. -/
theorem ticks_commute_with_steps (count : Nat) :
    let ticks := List.replicate count Action.tick
    (∀ (machine : Machine G) (keys : Keypad),
      (∀ word, machine.fetched? = some word → ∀ x, word ≠ layoutByte 0xF x 0x07 ∧
        word ≠ layoutByte 0xF x 0x15 ∧ word ≠ layoutByte 0xF x 0x18) →
      (machine.run ticks).step keys = ((machine.step keys).1, (machine.step keys).2.run ticks)) ∧
    ∀ (machine : Machine G) (actions : List Action), machine.Timerless actions →
      (machine.run ticks).answers actions = machine.answers actions ∧
        machine.run (ticks ++ actions) = machine.run (actions ++ ticks) := by
  intro ticks
  have ticked (machine : Machine G) : machine.run ticks = machine.ticks count :=
    machine.run_replicate_tick count
  refine ⟨fun machine keys spared => ?_, fun machine actions timerless => ?_⟩
  · rw [ticked, ticked]
    refine step_ticks (fun instruction performed => ?_) count
    obtain ⟨_, ⟨word, fetched, rfl⟩, _⟩ := performs?_eq_some_iff.1 performed
    refine Bool.eq_false_iff.2 fun uses => ?_
    obtain ⟨x, used⟩ := usesTimers_decode_iff.1 uses
    obtain ⟨getDelay, setDelay, setSound⟩ := spared word fetched x
    rcases used with same | same | same
    · exact getDelay same
    · exact setDelay same
    · exact setSound same
  · rw [run_append, run_append, ticked, ticked]
    exact run_ticks timerless count

theorem failing_return_commutes_with_ticks :
    let machine : Machine Stride :=
      { fresh (Memory.initial.store Memory.programStart [0x00, 0xEE]) Screen.blank ⟨0, 0⟩ with
        delay := ⟨2⟩, sound := ⟨200⟩ }
    let ticks := List.replicate 3 Action.tick
    let actions := [Action.step Keypad.released, .present]
    machine.fetched? = some 0x00EE ∧
      (machine.run ticks).step Keypad.released =
        (.error (.stack .empty), (machine.step Keypad.released).2.run ticks) ∧
      ((machine.run ticks).delay.value = 0 ∧ (machine.run ticks).sound.value = 197) ∧
      machine.Timerless actions ∧ machine.run (ticks ++ actions) = machine.run (actions ++ ticks) := by
  intro machine ticks actions
  have stored : machine.memory = Memory.initial.store Memory.programStart [0x00, 0xEE] := rfl
  have fetched : machine.fetched? = some (Word.ofBytes 0x00 0xEE) :=
    fetched?_store stored (by decide) (Nat.add_zero Memory.programStart).symm rfl rfl
  have decoded : decode (Word.ofBytes 0x00 0xEE) = .system .leave := (decode_eq_iff rfl).2 rfl
  have blocked : machine.obstacle? (decode (Word.ofBytes 0x00 0xEE)) = some (.stack .empty) := by
    rw [decoded]
    rfl
  have failed : (machine.step Keypad.released).1 = .error (.stack .empty) := by
    rw [step_of_stack rfl fetched blocked]
  have spared : ∀ word, machine.fetched? = some word → ∀ x, word ≠ layoutByte 0xF x 0x07 ∧
      word ≠ layoutByte 0xF x 0x15 ∧ word ≠ layoutByte 0xF x 0x18 := by
    intro word again
    obtain rfl : Word.ofBytes 0x00 0xEE = word := Option.some.inj (fetched.symm.trans again)
    decide
  have timerless : machine.Timerless actions := by
    refine timerless_cons.2 ⟨fun instruction performed => ?_,
      timerless_cons.2 ⟨nofun, timerless_nil _⟩⟩
    obtain ⟨_, ⟨word, again, rfl⟩, clear⟩ := performs?_eq_some_iff.1 performed
    obtain rfl : Word.ofBytes 0x00 0xEE = word := Option.some.inj (fetched.symm.trans again)
    rw [blocked] at clear
    cases clear
  obtain ⟨steps, runs⟩ := ticks_commute_with_steps (G := Stride) 3
  refine ⟨fetched, ?_, ⟨rfl, rfl⟩, timerless, (runs machine actions timerless).2⟩
  rw [steps machine Keypad.released spared, failed]

end Machine

end SpriteMachine
