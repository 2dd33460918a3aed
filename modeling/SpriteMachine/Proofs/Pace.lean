import SpriteMachine.Proofs.Decoding
import SpriteMachine.Proofs.Interleaving
import SpriteMachine.Proofs.Turns
import SpriteMachine.Random.Stride

/-! How time is cut into turns. A program that keeps away from the timers, under keys that stay the same,
gets just as far in many short turns as in a few long ones. Bursts may leave out steps, the ticks fall
between other steps and other frames are shown, but all of this only moves the mark on the screen. -/

namespace SpriteMachine

namespace Machine

variable {G : Type} [Generator G]

theorem Rests.timerless {machine : Machine G} {keys : Keypad} (rests : machine.Rests keys)
    (count : Nat) : machine.Timerless (List.replicate count (.step keys)) := by
  induction count with
  | zero => exact timerless_nil machine
  | succ count ih =>
    rw [List.replicate_succ, timerless_cons, rests.act]
    refine ⟨fun instruction performed => ?_, ih⟩
    rcases rests with refused | waited
    · simp [performs?, refused] at performed
    · obtain ⟨_, x, await⟩ := step_of_waiting waited
      rw [await] at performed
      cases performed
      rfl

theorem timerless_burst_iff (machine : Machine G) (keys : Keypad) (due : Nat) :
    machine.Timerless (List.replicate (machine.burst keys due).steps (.step keys)) ↔
      machine.Timerless (List.replicate due (.step keys)) := by
  obtain ⟨left, total, ends, rests⟩ := machine.burst_spec keys due
  have split : machine.Timerless (List.replicate due (.step keys)) ↔
      machine.Timerless (List.replicate (machine.burst keys due).steps (.step keys)) ∧
        (machine.burst keys due).machine.Timerless (List.replicate left (.step keys)) := by
    rw [← total, ← List.replicate_append_replicate, timerless_append, ← ends, total]
  rw [split]
  rcases rests with rfl | rests
  · simp [timerless_nil]
  · simp [rests.timerless left]

end Machine

open Machine (Ticked)

theorem Turn.filter_actions {G : Type} (turn : Turn G) :
    turn.actions.filter Machine.Action.isStep = List.replicate turn.steps (.step turn.host.keys) := by
  have ticks := List.filter_replicate_of_neg (p := Machine.Action.isStep) (n := turn.ticks)
    (a := .tick) (by decide)
  rw [Turn.actions, List.filter_append, List.filter_append, Machine.Action.filter_steps, ticks]
  split <;> simp [Machine.Action.isStep]

namespace Host

variable {G : Type} {host : Host G} {occasion : Occasion} {keys : Keypad}

/-- Times that each of the three tickers counts exactly. -/
structure Exact (host : Host G) (times : List Nat) : Prop where
  cpu : host.cpu.Exact times
  timer : host.timer.Exact times
  frame : host.frame.Exact times

theorem Exact.fits {passed : Nat} {later : List Nat} (exact : host.Exact (passed :: later)) :
    host.Fits passed :=
  ⟨exact.cpu.1.1, exact.timer.1.1, exact.frame.1.1⟩

variable [Generator G] {count : Nat} {machine : Machine G}

theorem turn_of_fits (polled : occasion.poll = .keys keys) (fits : host.Fits occasion.passed) :
    (host.turn occasion).steps = (host.machine.burst keys (host.cpu.counted occasion.passed)).steps ∧
      ∃ machine, Ticked 0 (host.moved keys occasion.passed) machine ∧
        (host.turn occasion).host =
          { host.clocked occasion.passed with keys := keys, machine := machine } := by
  have same := Ticked.refl (host.moved keys occasion.passed)
  by_cases shows : host.Shows keys occasion.passed
  · rw [turn_of_shows polled fits shows]
    exact ⟨rfl, _, same.present, rfl⟩
  · rw [turn_of_calm polled fits shows]
    exact ⟨rfl, _, same, rfl⟩

section Turn

variable (ticked : Ticked count machine host.machine)

include ticked

theorem timerless_turn_iff (polled : occasion.poll = .keys keys) (fits : host.Fits occasion.passed) :
    host.machine.Timerless (host.turn occasion).actions ↔
      machine.Timerless (List.replicate (host.cpu.counted occasion.passed) (.step keys)) := by
  -- From the actions of the turn to their steps, to all steps that are due, and over to the other machine.
  obtain ⟨steps, _, _, after⟩ := turn_of_fits polled fits
  rw [Machine.timerless_filter_iff (Ticked.refl host.machine), Turn.filter_actions, steps, after,
    Machine.timerless_burst_iff, Machine.timerless_filter_iff ticked, Machine.Action.filter_steps]

theorem ticked_turn (polled : occasion.poll = .keys keys) (fits : host.Fits occasion.passed)
    (timerless : machine.Timerless (List.replicate (host.cpu.counted occasion.passed) (.step keys))) :
    Ticked (count + host.timer.counted occasion.passed)
      (machine.run (List.replicate (host.cpu.counted occasion.passed) (.step keys)))
      (host.turn occasion).host.machine := by
  obtain ⟨_, shown, same, after⟩ := turn_of_fits polled fits
  have moved := (ticked.run_steps timerless).ticks (host.timer.counted occasion.passed)
  rw [← host.machine.machine_burst] at moved
  rw [after]
  exact moved.trans same

end Turn

theorem Exact.next {later : List Nat} (polled : occasion.poll = .keys keys)
    (exact : host.Exact (occasion.passed :: later)) : (host.turn occasion).host.Exact later := by
  obtain ⟨_, shown, _, after⟩ := turn_of_fits polled exact.fits
  rw [after]
  exact ⟨exact.cpu.2, exact.timer.2, exact.frame.2⟩

theorem total_next {later : List Nat} (polled : occasion.poll = .keys keys)
    (exact : host.Exact (occasion.passed :: later)) :
    host.cpu.total (occasion.passed :: later) =
        host.cpu.counted occasion.passed + (host.turn occasion).host.cpu.total later ∧
      host.timer.total (occasion.passed :: later) =
        host.timer.counted occasion.passed + (host.turn occasion).host.timer.total later := by
  obtain ⟨_, shown, _, after⟩ := turn_of_fits polled exact.fits
  rw [after]
  exact ⟨rfl, rfl⟩

variable {occasions : List Occasion}

theorem ticked_after (ticked : Ticked count machine host.machine)
    (polled : ∀ occasion ∈ occasions, occasion.poll = .keys keys)
    (exact : host.Exact (occasions.map Occasion.passed))
    (timerless : machine.Timerless
      (List.replicate (host.cpu.total (occasions.map Occasion.passed)) (.step keys))) :
    Ticked (count + host.timer.total (occasions.map Occasion.passed))
      (machine.run
        (List.replicate (host.cpu.total (occasions.map Occasion.passed)) (.step keys)))
      (host.after occasions).machine := by
  induction occasions generalizing host count machine with
  | nil => exact ticked
  | cons occasion later ih =>
    obtain ⟨now, rest⟩ := List.forall_mem_cons.1 polled
    obtain ⟨steps, ticks⟩ := total_next now exact
    rw [List.map_cons, steps, ← List.replicate_append_replicate, Machine.timerless_append] at timerless
    rw [List.map_cons, steps, ticks, ← List.replicate_append_replicate, Machine.run_append,
      ← Nat.add_assoc]
    exact ih (ticked_turn ticked now exact.fits timerless.1) rest (exact.next now) timerless.2

theorem timerless_history_iff (ticked : Ticked count machine host.machine)
    (polled : ∀ occasion ∈ occasions, occasion.poll = .keys keys)
    (exact : host.Exact (occasions.map Occasion.passed)) :
    host.machine.Timerless (host.history occasions) ↔
      machine.Timerless
        (List.replicate (host.cpu.total (occasions.map Occasion.passed)) (.step keys)) := by
  induction occasions generalizing host count machine with
  | nil => exact iff_of_true (Machine.timerless_nil _) (Machine.timerless_nil _)
  | cons occasion later ih =>
    obtain ⟨now, rest⟩ := List.forall_mem_cons.1 polled
    rw [List.map_cons, (total_next now exact).1, ← List.replicate_append_replicate,
      Machine.timerless_append, history, Machine.timerless_append, ← machine_turn,
      timerless_turn_iff ticked now exact.fits]
    exact and_congr_right fun timerless =>
      ih (ticked_turn ticked now exact.fits timerless) rest (exact.next now)

/-- However the same time is cut into turns, and whatever becomes of the pictures, a program that does
not use the timers ends on the same machine, apart from the mark on its screen. -/
theorem program_independent_of_turns {machine : Machine G} {rates : Rates}
    (cpu : rates.cpu ≤ Ticker.second) (timer : rates.timer ≤ Ticker.second) {keys : Keypad}
    {first second : List Occasion} (first_polled : ∀ occasion ∈ first, occasion.poll = .keys keys)
    (second_polled : ∀ occasion ∈ second, occasion.poll = .keys keys)
    (first_exact : (start machine rates).Exact (first.map Occasion.passed))
    (second_exact : (start machine rates).Exact (second.map Occasion.passed))
    (whole : (first.map Occasion.passed).sum = (second.map Occasion.passed).sum)
    (timerless : machine.Timerless ((start machine rates).history first)) :
    ((start machine rates).after first).machine.present =
      ((start machine rates).after second).machine.present := by
  have same : Ticked 0 machine (start machine rates).machine := .refl machine
  obtain ⟨cpu_short, cpu_narrow⟩ := Ticker.ofHertz_regular cpu
  obtain ⟨timer_short, timer_narrow⟩ := Ticker.ofHertz_regular timer
  have steps : (start machine rates).cpu.total (first.map Occasion.passed) =
      (start machine rates).cpu.total (second.map Occasion.passed) := by
    rw [Ticker.total_of_exact first_exact.cpu cpu_short cpu_narrow, whole,
      Ticker.total_of_exact second_exact.cpu cpu_short cpu_narrow]
  have ticks : (start machine rates).timer.total (first.map Occasion.passed) =
      (start machine rates).timer.total (second.map Occasion.passed) := by
    rw [Ticker.total_of_exact first_exact.timer timer_short timer_narrow, whole,
      Ticker.total_of_exact second_exact.timer timer_short timer_narrow]
  -- Both runs are compared with the one that makes all of its steps first and ticks afterwards.
  have spared := (timerless_history_iff same first_polled first_exact).1 timerless
  rw [(ticked_after same first_polled first_exact spared).present_eq,
    (ticked_after same second_polled second_exact (steps ▸ spared)).present_eq, steps, ticks]

def patient : Machine Stride :=
  Machine.fresh (Memory.initial.store Memory.programStart [0xF0, 0x0A]) Screen.blank ⟨0, 0⟩

theorem patient_independent_of_turns :
    let whole : List Occasion := [⟨.keys Keypad.released, 2000000000, some "closed"⟩]
    let pieces : List Occasion :=
      [⟨.keys Keypad.released, 1500000000, none⟩, ⟨.keys Keypad.released, 500000000, none⟩]
    patient.Timerless ((start patient ⟨1, 1, 1⟩).history whole) ∧
      ((start patient ⟨1, 1, 1⟩).after whole).machine.present =
        ((start patient ⟨1, 1, 1⟩).after pieces).machine.present := by
  intro whole pieces
  have once : (Ticker.ofHertz 1).Exact [2000000000] := ⟨⟨by decide, by decide⟩, trivial⟩
  have twice : (Ticker.ofHertz 1).Exact [1500000000, 500000000] :=
    ⟨⟨by decide, by decide⟩, ⟨by decide, by decide⟩, trivial⟩
  have whole_exact : (start patient ⟨1, 1, 1⟩).Exact (whole.map Occasion.passed) := ⟨once, once, once⟩
  have pieces_exact : (start patient ⟨1, 1, 1⟩).Exact (pieces.map Occasion.passed) :=
    ⟨twice, twice, twice⟩
  have whole_polled : ∀ occasion ∈ whole, occasion.poll = .keys Keypad.released := by simp [whole]
  have pieces_polled : ∀ occasion ∈ pieces, occasion.poll = .keys Keypad.released := by simp [pieces]
  have awaited : patient.performs? (.step Keypad.released) = some (.misc .awaitKey 0) :=
    Machine.performs?_store rfl (by decide) (Nat.add_zero Memory.programStart).symm rfl rfl
      ((Instruction.decode_eq_iff rfl).2 rfl) rfl rfl _
  have waited := Machine.step_of_awaitKey awaited rfl
  have rests : (patient.act (.step Keypad.released)).Rests Keypad.released := by
    rw [Machine.act, waited]
    exact Machine.rests_of_waiting waited
  have timerless : patient.Timerless ((start patient ⟨1, 1, 1⟩).history whole) := by
    have same : Ticked 0 patient (start patient ⟨1, 1, 1⟩).machine := .refl patient
    refine (timerless_history_iff same whole_polled whole_exact).2 ?_
    refine Machine.timerless_cons.2 ⟨fun instruction performed => ?_, rests.timerless 1⟩
    obtain rfl := Option.some.inj (awaited.symm.trans performed)
    rfl
  exact ⟨timerless, program_independent_of_turns (by decide) (by decide) whole_polled pieces_polled
    whole_exact pieces_exact rfl timerless⟩

end Host

end SpriteMachine
