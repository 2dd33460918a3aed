import SpriteMachine.Host.Basic
import SpriteMachine.Proofs.Steps

/-! Steps in a row with the same keys. A step that waits for a key, or that finds the machine halted,
leads back to the machine it started from, and so do all steps after it. A burst leaves these out and
ends on the same machine as all of its steps would. -/

namespace SpriteMachine.Machine

variable {G : Type} [Generator G]

theorem step_of_waiting {machine after : Machine G} {keys : Keypad}
    (waited : machine.step keys = (.ok .waiting, after)) :
    after = machine.primed keys ∧
      ∃ x, machine.performs? (.step keys) = some (.misc .awaitKey x) := by
  cases machine.stepCase keys with
  | performed running word fetched clear result =>
    rw [result, Prod.mk.injEq, Except.ok.injEq] at waited
    obtain ⟨⟨x, decoded⟩, _, still⟩ := effect_of_waiting waited.1
    rw [still] at waited
    refine ⟨waited.2.symm, x, performs?_eq_some_iff.2 ⟨running, ⟨word, fetched, decoded⟩, ?_⟩⟩
    rw [← decoded, clear]
  | halted _ result | unfetched _ _ result | rejected _ _ _ _ _ result | failed _ _ _ _ _ result =>
    rw [result] at waited
    cases waited

theorem step_of_awaitKey {machine : Machine G} {keys : Keypad} {x : Register}
    (awaited : machine.performs? (.step keys) = some (.misc .awaitKey x))
    (released : keys.firstPressed = none) : machine.step keys = (.ok .waiting, machine.primed keys) := by
  have still : (machine.primed keys).effect (.misc .awaitKey x) =
      ⟨machine.primed keys, .stay, .waiting⟩ := by
    have found : (machine.primed keys).keys.firstPressed = none := released
    simp only [effect, misc, found]
  rw [step_of_performs awaited, still]
  rfl

theorem step_primed_of_performs {machine : Machine G} {keys : Keypad} {instruction : Instruction}
    (performed : machine.performs? (.step keys) = some instruction) :
    (machine.primed keys).step keys = machine.step keys := by
  have again : (machine.primed keys).performs? (.step keys) = some instruction :=
    performs?_eq_some_iff.2 (by simpa using performs?_eq_some_iff.1 performed)
  rw [step_of_performs again, primed_primed, step_of_performs performed]

/-- With these keys the machine stays as it is: it has halted, or it waits. -/
def Rests (machine : Machine G) (keys : Keypad) : Prop :=
  machine.step keys = (.error .halted, machine) ∨ machine.step keys = (.ok .waiting, machine)

theorem rests_of_error {machine after : Machine G} {keys : Keypad} {fault : Fault}
    (failed : machine.step keys = (.error fault, after)) : after.Rests keys := by
  have halted := isHalted_of_step_error (congrArg Prod.fst failed)
  rw [failed] at halted
  exact .inl (step_of_halted halted keys)

theorem rests_of_waiting {machine after : Machine G} {keys : Keypad}
    (waited : machine.step keys = (.ok .waiting, after)) : after.Rests keys := by
  obtain ⟨same, x, performed⟩ := step_of_waiting waited
  refine .inr ?_
  rw [same, step_primed_of_performs performed, waited, same]

theorem Rests.act {machine : Machine G} {keys : Keypad} (rests : machine.Rests keys) :
    machine.act (.step keys) = machine := by
  rcases rests with result | result <;> rw [Machine.act, result]

theorem Rests.run {machine : Machine G} {keys : Keypad} (rests : machine.Rests keys) (count : Nat) :
    machine.run (List.replicate count (.step keys)) = machine := by
  induction count with
  | zero => rfl
  | succ count ih => rw [List.replicate_succ, run_cons, rests.act, ih]

theorem burstFrom_spec (keys : Keypad) (done due : Nat) (machine : Machine G) :
    ∃ made left, made + left = due ∧ (burstFrom keys done due machine).steps = done + made ∧
      (burstFrom keys done due machine).machine = machine.run (List.replicate made (.step keys)) ∧
      (left = 0 ∨ (burstFrom keys done due machine).machine.Rests keys) := by
  induction due generalizing done machine with
  | zero => exact ⟨0, 0, rfl, rfl, rfl, .inl rfl⟩
  | succ due ih =>
    unfold burstFrom
    split
    · next after waited =>
      have stepped : machine.act (.step keys) = after := congrArg Prod.snd waited
      exact ⟨1, due, Nat.add_comm 1 due, rfl, stepped.symm, .inr (rests_of_waiting waited)⟩
    · next outcome after calm stepped =>
      obtain ⟨made, left, total, steps, ends, rests⟩ := ih (done + 1) after
      have first : machine.act (.step keys) = after := congrArg Prod.snd stepped
      refine ⟨made + 1, left, by omega, by omega, ?_, rests⟩
      rw [ends, List.replicate_succ, run_cons, first]
    · next fault after failed =>
      have stepped : machine.act (.step keys) = after := congrArg Prod.snd failed
      exact ⟨1, due, Nat.add_comm 1 due, rfl, stepped.symm, .inr (rests_of_error failed)⟩

/-- The steps of a burst in the terms of a history, also for a machine that has halted before. -/
theorem burst_spec (machine : Machine G) (keys : Keypad) (due : Nat) :
    ∃ left, (machine.burst keys due).steps + left = due ∧
      (machine.burst keys due).machine =
        machine.run (List.replicate (machine.burst keys due).steps (.step keys)) ∧
      (left = 0 ∨ (machine.burst keys due).machine.Rests keys) := by
  unfold burst
  split
  · next halted => exact ⟨due, Nat.zero_add due, rfl, .inr (.inl (step_of_halted halted keys))⟩
  · obtain ⟨made, left, total, steps, ends, rests⟩ := burstFrom_spec keys 0 due machine
    rw [Nat.zero_add] at steps
    exact ⟨left, by omega, by rw [ends, steps], rests⟩

theorem steps_burst_le (machine : Machine G) (keys : Keypad) (due : Nat) :
    (machine.burst keys due).steps ≤ due := by
  obtain ⟨left, total, _⟩ := machine.burst_spec keys due
  omega

theorem rests_of_steps_lt {machine : Machine G} {keys : Keypad} {due : Nat}
    (short : (machine.burst keys due).steps < due) : (machine.burst keys due).machine.Rests keys := by
  obtain ⟨left, total, _, rests⟩ := machine.burst_spec keys due
  rcases rests with complete | rests
  · omega
  · exact rests

theorem run_eq_burst {machine : Machine G} {keys : Keypad} {due count : Nat}
    (made : (machine.burst keys due).steps ≤ count) (within : count ≤ due) :
    machine.run (List.replicate count (.step keys)) = (machine.burst keys due).machine := by
  obtain ⟨left, total, ends, rests⟩ := machine.burst_spec keys due
  obtain ⟨more, rfl⟩ := Nat.exists_eq_add_of_le made
  rw [← List.replicate_append_replicate, run_append, ← ends]
  rcases rests with rfl | rests
  · obtain rfl : more = 0 := by omega
    rfl
  · exact rests.run more

theorem machine_burst (machine : Machine G) (keys : Keypad) (due : Nat) :
    (machine.burst keys due).machine = machine.run (List.replicate due (.step keys)) :=
  (run_eq_burst (machine.steps_burst_le keys due) (Nat.le_refl due)).symm

/-- A burst ends on the machine that all of its steps lead to, whatever they result in, and it leaves
out only steps that would have been refused or would have waited. -/
theorem burst_agrees_with_all_steps (machine : Machine G) (keys : Keypad) (due : Nat) :
    (machine.burst keys due).machine = machine.run (List.replicate due (.step keys)) ∧
      (machine.burst keys due).steps ≤ due ∧
      ∀ count, (machine.burst keys due).steps ≤ count → count < due →
        (machine.run (List.replicate count (.step keys))).Rests keys := by
  refine ⟨machine.machine_burst keys due, machine.steps_burst_le keys due, ?_⟩
  intro count made short
  rw [run_eq_burst made (Nat.le_of_lt short)]
  exact rests_of_steps_lt (Nat.lt_of_le_of_lt made short)

end SpriteMachine.Machine
