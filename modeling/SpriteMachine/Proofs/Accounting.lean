import SpriteMachine.Proofs.Pace

/-! What a host makes of its time. Only turns whose poll returns keys take part: their times, added up,
fix the number of ticks, whatever the program does, and bound the number of steps. All of these steps are
made unless one of them waits or fails. -/

namespace SpriteMachine

namespace Machine

def Answer.goesOn : Answer → Bool
  | .stepped (.ok .waiting) | .stepped (.error _) => false
  | _ => true

variable {G : Type} [Generator G]

/-- A history in which no step waits or fails. -/
def GoesOn (machine : Machine G) (actions : List Action) : Prop :=
  ∀ answer ∈ machine.answers actions, answer.goesOn = true

theorem goesOn_cons {machine : Machine G} {action : Action} {later : List Action} :
    machine.GoesOn (action :: later) ↔
      (machine.answer action).goesOn = true ∧ (machine.act action).GoesOn later := by
  simp [GoesOn, answers]

theorem goesOn_append {machine : Machine G} {first second : List Action} :
    machine.GoesOn (first ++ second) ↔
      machine.GoesOn first ∧ (machine.run first).GoesOn second := by
  simp [GoesOn, answers_append, or_imp, forall_and]

theorem isHalted_act_of_goesOn {machine : Machine G} {action : Action}
    (running : machine.isHalted = false) (goesOn : (machine.answer action).goesOn = true) :
    (machine.act action).isHalted = false := by
  cases action with
  | tick | present => exact running
  | step keys =>
    rw [answer] at goesOn
    rcases result : (machine.step keys).1 with fault | outcome
    · rw [result] at goesOn
      cases goesOn
    · exact isHalted_step_of_ok result

theorem isHalted_run_of_goesOn {machine : Machine G} {actions : List Action}
    (running : machine.isHalted = false) (goesOn : machine.GoesOn actions) :
    (machine.run actions).isHalted = false := by
  induction actions generalizing machine with
  | nil => exact running
  | cons action later ih =>
    obtain ⟨now, rest⟩ := goesOn_cons.1 goesOn
    exact ih (isHalted_act_of_goesOn running now) rest

/-- A burst from a running machine ends early only at a step that waits or fails. -/
theorem steps_burstFrom (keys : Keypad) (done due : Nat) (machine : Machine G) :
    ∃ made, (burstFrom keys done due machine).steps = done + made ∧
      (machine.GoesOn (List.replicate made (.step keys)) → made = due) := by
  induction due generalizing done machine with
  | zero => exact ⟨0, rfl, fun _ => rfl⟩
  | succ due ih =>
    unfold burstFrom
    split
    · next after waited =>
      refine ⟨1, rfl, fun goesOn => ?_⟩
      have now := (goesOn_cons.1 goesOn).1
      rw [answer, waited] at now
      cases now
    · next outcome after calm stepped =>
      obtain ⟨made, steps, whole⟩ := ih (done + 1) after
      refine ⟨made + 1, by omega, fun goesOn => ?_⟩
      have rest := (goesOn_cons.1 goesOn).2
      rw [act, stepped] at rest
      rw [whole rest]
    · next fault after failed =>
      refine ⟨1, rfl, fun goesOn => ?_⟩
      have now := (goesOn_cons.1 goesOn).1
      rw [answer, failed] at now
      cases now

theorem steps_burst_of_goesOn {machine : Machine G} {keys : Keypad} {due : Nat}
    (running : machine.isHalted = false)
    (goesOn : machine.GoesOn (List.replicate (machine.burst keys due).steps (.step keys))) :
    (machine.burst keys due).steps = due := by
  obtain ⟨made, steps, whole⟩ := steps_burstFrom keys 0 due machine
  have started : machine.burst keys due = burstFrom keys 0 due machine := by simp [burst, running]
  rw [started, steps, Nat.zero_add] at goesOn ⊢
  exact whole goesOn

end Machine

theorem Turn.count_tick_actions {G : Type} (turn : Turn G) : turn.actions.count .tick = turn.ticks := by
  have steps : (List.replicate turn.steps (Machine.Action.step turn.host.keys)).count .tick = 0 := by
    simp [List.count_replicate]
  rw [Turn.actions, List.count_append, List.count_append, steps, List.count_replicate_self]
  split <;> simp

theorem Turn.countP_isStep_actions {G : Type} (turn : Turn G) :
    turn.actions.countP Machine.Action.isStep = turn.steps := by
  rw [List.countP_eq_length_filter, Turn.filter_actions, List.length_replicate]

namespace Occasion

def isKeyed (occasion : Occasion) : Bool :=
  match occasion.poll with
  | .keys _ => true
  | .quit | .failed _ => false

theorem exists_keys_of_isKeyed {occasion : Occasion} (keyed : occasion.isKeyed = true) :
    ∃ keys, occasion.poll = .keys keys := by
  unfold isKeyed at keyed
  split at keyed
  · next keys polled => exact ⟨keys, polled⟩
  · cases keyed
  · cases keyed

def keyedTimes (occasions : List Occasion) : List Nat :=
  (occasions.filter isKeyed).map passed

end Occasion

namespace Host

variable {G : Type} [Generator G] {host : Host G} {occasion : Occasion} {occasions : List Occasion}

theorem turn_of_unkeyed (unkeyed : occasion.isKeyed = false) :
    ∃ answer, host.turn occasion = { host := host, result := answer } := by
  unfold Occasion.isKeyed at unkeyed
  split at unkeyed
  · cases unkeyed
  · next quits => exact ⟨.ok false, by simp only [turn, advance, quits]⟩
  · next reason failed => exact ⟨.error (.device reason), by simp only [turn, advance, failed]⟩

theorem history_filter_isKeyed (host : Host G) (occasions : List Occasion) :
    host.history (occasions.filter Occasion.isKeyed) = host.history occasions := by
  induction occasions generalizing host with
  | nil => rfl
  | cons occasion later ih =>
    cases keyed : occasion.isKeyed with
    | true => rw [List.filter_cons_of_pos keyed, history, history, ih]
    | false =>
      obtain ⟨answer, idle⟩ : ∃ answer, host.turn occasion = { host := host, result := answer } :=
        turn_of_unkeyed keyed
      rw [List.filter_cons_of_neg (by simp [keyed]), ih, history, idle]
      rfl

theorem counts_turn {keys : Keypad} (polled : occasion.poll = .keys keys)
    (fits : host.Fits occasion.passed) :
    (host.turn occasion).ticks = host.timer.counted occasion.passed ∧
      (host.turn occasion).steps ≤ host.cpu.counted occasion.passed ∧
      (host.machine.isHalted = false → host.machine.GoesOn (host.turn occasion).actions →
        (host.turn occasion).steps = host.cpu.counted occasion.passed ∧
          (host.turn occasion).host.machine.isHalted = false) := by
  obtain ⟨steps, _, _, after⟩ := turn_of_fits polled fits
  refine ⟨congrArg Turn.ticks (turn_of_keys polled fits), ?_, fun running goesOn => ⟨?_, ?_⟩⟩
  · rw [steps]
    exact host.machine.steps_burst_le keys _
  · have made := (Machine.goesOn_append.1 goesOn).1
    rw [after, steps] at made
    rw [steps]
    exact Machine.steps_burst_of_goesOn running made
  · rw [machine_turn]
    exact Machine.isHalted_run_of_goesOn running goesOn

section Keyed

variable (keyed : ∀ occasion ∈ occasions, ∃ keys, occasion.poll = .keys keys)
  (exact : host.Exact (occasions.map Occasion.passed))

include keyed exact

theorem count_tick_history :
    (host.history occasions).count .tick = host.timer.total (occasions.map Occasion.passed) := by
  induction occasions generalizing host with
  | nil => rfl
  | cons occasion later ih =>
    obtain ⟨⟨keys, polled⟩, rest⟩ := List.forall_mem_cons.1 keyed
    have ticked := (counts_turn polled exact.fits).1
    rw [history, List.count_append, Turn.count_tick_actions, ticked, ih rest (exact.next polled)]
    exact (total_next polled exact).2.symm

theorem countP_isStep_history_le :
    (host.history occasions).countP Machine.Action.isStep ≤
      host.cpu.total (occasions.map Occasion.passed) := by
  induction occasions generalizing host with
  | nil => exact Nat.le_refl 0
  | cons occasion later ih =>
    obtain ⟨⟨keys, polled⟩, rest⟩ := List.forall_mem_cons.1 keyed
    have stepped := (counts_turn polled exact.fits).2.1
    rw [history, List.countP_append, Turn.countP_isStep_actions, List.map_cons,
      (total_next polled exact).1]
    exact Nat.add_le_add stepped (ih rest (exact.next polled))

theorem countP_isStep_history (running : host.machine.isHalted = false)
    (goesOn : host.machine.GoesOn (host.history occasions)) :
    (host.history occasions).countP Machine.Action.isStep =
      host.cpu.total (occasions.map Occasion.passed) := by
  induction occasions generalizing host with
  | nil => rfl
  | cons occasion later ih =>
    obtain ⟨⟨keys, polled⟩, rest⟩ := List.forall_mem_cons.1 keyed
    obtain ⟨first, following⟩ := Machine.goesOn_append.1 goesOn
    rw [← machine_turn] at following
    obtain ⟨stepped, still⟩ := (counts_turn polled exact.fits).2.2 running first
    rw [history, List.countP_append, Turn.countP_isStep_actions, stepped,
      ih rest (exact.next polled) still following]
    exact (total_next polled exact).1.symm

end Keyed

/-- In turns of a new host the ticks are exactly those that are due in the time of the turns with keys.
There are at most as many steps as are due in that time, and exactly as many if the machine was running
and no step waits or fails. All other turns leave the host as it was. -/
theorem history_accounts_for_keyed_time {machine : Machine G} {rates : Rates}
    (cpu : rates.cpu ≤ Ticker.second) (timer : rates.timer ≤ Ticker.second)
    {occasions : List Occasion} (exact : (start machine rates).Exact (Occasion.keyedTimes occasions)) :
    let host := start machine rates
    let whole := (Occasion.keyedTimes occasions).sum
    let history := host.history occasions
    (host.after occasions).machine = machine.run history ∧
      history.count .tick = whole / host.timer.interval ∧
      history.countP Machine.Action.isStep ≤ whole / host.cpu.interval ∧
      (machine.isHalted = false → machine.GoesOn history →
        history.countP Machine.Action.isStep = whole / host.cpu.interval) ∧
      ∀ occasion, (∀ keys, occasion.poll ≠ .keys keys) →
        ∃ answer, (host.after occasions).turn occasion =
          { host := host.after occasions, steps := 0, ticks := 0, offered := none, result := answer } := by
  intro host whole history
  obtain ⟨cpu_short, cpu_narrow⟩ := Ticker.ofHertz_regular cpu
  obtain ⟨timer_short, timer_narrow⟩ := Ticker.ofHertz_regular timer
  have steps : host.cpu.total (Occasion.keyedTimes occasions) = whole / host.cpu.interval := by
    rw [Ticker.total_of_exact exact.cpu cpu_short cpu_narrow]
    exact congrArg (· / host.cpu.interval) (Nat.zero_add whole)
  have ticks : host.timer.total (Occasion.keyedTimes occasions) = whole / host.timer.interval := by
    rw [Ticker.total_of_exact exact.timer timer_short timer_narrow]
    exact congrArg (· / host.timer.interval) (Nat.zero_add whole)
  have keyed : ∀ occasion ∈ occasions.filter Occasion.isKeyed, ∃ keys, occasion.poll = .keys keys :=
    fun occasion member => Occasion.exists_keys_of_isKeyed (List.mem_filter.1 member).2
  have same : host.history (occasions.filter Occasion.isKeyed) = history :=
    host.history_filter_isKeyed occasions
  rw [← steps, ← ticks, ← same]
  refine ⟨?_, count_tick_history keyed exact, countP_isStep_history_le keyed exact,
    fun running goesOn => countP_isStep_history keyed exact running goesOn, ?_⟩
  · rw [same]
    exact host.machine_after occasions
  · intro occasion unkeyed
    refine turn_of_unkeyed (Bool.eq_false_iff.2 fun polled => ?_)
    obtain ⟨keys, polled⟩ := Occasion.exists_keys_of_isKeyed polled
    exact unkeyed keys polled

def spinning : Machine Stride :=
  Machine.fresh (Memory.initial.store Memory.programStart [0x12, 0x00]) Screen.blank ⟨0, 0⟩

theorem spinning_goesOn {machine : Machine Stride} (sight : Machine.SameSight spinning machine)
    (actions : List Machine.Action) : machine.GoesOn actions := by
  have decoded : Instruction.decode (Word.ofBytes 0x12 0x00) = .jump 0x200 :=
    (Instruction.decode_eq_iff rfl).2 rfl
  have jumps (keys : Keypad) : spinning.performs? (.step keys) = some (.jump 0x200) :=
    Machine.performs?_store rfl (by decide) (Nat.add_zero Memory.programStart).symm rfl rfl decoded
      rfl rfl keys
  induction actions generalizing machine with
  | nil => simp [Machine.GoesOn, Machine.answers]
  | cons action later ih =>
    rw [Machine.goesOn_cons]
    cases action with
    | step keys =>
      have stepped := Machine.step_of_performs ((sight.performs? _).trans (jumps keys))
      rw [Machine.answer, Machine.act, stepped]
      exact ⟨rfl, ih ⟨sight.fault, sight.memory, rfl, sight.registers, sight.index, sight.stack⟩⟩
    | tick | present =>
      exact ⟨rfl, ih ⟨sight.fault, sight.memory, sight.counter, sight.registers, sight.index,
        sight.stack⟩⟩

theorem spinning_accounts_for_keyed_time :
    let occasions : List Occasion :=
      [⟨.keys Keypad.released, 400000000, some "closed"⟩, ⟨.failed "gone", 7000000000, none⟩,
        ⟨.keys Keypad.released, 600000000, none⟩, ⟨.quit, 7000000000, none⟩]
    let history := (start spinning ⟨2, 1, 1⟩).history occasions
    (start spinning ⟨2, 1, 1⟩).Exact (Occasion.keyedTimes occasions) ∧ spinning.GoesOn history ∧
      history.count .tick = 1 ∧ history.countP Machine.Action.isStep = 2 := by
  intro occasions history
  have times : Occasion.keyedTimes occasions = [400000000, 600000000] := rfl
  have slow : (Ticker.ofHertz 1).Exact [400000000, 600000000] :=
    ⟨⟨by decide, by decide⟩, ⟨by decide, by decide⟩, trivial⟩
  have fast : (Ticker.ofHertz 2).Exact [400000000, 600000000] :=
    ⟨⟨by decide, by decide⟩, ⟨by decide, by decide⟩, trivial⟩
  have exact : (start spinning ⟨2, 1, 1⟩).Exact (Occasion.keyedTimes occasions) :=
    times ▸ ⟨fast, slow, slow⟩
  have goesOn := spinning_goesOn ⟨rfl, rfl, rfl, rfl, rfl, rfl⟩ history
  obtain ⟨_, ticks, _, steps, _⟩ :=
    history_accounts_for_keyed_time (by decide) (by decide) exact
  rw [times] at ticks steps
  exact ⟨exact, goesOn, ticks, steps rfl goesOn⟩

end Host

end SpriteMachine
