import SpriteMachine.Proofs.Steps

/-! Ticks and frames between the steps. Three instructions use the timers. As long as a history carries
out none of them, its ticks can all be moved behind its steps, and its frames change nothing but whether
the screen counts as shown. -/

namespace SpriteMachine

namespace Instruction

def usesTimers : Instruction → Bool
  | misc .getDelay _ | misc .setDelay _ | misc .setSound _ => true
  | _ => false

end Instruction

namespace Machine

def Action.isStep : Action → Bool
  | .step _ => true
  | .tick | .present => false

theorem Action.filter_steps (keys : Keypad) (count : Nat) :
    (List.replicate count (Action.step keys)).filter isStep = List.replicate count (.step keys) :=
  List.filter_replicate_of_pos rfl

variable {G : Type}

structure SameSight (first second : Machine G) : Prop where
  fault : second.fault = first.fault
  memory : second.memory = first.memory
  counter : second.counter = first.counter
  registers : second.registers = first.registers
  index : second.index = first.index
  stack : second.stack = first.stack

section Sight

variable {first second : Machine G} (sight : SameSight first second)

include sight

theorem SameSight.isHalted : second.isHalted = first.isHalted := by
  rw [Machine.isHalted, sight.fault, Machine.isHalted]

theorem SameSight.fetched? : second.fetched? = first.fetched? := by
  rw [Machine.fetched?, sight.memory, sight.counter, Machine.fetched?]

theorem SameSight.obstacle? (instruction : Instruction) :
    second.obstacle? instruction = first.obstacle? instruction :=
  obstacle?_congr sight.registers sight.index sight.stack instruction

variable [Generator G]

theorem SameSight.performs? (action : Action) : second.performs? action = first.performs? action := by
  cases action with
  | step keys =>
    refine Option.ext fun instruction => ?_
    rw [performs?_eq_some_iff, performs?_eq_some_iff, sight.isHalted, sight.fetched?, sight.obstacle?]
  | tick | present => rfl

end Sight

/-- A likeness of machines that is kept by all that a step does around its instruction. -/
structure Likeness (alike : Machine G → Machine G → Prop) : Prop where
  sight {first second : Machine G} (like : alike first second) : SameSight first second
  primed {first second : Machine G} (like : alike first second) (keys : Keypad) :
    alike (first.primed keys) (second.primed keys)
  halt {first second : Machine G} (like : alike first second) (fault : Fault) :
    alike (first.halt fault) (second.halt fault)
  move {first second : Machine G} (like : alike first second) (advance : Advance) :
    alike (first.move advance) (second.move advance)

def marked (machine : Machine G) (mark : Bool) : Machine G :=
  { machine with screen := ⟨machine.screen.pixels, mark⟩ }

/-- The second machine is the first one after some ticks, up to the mark on its screen. -/
def Ticked (count : Nat) (first second : Machine G) : Prop :=
  ∃ mark, second = (first.ticks count).marked mark

theorem likeness_ticked (count : Nat) : Likeness (Ticked (G := G) count) where
  sight := by
    rintro first _ ⟨mark, rfl⟩
    exact ⟨rfl, rfl, rfl, rfl, rfl, rfl⟩
  primed := by
    rintro first _ ⟨mark, rfl⟩ keys
    exact ⟨mark, rfl⟩
  halt := by
    rintro first _ ⟨mark, rfl⟩ fault
    exact ⟨mark, rfl⟩
  move := by
    rintro first _ ⟨mark, rfl⟩ advance
    exact ⟨mark, rfl⟩

theorem Ticked.ticks {count : Nat} {first second : Machine G} (ticked : Ticked count first second)
    (more : Nat) : Ticked (count + more) first (second.ticks more) := by
  obtain ⟨mark, rfl⟩ := ticked
  exact ⟨mark, by rw [ticks_add]; rfl⟩

theorem Ticked.present {count : Nat} {first second : Machine G} (ticked : Ticked count first second) :
    Ticked count first second.present := by
  obtain ⟨mark, rfl⟩ := ticked
  exact ⟨false, rfl⟩

theorem Ticked.refl (machine : Machine G) : Ticked 0 machine machine :=
  ⟨machine.screen.dirty, by rw [ticks_zero]; rfl⟩

theorem Ticked.trans {count more : Nat} {first second third : Machine G}
    (start : Ticked count first second) (rest : Ticked more second third) :
    Ticked (count + more) first third := by
  obtain ⟨_, rfl⟩ := start
  obtain ⟨mark, rfl⟩ := rest
  exact ⟨mark, by rw [ticks_add]; rfl⟩

theorem Ticked.present_eq {count : Nat} {first second : Machine G}
    (ticked : Ticked count first second) : second.present = (first.ticks count).present := by
  obtain ⟨mark, rfl⟩ := ticked
  rfl

variable [Generator G]

theorem Likeness.step {alike : Machine G → Machine G → Prop} (likeness : Likeness alike)
    {first second : Machine G} (like : alike first second) {keys : Keypad}
    (kept : ∀ instruction, first.performs? (.step keys) = some instruction →
      ∃ after, (second.primed keys).effect instruction =
          { (first.primed keys).effect instruction with machine := after } ∧
        alike ((first.primed keys).effect instruction).machine after) :
    (second.step keys).1 = (first.step keys).1 ∧ alike (first.step keys).2 (second.step keys).2 := by
  have sight := likeness.sight like
  have primed := likeness.primed like keys
-- The second machine sees the same, so it goes the same one of the ways that a step can go.
  cases first.stepCase keys with
  | halted stopped result =>
    rw [result, step_of_halted (sight.isHalted.trans stopped)]
    exact ⟨rfl, like⟩
  | unfetched running missing result =>
    rw [result, step_of_unfetched (sight.isHalted.trans running) (sight.fetched?.trans missing),
      sight.counter]
    exact ⟨rfl, likeness.halt primed _⟩
  | performed running word fetched clear result =>
    obtain ⟨after, same, kept⟩ :=
      kept _ (performs?_eq_some_iff.2 ⟨running, ⟨word, fetched, rfl⟩, clear⟩)
    rw [result, step_of_clear (sight.isHalted.trans running) (sight.fetched?.trans fetched)
      ((sight.obstacle? _).trans clear), same]
    exact ⟨rfl, likeness.move kept _⟩
  | rejected running word fetched cause blocked result =>
    rw [result, step_of_outside (sight.isHalted.trans running) (sight.fetched?.trans fetched)
      ((sight.obstacle? _).trans blocked)]
    exact ⟨rfl, likeness.move primed .next⟩
  | failed running word fetched cause blocked result =>
    rw [result, step_of_stack (sight.isHalted.trans running) (sight.fetched?.trans fetched)
      ((sight.obstacle? _).trans blocked)]
    exact ⟨rfl, likeness.halt primed _⟩

theorem effect_ticks (machine : Machine G) {instruction : Instruction}
    (spared : instruction.usesTimers = false) (count : Nat) :
    (machine.ticks count).effect instruction =
      { machine.effect instruction with
        machine := (machine.effect instruction).machine.ticks count } := by
  cases instruction with
  | system op => cases op <;> rfl
  | arith op x y => cases op <;> rfl
  | misc op x =>
    cases op with
    | getDelay | setDelay | setSound => cases spared
    | awaitKey =>
      have same : (machine.ticks count).keys = machine.keys := rfl
      simp only [effect, misc, same]
      cases machine.keys.firstPressed <;> rfl
    | _ => rfl
  | _ => rfl

/-- No instruction reads the mark, and those that write to the screen set it. -/
theorem effect_marked (machine : Machine G) (instruction : Instruction) (mark : Bool) :
    (machine.marked mark).effect instruction =
      { machine.effect instruction with
        machine := (machine.effect instruction).machine.marked
          (instruction.writes .screen || mark) } := by
  cases instruction with
  | system op => cases op <;> rfl
  | arith op x y => cases op <;> rfl
  | misc op x =>
    cases op with
    | awaitKey =>
      have same : (machine.marked mark).keys = machine.keys := rfl
      simp only [effect, misc, same]
      cases machine.keys.firstPressed <;> rfl
    | _ => rfl
  | _ => rfl

theorem Ticked.step {count : Nat} {first second : Machine G} (ticked : Ticked count first second)
    {keys : Keypad}
    (spared : ∀ instruction, first.performs? (.step keys) = some instruction →
      instruction.usesTimers = false) :
    Ticked count (first.act (.step keys)) (second.act (.step keys)) := by
  refine ((likeness_ticked count).step ticked fun instruction performed => ?_).2
  obtain ⟨mark, same⟩ := (likeness_ticked count).primed ticked keys
  refine ⟨_, ?_, instruction.writes .screen || mark, rfl⟩
  rw [same, effect_marked, effect_ticks _ (spared instruction performed)]

/-- A history in which no instruction that is carried out uses the timers. -/
def Timerless (machine : Machine G) (actions : List Action) : Prop :=
  ∀ instruction ∈ machine.performed actions, instruction.usesTimers = false

theorem timerless_nil (machine : Machine G) : machine.Timerless [] := by
  simp [Timerless, performed]

theorem timerless_cons {machine : Machine G} {action : Action} {later : List Action} :
    machine.Timerless (action :: later) ↔
      (∀ instruction, machine.performs? action = some instruction → instruction.usesTimers = false) ∧
        (machine.act action).Timerless later := by
  simp [Timerless, performed, or_imp, forall_and]

theorem timerless_append {machine : Machine G} {first second : List Action} :
    machine.Timerless (first ++ second) ↔
      machine.Timerless first ∧ (machine.run first).Timerless second := by
  simp [Timerless, performed_append, or_imp, forall_and]

theorem timerless_filter_iff {actions : List Action} {count : Nat} {first second : Machine G}
    (ticked : Ticked count first second) :
    second.Timerless actions ↔ first.Timerless (actions.filter Action.isStep) := by
  induction actions generalizing count first second with
  | nil => exact iff_of_true (timerless_nil second) (timerless_nil first)
  | cons action later ih =>
    have same := ((likeness_ticked count).sight ticked).performs? action
    cases action with
    | step keys =>
      rw [List.filter_cons_of_pos rfl, timerless_cons, timerless_cons, same]
      exact and_congr_right fun spared => ih (ticked.step spared)
    | tick =>
      rw [List.filter_cons_of_neg (by decide), timerless_cons, ← ih (ticked.ticks 1)]
      simp [performs?, act, tick]
    | present =>
      rw [List.filter_cons_of_neg (by decide), timerless_cons, ← ih ticked.present]
      simp [performs?, act]

theorem Ticked.run {actions : List Action} {count : Nat} {first second : Machine G}
    (ticked : Ticked count first second)
    (timerless : first.Timerless (actions.filter Action.isStep)) :
    Ticked (count + actions.count .tick) (first.run (actions.filter Action.isStep))
      (second.run actions) := by
  induction actions generalizing count first second with
  | nil => exact ticked
  | cons action later ih =>
    cases action with
    | step keys =>
      rw [List.filter_cons_of_pos rfl, timerless_cons] at timerless
      have other : Action.step keys ≠ .tick := nofun
      rw [List.filter_cons_of_pos rfl, List.count_cons_of_ne other, run_cons, run_cons]
      exact ih (ticked.step timerless.1) timerless.2
    | tick =>
      rw [List.filter_cons_of_neg (by decide)] at timerless ⊢
      rw [List.count_cons_self, run_cons, Nat.add_comm _ 1, ← Nat.add_assoc]
      exact ih (ticked.ticks 1) timerless
    | present =>
      rw [List.filter_cons_of_neg (by decide)] at timerless ⊢
      have other : Action.present ≠ .tick := nofun
      rw [List.count_cons_of_ne other, run_cons]
      exact ih ticked.present timerless

theorem Ticked.run_steps {keys : Keypad} {steps count : Nat} {first second : Machine G}
    (ticked : Ticked count first second)
    (timerless : first.Timerless (List.replicate steps (.step keys))) :
    Ticked count (first.run (List.replicate steps (.step keys)))
      (second.run (List.replicate steps (.step keys))) := by
  have all := Action.filter_steps keys steps
  have tickless : (List.replicate steps (Action.step keys)).count .tick = 0 := by
    simp [List.count_replicate]
  have ran := ticked.run (all.symm ▸ timerless)
  rwa [all, tickless] at ran

end Machine

end SpriteMachine
