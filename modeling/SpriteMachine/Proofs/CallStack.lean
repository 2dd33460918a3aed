import SpriteMachine.Proofs.Bounds
import SpriteMachine.Proofs.Decoding
import SpriteMachine.Random.Stride

/-! Calls and returns over whole runs. An action pushes when it carries out a call, pops when it carries
out a return and leaves the stack alone otherwise. So the entries below the depth of a call stay as they
are while the machine is inside of that call, and leaving it leads back behind the call. -/

namespace SpriteMachine

def Instruction.isCall : Instruction → Bool
  | call _ => true
  | _ => false

namespace Machine

variable {G : Type} [Generator G]

inductive StackCase (machine : Machine G) : Action → Prop
  | pushed (keys : Keypad) (target : Address)
      (called : machine.performs? (.step keys) = some (.call target))
      (stack : (machine.act (.step keys)).stack = (machine.counter + 2) :: machine.stack) :
      machine.StackCase (.step keys)
  | popped (keys : Keypad) (left : machine.performs? (.step keys) = some (.system .leave))
      (stack : machine.stack = (machine.act (.step keys)).counter :: (machine.act (.step keys)).stack) :
      machine.StackCase (.step keys)
  | kept (action : Action) (stays : machine.performs? action ≠ some (.system .leave))
      (calm : ∀ target, machine.performs? action ≠ some (.call target))
      (stack : (machine.act action).stack = machine.stack) :
      machine.StackCase action

theorem stack_act_of_performs {machine : Machine G} {keys : Keypad} {instruction : Instruction}
    (performed : machine.performs? (.step keys) = some instruction) :
    (machine.act (.step keys)).stack = ((machine.primed keys).effect instruction).machine.stack := by
  rw [act, step_of_performs performed]
  rfl

theorem act_of_call {machine : Machine G} {keys : Keypad} {target : Address}
    (called : machine.performs? (.step keys) = some (.call target)) :
    machine.act (.step keys) =
      { machine.primed keys with
        stack := (machine.counter + 2) :: machine.stack, counter := target.val } := by
  have next := Advance.apply_next_of_fetchable (counter_lt_of_performs called)
  rw [act, step_of_performs called, ← next]
  rfl

theorem stack_act_of_call {machine : Machine G} {keys : Keypad} {target : Address}
    (called : machine.performs? (.step keys) = some (.call target)) :
    (machine.act (.step keys)).stack = (machine.counter + 2) :: machine.stack := by
  rw [act_of_call called]

theorem act_of_leave {machine : Machine G} {keys : Keypad}
    (left : machine.performs? (.step keys) = some (.system .leave)) {back : Nat} {rest : List Nat}
    (entries : machine.stack = back :: rest) :
    machine.act (.step keys) = { machine.primed keys with stack := rest, counter := back } := by
  have pushed : (machine.primed keys).stack = back :: rest := entries
  rw [act, step_of_performs left]
  simp only [effect, move, Advance.apply, pushed, List.tail_cons, List.headD_cons]

theorem stack_eq_of_leave {machine : Machine G} {keys : Keypad}
    (left : machine.performs? (.step keys) = some (.system .leave)) :
    machine.stack = (machine.act (.step keys)).counter :: (machine.act (.step keys)).stack := by
  obtain ⟨back, rest, entries⟩ := exists_stack_of_clear_leave (performs?_eq_some_iff.1 left).2.2
  rw [act_of_leave left entries, entries]

theorem stackCase (machine : Machine G) (action : Action) : machine.StackCase action := by
  cases action with
  | tick => exact .kept .tick (by simp [performs?]) (by simp [performs?]) rfl
  | present => exact .kept .present (by simp [performs?]) (by simp [performs?]) rfl
  | step keys =>
    rcases found : machine.performs? (.step keys) with _ | instruction
    case none =>
      obtain ⟨_, _, _, _, same⟩ := step_of_idle found
      refine .kept (.step keys) (by simp [found]) (by simp [found]) ?_
      rw [act, same]
    by_cases left : instruction = .system .leave
    · exact .popped keys (left ▸ found) (stack_eq_of_leave (left ▸ found))
    by_cases called : ∃ target, instruction = .call target
    · obtain ⟨target, rfl⟩ := called
      exact .pushed keys target found (stack_act_of_call found)
    refine .kept (.step keys) (by simpa [found] using left) (by simpa [found] using called) ?_
    rw [stack_act_of_performs found, stack_effect]
    split
    · exact absurd rfl left
    · exact absurd ⟨_, rfl⟩ called
    · rfl

theorem fetched?_of_leave {machine : Machine G} {action : Action}
    (left : machine.performs? action = some (.system .leave)) : machine.fetched? = some 0x00EE := by
  cases action with
  | tick | present => cases left
  | step keys =>
    obtain ⟨_, ⟨word, fetched, decoded⟩, _⟩ := performs?_eq_some_iff.1 left
    rw [(Instruction.decode_eq_iff rfl).1 decoded] at fetched
    exact fetched

theorem length_stack_run (machine : Machine G) (actions : List Action) :
    (machine.run actions).stack.length + (machine.performed actions).count (.system .leave) =
      machine.stack.length + (machine.performed actions).countP Instruction.isCall := by
  induction actions generalizing machine with
  | nil => rfl
  | cons action later ih =>
    have rest := ih (machine.act action)
    rw [run_cons, performed, List.count_append, List.countP_append]
    cases machine.stackCase action with
    | pushed keys target called stack =>
      rw [stack, List.length_cons] at rest
      have call : [Instruction.call target].countP Instruction.isCall = 1 := rfl
      have noReturn : [Instruction.call target].count (.system .leave) = 0 := by simp
      rw [called, Option.toList_some, call, noReturn]
      omega
    | popped keys left stack =>
      have length := congrArg List.length stack
      rw [List.length_cons] at length
      have noCall : [Instruction.system .leave].countP Instruction.isCall = 0 := rfl
      rw [left, Option.toList_some, List.count_singleton_self, noCall]
      omega
    | kept _ stays calm stack =>
      rw [stack] at rest
      rcases found : machine.performs? action with _ | instruction
      · simpa [found] using rest
      · rw [found] at stays calm
        have noReturn : [instruction].count (.system .leave) = 0 := by
          simpa [List.count_eq_zero] using fun same => stays (congrArg some same.symm)
        have noCall : [instruction].countP Instruction.isCall = 0 := by
          cases instruction with
          | call target => exact absurd rfl (calm target)
          | _ => rfl
        rw [Option.toList_some, noReturn, noCall]
        omega

theorem suffix_stack_act {machine : Machine G} {older : List Nat} (held : older <:+ machine.stack)
    (action : Action) (deep : older.length ≤ (machine.act action).stack.length) :
    older <:+ (machine.act action).stack := by
  cases machine.stackCase action with
  | pushed keys target called stack =>
    rw [stack]
    exact held.trans (List.suffix_cons _ _)
  | popped keys left stack =>
    rw [stack] at held
    rcases List.suffix_cons_iff.1 held with whole | part
    · have length := congrArg List.length whole
      rw [List.length_cons] at length
      omega
    · exact part
  | kept _ stays calm stack => rwa [stack]

/-- All along a history the stack is deeper than `depth`. -/
def StaysAbove (machine : Machine G) (depth : Nat) (actions : List Action) : Prop :=
  ∀ earlier, earlier <+: actions → depth < (machine.run earlier).stack.length

theorem staysAbove_nil {machine : Machine G} {depth : Nat} :
    machine.StaysAbove depth [] ↔ depth < machine.stack.length := by
  simp [StaysAbove]

theorem staysAbove_cons {machine : Machine G} {depth : Nat} {action : Action} {later : List Action} :
    machine.StaysAbove depth (action :: later) ↔
      depth < machine.stack.length ∧ (machine.act action).StaysAbove depth later := by
  constructor
  · intro above
    exact ⟨above [] List.nil_prefix,
      fun earlier before => above (action :: earlier) (List.cons_prefix_cons.2 ⟨rfl, before⟩)⟩
  · rintro ⟨shallow, above⟩ earlier before
    rcases List.prefix_cons_iff.1 before with rfl | ⟨rest, rfl, shorter⟩
    · exact shallow
    · exact above rest shorter

theorem suffix_stack_run {machine : Machine G} {older : List Nat} (held : older <:+ machine.stack)
    {depth : Nat} (length : older.length = depth + 1) {actions : List Action}
    (above : machine.StaysAbove depth actions) : older <:+ (machine.run actions).stack := by
  induction actions generalizing machine with
  | nil => exact held
  | cons action later ih =>
    have next := (staysAbove_cons.1 above).2
    have deep : depth < (machine.act action).stack.length := next [] (List.nil_prefix)
    exact ih (suffix_stack_act held action (by omega)) next

/-- Only a return brings the depth back below an entry, and it goes on where that entry points. -/
theorem leave_of_depth {machine : Machine G} {back : Nat} {rest : List Nat}
    (held : back :: rest <:+ machine.stack) {action : Action}
    (fell : (machine.act action).stack.length ≤ rest.length) :
    machine.performs? action = some (.system .leave) ∧ (machine.act action).stack = rest ∧
      (machine.act action).counter = back := by
  have deep := held.length_le
  rw [List.length_cons] at deep
  cases machine.stackCase action with
  | pushed keys target called stack =>
    rw [stack, List.length_cons] at fell
    omega
  | popped keys left stack =>
-- Nothing is left above the older entries, so the newest of them is the one that is popped.
    have short : machine.stack.length ≤ (back :: rest).length := by
      rw [stack, List.length_cons, List.length_cons]
      omega
    have same := (held.eq_of_length_le short).trans stack
    rw [List.cons.injEq] at same
    exact ⟨left, same.2.symm, same.1.symm⟩
  | kept _ stays calm stack =>
    rw [stack] at fell
    omega

/-- In every run the stack counts the calls that are still open, and each of them is left by the return
that leads back behind it, on the stack that it was made on. -/
theorem returns_match_calls {memory : Memory} {screen : Screen} {random : G} {before : List Action}
    {caller : Machine G} (reached : (fresh memory screen random).run before = caller) :
    caller.stack.length + ((fresh memory screen random).performed before).count (.system .leave) =
        ((fresh memory screen random).performed before).countP Instruction.isCall ∧
      caller.stack.length ≤ 16 ∧
      ∀ keys target later, caller.performs? (.step keys) = some (.call target) →
        (caller.act (.step keys)).StaysAbove caller.stack.length later →
        let inside := (caller.act (.step keys)).run later
        (caller.counter + 2) :: caller.stack <:+ inside.stack ∧
          ∀ action, (inside.act action).stack.length ≤ caller.stack.length →
            inside.performs? action = some (.system .leave) ∧ inside.fetched? = some 0x00EE ∧
              (inside.act action).stack = caller.stack ∧
              (inside.act action).counter = caller.counter + 2 := by
  have bounded : caller.Bounded := reached ▸ (bounded_fresh memory screen random).run before
  refine ⟨?_, bounded.depth, fun keys target later called above => ?_⟩
  · have counted := (fresh memory screen random).length_stack_run before
    have unused : (fresh memory screen random).stack.length = 0 := rfl
    rw [reached, unused, Nat.zero_add] at counted
    exact counted
  · intro inside
    have entered : (caller.counter + 2) :: caller.stack <:+ (caller.act (.step keys)).stack :=
      ⟨[], (stack_act_of_call called).symm⟩
    have held := suffix_stack_run entered List.length_cons above
    refine ⟨held, fun action fell => ?_⟩
    obtain ⟨left, stack, counter⟩ := leave_of_depth held fell
    exact ⟨left, fetched?_of_leave left, stack, counter⟩

def nestedBytes : List UInt8 :=
  [0x22, 0x04, 0x00, 0x00, 0x22, 0x08, 0x00, 0xEE, 0x00, 0xEE]

def nested : Machine Stride :=
  fresh (Memory.initial.store Memory.programStart nestedBytes) Screen.blank ⟨0, 0⟩

theorem inner_call_returns {machine : Machine Stride}
    (stored : machine.memory = Memory.initial.store Memory.programStart nestedBytes)
    (counter : machine.counter = Memory.programStart + 4) (stack : machine.stack = [0x202])
    (running : machine.isHalted = false) :
    let step := Action.step Keypad.released
    let inside := machine.run [step, .tick, step]
    machine.StaysAbove 0 [step, .tick, step] ∧ inside.stack = [0x202] ∧
      inside.performs? step = some (.system .leave) := by
  intro step inside
  have call : Instruction.decode (Word.ofBytes 0x22 0x08) = .call 0x208 :=
    (Instruction.decode_eq_iff rfl).2 rfl
  have leave : Instruction.decode (Word.ofBytes 0x00 0xEE) = .system .leave :=
    (Instruction.decode_eq_iff rfl).2 rfl
  have called : machine.performs? step = some (.call 0x208) :=
    performs?_store stored (by decide) counter rfl rfl call running
      (by simp only [obstacle?, stack]; rfl) _
  have entered := act_of_call called
  have deeper : (machine.act step).stack = [0x206, 0x202] := by
    rw [entered, counter, stack]
    rfl
  have memory : ((machine.act step).act .tick).memory = _ := (congrArg Machine.memory entered).trans stored
  have pointed : ((machine.act step).act .tick).counter = Memory.programStart + 8 :=
    congrArg Machine.counter entered
  have entries : ((machine.act step).act .tick).stack = [0x206, 0x202] := deeper
  have going : ((machine.act step).act .tick).isHalted = false := (congrArg isHalted entered).trans running
  have left : ((machine.act step).act .tick).performs? step = some (.system .leave) :=
    performs?_store memory (by decide) pointed rfl rfl leave going
      (by simp only [obstacle?, entries]; rfl) _
  have returned : inside = _ := act_of_leave left entries
  have above : inside.stack = [0x202] := congrArg Machine.stack returned
  have back : inside.counter = Memory.programStart + 6 := congrArg Machine.counter returned
  refine ⟨?_, above, ?_⟩
  · have quiet : 0 < ((machine.act step).act .tick).stack.length := by
      rw [entries]
      decide
    have last : 0 < inside.stack.length := by
      rw [above]
      decide
    simp only [staysAbove_cons, staysAbove_nil, stack, deeper]
    exact ⟨by decide, by decide, quiet, last⟩
  · exact performs?_store ((congrArg Machine.memory returned).trans memory) (by decide) back rfl rfl
      leave ((congrArg isHalted returned).trans going) (by simp only [obstacle?, above]; rfl) _

theorem nested_call_returns :
    let step := Action.step Keypad.released
    let later := [step, .tick, step]
    let inside := (nested.act step).run later
    nested.performs? step = some (.call 0x204) ∧ (nested.act step).StaysAbove 0 later ∧
      inside.stack = [0x202] ∧ (inside.act step).stack = nested.stack ∧
      (inside.act step).counter = nested.counter + 2 := by
  intro step later inside
  have stored : nested.memory = Memory.initial.store Memory.programStart nestedBytes := rfl
  have start : nested.counter = Memory.programStart + 0 := rfl
  have call : Instruction.decode (Word.ofBytes 0x22 0x04) = .call 0x204 :=
    (Instruction.decode_eq_iff rfl).2 rfl
  have called : nested.performs? step = some (.call 0x204) :=
    performs?_store stored (by decide) start rfl rfl call rfl rfl _
  have entered := act_of_call called
  obtain ⟨above, stack, left⟩ := inner_call_returns ((congrArg Machine.memory entered).trans stored)
    (congrArg Machine.counter entered) (congrArg Machine.stack entered) (congrArg isHalted entered)
  have reached : (fresh nested.memory Screen.blank ⟨0, 0⟩).run [] = nested := rfl
  have emptied : (inside.act step).stack = [] := congrArg Machine.stack (act_of_leave left stack)
  have fell : (inside.act step).stack.length ≤ nested.stack.length := by
    rw [emptied]
    exact Nat.zero_le _
  have matched := (returns_match_calls reached).2.2 Keypad.released 0x204 later called above
  exact ⟨called, above, stack, (matched.2 step fell).2.2⟩

end Machine

end SpriteMachine
