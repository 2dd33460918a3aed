import SpriteMachine.Proofs.Rejection

/-! Where a program goes on. `LeadsTo` lists the words that can lead anywhere but to the next one, with
the condition and the place of each, and `Meaningless` lists those without a meaning, both by their
digits. A step that does not fail follows the first list, goes on with the next word where nothing is
listed, and reports what it met. -/

namespace SpriteMachine

namespace Advance

theorem apply_skipIf_of_fetchable {counter : Nat} (inside : counter + 1 < Memory.size)
    {condition : Bool} (holds : condition = true) : (skipIf condition).apply counter = counter + 4 := by
  rw [holds]
  exact apply_skip_of_fetchable inside

theorem skipIf_eq_next_or {counter : Nat} (inside : counter + 1 < Memory.size) {condition : Bool}
    (reaches : Nat → Prop) (skips : condition = true → reaches (counter + 4)) :
    skipIf condition = next ∨ reaches ((skipIf condition).apply counter) := by
  cases condition with
  | false => exact .inl rfl
  | true =>
    rw [apply_skipIf_of_fetchable inside rfl]
    exact .inr (skips rfl)

end Advance

theorem SystemOp.ofWord?_eq_none_iff {word : Nat} :
    ofWord? word = none ↔ word ≠ 0x00E0 ∧ word ≠ 0x00EE := by
  unfold ofWord?
  split <;> simp_all

theorem ArithOp.ofSelector?_eq_none_iff :
    ∀ n : Fin 16, ofSelector? n = none ↔ 0x8 ≤ n.val ∧ n.val ≤ 0xD ∨ n.val = 0xF := by
  decide

theorem KeyTest.ofSelector?_eq_none_iff {selector : Nat} :
    ofSelector? selector = none ↔ selector ≠ 0x9E ∧ selector ≠ 0xA1 := by
  unfold ofSelector?
  split <;> simp_all

theorem MiscOp.ofSelector?_eq_none_iff {selector : Nat} :
    ofSelector? selector = none ↔
      selector ∉ [0x07, 0x0A, 0x15, 0x18, 0x1E, 0x29, 0x33, 0x55, 0x65] := by
  unfold ofSelector?
  split <;> simp_all

namespace Instruction

open Word

inductive Meaningless (word : UInt16) : Prop
  | system (digit : group word = 0x0) (other : word.toNat ≠ 0x00E0 ∧ word.toNat ≠ 0x00EE)
  | pair (digit : group word = 0x5 ∨ group word = 0x9) (other : (n word).val ≠ 0x0)
  | arith (digit : group word = 0x8)
      (other : 0x8 ≤ (n word).val ∧ (n word).val ≤ 0xD ∨ (n word).val = 0xF)
  | key (digit : group word = 0xE) (other : (nn word).toNat ≠ 0x9E ∧ (nn word).toNat ≠ 0xA1)
  | misc (digit : group word = 0xF)
      (other : (nn word).toNat ∉ [0x07, 0x0A, 0x15, 0x18, 0x1E, 0x29, 0x33, 0x55, 0x65])

theorem decode_of_meaningless {word : UInt16} (meaningless : Meaningless word) :
    decode word = unknown word := by
  cases meaningless with
  | system digit other => simp [decode, digit, SystemOp.ofWord?_eq_none_iff.2 other]
  | pair digit other =>
    have nonzero : n word ≠ 0 := fun zero => other (congrArg Fin.val zero)
    rcases digit with digit | digit <;> simp [decode, digit, nonzero]
  | arith digit other => simp [decode, digit, (ArithOp.ofSelector?_eq_none_iff _).2 other]
  | key digit other =>
    have absent := KeyTest.ofSelector?_eq_none_iff.2 other
    simp only [decode, digit, absent, Option.elim_none]
  | misc digit other =>
    have absent := MiscOp.ofSelector?_eq_none_iff.2 other
    simp only [decode, digit, absent, Option.elim_none]

theorem meaningless_of_decode {word other : UInt16} (decoded : decode word = unknown other) :
    Meaningless word := by
  have bound := group_lt word
  unfold decode at decoded
  split at decoded
  case h_1 digit =>
    cases found : SystemOp.ofWord? word.toNat with
    | none => exact .system digit (SystemOp.ofWord?_eq_none_iff.1 found)
    | some op => rw [found] at decoded; cases decoded
  case h_6 digit =>
    split at decoded
    · cases decoded
    · next nonzero => exact .pair (.inl digit) fun zero => nonzero (Fin.ext zero)
  case h_9 digit =>
    cases found : ArithOp.ofSelector? (n word) with
    | none => exact .arith digit ((ArithOp.ofSelector?_eq_none_iff _).1 found)
    | some op => rw [found] at decoded; cases decoded
  case h_10 digit =>
    split at decoded
    · cases decoded
    · next nonzero => exact .pair (.inr digit) fun zero => nonzero (Fin.ext zero)
  case h_15 digit =>
    cases found : KeyTest.ofSelector? (nn word).toNat with
    | none => exact .key digit (KeyTest.ofSelector?_eq_none_iff.1 found)
    | some test => rw [found] at decoded; cases decoded
  case h_16 =>
    have digit : group word = 0xF := by
      simp only [imp_false] at *
      omega
    cases found : MiscOp.ofSelector? (nn word).toNat with
    | none => exact .misc digit (MiscOp.ofSelector?_eq_none_iff.1 found)
    | some op => rw [found] at decoded; cases decoded
  all_goals cases decoded

theorem decode_eq_unknown_iff {word other : UInt16} :
    decode word = unknown other ↔ other = word ∧ Meaningless word := by
  refine ⟨fun decoded => ⟨?_, meaningless_of_decode decoded⟩, ?_⟩
  · have same := encode_decode word
    rwa [decoded, encode] at same
  · rintro ⟨rfl, meaningless⟩
    exact decode_of_meaningless meaningless

end Instruction

namespace Machine

open Instruction

variable {G : Type}

/-- The words that can lead anywhere but to the next word, each with when and where to. Whether a jump is
accepted is left open. -/
inductive LeadsTo (machine : Machine G) (keys : Keypad) : UInt16 → Nat → Prop
  | jump (target : Address) : machine.LeadsTo keys (layoutAddress 0x1 target) target.val
  | call (target : Address) : machine.LeadsTo keys (layoutAddress 0x2 target) target.val
  | jumpFrom (base : Address) :
      machine.LeadsTo keys (layoutAddress 0xB base) (base.val + (machine.register 0).toNat)
  | leave (back : Nat) (older : List Nat) (pushed : machine.stack = back :: older) :
      machine.LeadsTo keys 0x00EE back
  | await (x : Register) (released : ∀ key, keys.isPressed key = false) :
      machine.LeadsTo keys (layoutByte 0xF x 0x0A) machine.counter
  | skipIfEqual (x : Register) (value : UInt8) (equal : machine.register x = value) :
      machine.LeadsTo keys (layoutByte 0x3 x value.toNat) (machine.counter + 4)
  | skipUnlessEqual (x : Register) (value : UInt8) (other : machine.register x ≠ value) :
      machine.LeadsTo keys (layoutByte 0x4 x value.toNat) (machine.counter + 4)
  | skipIfSame (x y : Register) (equal : machine.register x = machine.register y) :
      machine.LeadsTo keys (layoutDigits 0x5 x y 0x0) (machine.counter + 4)
  | skipUnlessSame (x y : Register) (other : machine.register x ≠ machine.register y) :
      machine.LeadsTo keys (layoutDigits 0x9 x y 0x0) (machine.counter + 4)
  | skipIfPressed (x : Register) (key : (machine.register x).toNat < 16)
      (pressed : keys.isPressed (machine.register x).toNat = true) :
      machine.LeadsTo keys (layoutByte 0xE x 0x9E) (machine.counter + 4)
  | skipUnlessPressed (x : Register)
      (released : 16 ≤ (machine.register x).toNat ∨
        keys.isPressed (machine.register x).toNat = false) :
      machine.LeadsTo keys (layoutByte 0xE x 0xA1) (machine.counter + 4)

variable [Generator G]

section Leading

variable {machine : Machine G} {keys : Keypad} (inside : machine.counter + 1 < Memory.size)

include inside

theorem exists_instruction_of_leadsTo {word : UInt16} {target : Nat}
    (leads : machine.LeadsTo keys word target) :
    ∃ instruction, instruction.isKnown = true ∧ instruction.encode = word ∧
      ((machine.primed keys).effect instruction).advance.apply machine.counter = target := by
  have skips {condition : Bool} (holds : condition = true) :=
    Advance.apply_skipIf_of_fetchable inside holds
  cases leads with
  | jump target => exact ⟨.jump target, rfl, rfl, rfl⟩
  | call target => exact ⟨.call target, rfl, rfl, rfl⟩
  | jumpFrom base => exact ⟨.jumpFrom base, rfl, rfl, rfl⟩
  | leave back older pushed =>
    exact ⟨.system .leave, rfl, rfl, congrArg (List.headD · 0) pushed⟩
  | await x released =>
    have unpressed : (machine.primed keys).keys.firstPressed = none :=
      Keypad.firstPressed_eq_none_iff.2 released
    refine ⟨.misc .awaitKey x, rfl, rfl, ?_⟩
    simp only [effect, misc, unpressed, Advance.apply]
  | skipIfEqual x value equal =>
    exact ⟨.skipIfEqual x value, rfl, rfl, skips (beq_iff_eq.2 equal)⟩
  | skipUnlessEqual x value other =>
    exact ⟨.skipUnlessEqual x value, rfl, rfl, skips (bne_iff_ne.2 other)⟩
  | skipIfSame x y equal => exact ⟨.skipIfSame x y, rfl, rfl, skips (beq_iff_eq.2 equal)⟩
  | skipUnlessSame x y other => exact ⟨.skipUnlessSame x y, rfl, rfl, skips (bne_iff_ne.2 other)⟩
  | skipIfPressed x key pressed => exact ⟨.key .pressed x, rfl, rfl, skips pressed⟩
  | skipUnlessPressed x released =>
    have unpressed : keys.isPressed (machine.register x).toNat = false :=
      released.elim (keys.isPressed_of_le ·) id
    exact ⟨.key .notPressed x, rfl, rfl, skips (congrArg not unpressed)⟩

theorem advance_eq_next_or_leadsTo {instruction : Instruction}
    (clear : machine.obstacle? instruction = none) :
    ((machine.primed keys).effect instruction).advance = .next ∨
      machine.LeadsTo keys instruction.encode
        (((machine.primed keys).effect instruction).advance.apply machine.counter) := by
  have either {condition : Bool} {word : UInt16}
      (skips : condition = true → machine.LeadsTo keys word (machine.counter + 4)) :=
    Advance.skipIf_eq_next_or inside (machine.LeadsTo keys word) skips
  cases instruction with
  | system op =>
    cases op with
    | clear => exact .inl rfl
    | leave =>
      obtain ⟨back, older, pushed⟩ := exists_stack_of_clear_leave clear
      have popped : (machine.primed keys).stack.headD 0 = back := congrArg (List.headD · 0) pushed
      simp only [effect, Advance.apply, popped]
      exact .inr (.leave back older pushed)
  | jump target => exact .inr (.jump target)
  | call target => exact .inr (.call target)
  | jumpFrom base => exact .inr (.jumpFrom base)
  | skipIfEqual x value => exact either fun equal => .skipIfEqual x value (beq_iff_eq.1 equal)
  | skipUnlessEqual x value => exact either fun other => .skipUnlessEqual x value (bne_iff_ne.1 other)
  | skipIfSame x y => exact either fun equal => .skipIfSame x y (beq_iff_eq.1 equal)
  | skipUnlessSame x y => exact either fun other => .skipUnlessSame x y (bne_iff_ne.1 other)
  | key test x =>
    cases test with
    | pressed =>
      refine either fun pressed => .skipIfPressed x (Nat.lt_of_not_le fun outside => ?_) pressed
      exact Bool.false_ne_true ((keys.isPressed_of_le outside).symm.trans pressed)
    | notPressed =>
      exact either fun released => .skipUnlessPressed x (.inr ((Bool.not_eq_true' _).mp released))
  | misc op x =>
    cases op with
    | awaitKey =>
      cases found : keys.firstPressed with
      | none =>
        have unpressed : (machine.primed keys).keys.firstPressed = none := found
        simp only [effect, misc, unpressed, Advance.apply]
        exact .inr (.await x (Keypad.firstPressed_eq_none_iff.1 found))
      | some key =>
        have pressed : (machine.primed keys).keys.firstPressed = some key := found
        simp only [effect, misc, pressed, true_or]
    | _ => exact .inl rfl
  | _ => exact .inl rfl

end Leading

theorem effect_outcome_eq_waiting_iff {machine : Machine G} {instruction : Instruction} :
    (machine.effect instruction).outcome = .waiting ↔
      (∃ x, instruction = .misc .awaitKey x) ∧ machine.keys.firstPressed = none := by
  constructor
  · intro waiting
    obtain ⟨awaits, released, _⟩ := effect_of_waiting waiting
    exact ⟨awaits, released⟩
  · rintro ⟨⟨x, rfl⟩, unpressed⟩
    simp only [effect, misc, unpressed]

theorem effect_outcome_eq_unimplemented_iff {machine : Machine G} {instruction : Instruction}
    {word : UInt16} :
    (machine.effect instruction).outcome = .unimplemented word ↔ instruction = .unknown word := by
  refine ⟨fun reported => ?_, fun same => same ▸ rfl⟩
  cases machine.reportCase instruction with
  | plain result => simp [reported] at result
  | waiting x _ _ result => simp [result] at reported
  | unimplemented other unknown result =>
    rw [reported, Outcome.unimplemented.injEq] at result
    rw [unknown, result]

section Steps

variable {machine : Machine G} {word : UInt16} (running : machine.isHalted = false)
  (fetched : machine.fetched? = some word) {keys : Keypad}

include running fetched

theorem counter_step_of_clear (clear : machine.obstacle? (.decode word) = none) :
    (machine.step keys).2.counter =
      ((machine.primed keys).effect (.decode word)).advance.apply machine.counter := by
  rw [step_of_clear running fetched clear, move, (effect_step_fields _ _).1]
  rfl

theorem step_ok_iff {outcome : Outcome} (accepted : ∀ cause, outcome ≠ .rejected cause) :
    (machine.step keys).1 = .ok outcome ↔
      machine.obstacle? (.decode word) = none ∧
        ((machine.primed keys).effect (.decode word)).outcome = outcome := by
  rcases blocked : machine.obstacle? (.decode word) with _ | fault
  · simp [step_of_clear running fetched blocked]
  · rcases obstacle?_kind blocked with ⟨cause, rfl⟩ | ⟨cause, rfl⟩
    · simpa [step_of_outside running fetched blocked] using (accepted cause).symm
    · simp [step_of_stack running fetched blocked]

theorem step_waits_iff :
    (machine.step keys).1 = .ok .waiting ↔
      (∃ x, word = layoutByte 0xF x 0x0A) ∧ ∀ key, keys.isPressed key = false := by
  have awaits : (∃ x, decode word = .misc .awaitKey x) ↔ ∃ x, word = layoutByte 0xF x 0x0A :=
    exists_congr fun x => decode_eq_iff rfl
  rw [step_ok_iff running fetched (by simp), effect_outcome_eq_waiting_iff, awaits,
    ← Keypad.firstPressed_eq_none_iff]
  refine ⟨And.right, fun waits => ⟨?_, waits⟩⟩
  obtain ⟨x, decoded⟩ := awaits.2 waits.1
  rw [decoded]
  rfl

theorem step_unimplemented_iff {other : UInt16} :
    (machine.step keys).1 = .ok (.unimplemented other) ↔ other = word ∧ Meaningless word := by
  rw [step_ok_iff running fetched (by simp), effect_outcome_eq_unimplemented_iff,
    ← decode_eq_unknown_iff]
  refine ⟨And.right, fun decoded => ⟨?_, decoded⟩⟩
  rw [decoded]
  rfl

theorem counter_step_of_leadsTo (clear : machine.obstacle? (.decode word) = none) {target : Nat}
    (leads : machine.LeadsTo keys word target) : (machine.step keys).2.counter = target := by
  obtain ⟨instruction, known, rfl, led⟩ :=
    exists_instruction_of_leadsTo (counter_lt_of_fetched fetched) leads
  rw [counter_step_of_clear running fetched clear, decode_encode known, led]

theorem counter_step_of_unlisted (clear : machine.obstacle? (.decode word) = none)
    (unlisted : ∀ target, ¬ machine.LeadsTo keys word target) :
    (machine.step keys).2.counter = machine.counter + 2 := by
  have inside := counter_lt_of_fetched fetched
  have goesOn : ((machine.primed keys).effect (.decode word)).advance = .next ∨ _ :=
    advance_eq_next_or_leadsTo inside clear
  rw [counter_step_of_clear running fetched clear]
  rcases goesOn with next | leads
  · rw [next, Advance.apply_next_of_fetchable inside]
  · rw [encode_decode] at leads
    exact absurd leads (unlisted _)

theorem counter_step_of_rejected {cause : MemoryFault}
    (rejected : (machine.step keys).1 = .ok (.rejected cause)) :
    (machine.step keys).2.counter = machine.counter + 2 := by
  rw [step_of_memory running fetched ((step_rejected_iff running fetched keys).1 rejected)]

theorem step_of_meaningless (meaningless : Meaningless word) :
    (machine.step keys).2 =
      { machine with keys := keys, word := word, counter := machine.counter + 2 } := by
  have decoded := decode_of_meaningless meaningless
  have clear : machine.obstacle? (.decode word) = none := by
    rw [decoded]
    rfl
  have next := Advance.apply_next_of_fetchable (counter_lt_of_fetched fetched)
  rw [step_of_clear running fetched clear, decoded, primed_of_fetched fetched, ← next]
  rfl

end Steps

/-- Where a step that does not fail goes on. An accepted word that is listed leads to its place, and a
rejected one or one that is not listed to the next word. The step waits exactly if it stays where it is
for want of a key, and reports exactly the words without a meaning, which it passes over. -/
theorem step_leads_on {machine : Machine G} {keys : Keypad} {outcome : Outcome}
    (running : machine.isHalted = false) (ok : (machine.step keys).1 = .ok outcome) :
    ∃ word, machine.fetched? = some word ∧
      let after := (machine.step keys).2
      ((∀ cause, outcome ≠ .rejected cause) →
        ∀ target, machine.LeadsTo keys word target → after.counter = target) ∧
      ((∃ cause, outcome = .rejected cause) ∨ (∀ target, ¬ machine.LeadsTo keys word target) →
        after.counter = machine.counter + 2) ∧
      (outcome = .waiting ↔
        (∃ x, word = layoutByte 0xF x 0x0A) ∧ ∀ key, keys.isPressed key = false) ∧
      ∀ other, (outcome = .unimplemented other ↔ other = word ∧ Meaningless other) ∧
        (outcome = .unimplemented other →
          after = { machine with keys := keys, word := other, counter := machine.counter + 2 }) := by
  have reported (result : Outcome) : outcome = result ↔ (machine.step keys).1 = .ok result := by
    rw [ok, Except.ok.injEq]
  cases fetched : machine.fetched? with
  | none =>
    rw [step_of_unfetched running fetched] at ok
    cases ok
  | some word =>
    refine ⟨word, rfl, fun accepted target leads => ?_, fun passed => ?_, ?_, fun other => ⟨?_, ?_⟩⟩
    · exact counter_step_of_leadsTo running fetched ((step_ok_iff running fetched accepted).1 ok).1 leads
    · rcases passed with ⟨cause, rfl⟩ | unlisted
      · exact counter_step_of_rejected running fetched ok
      · by_cases accepted : ∀ cause, outcome ≠ .rejected cause
        · have clear := ((step_ok_iff running fetched accepted).1 ok).1
          exact counter_step_of_unlisted running fetched clear unlisted
        · obtain ⟨cause, rejected⟩ := Classical.not_forall_not.1 accepted
          exact counter_step_of_rejected running fetched (rejected ▸ ok)
    · rw [reported, step_waits_iff running fetched]
    · rw [reported, step_unimplemented_iff running fetched]
      exact and_congr_right fun same => by rw [same]
    · rw [reported, step_unimplemented_iff running fetched]
      rintro ⟨rfl, meaningless⟩
      exact step_of_meaningless running fetched meaningless

/-- A number that names no key counts as not pressed, whatever is pressed. -/
theorem leads_past_missing_key :
    let machine : Machine Stride :=
      (fresh (Memory.initial.store Memory.programStart [0xE3, 0xA1]) Screen.blank ⟨0, 0⟩).setRegister 3 0x10
    let keys := Keypad.released.setKey 0 true
    machine.isHalted = false ∧ (machine.step keys).1 = .ok .proceeded ∧
      (machine.step keys).2.counter = 0x204 := by
  intro machine keys
  have running : machine.isHalted = false := rfl
  have stored : machine.memory = Memory.initial.store Memory.programStart [0xE3, 0xA1] := rfl
  have fetched : machine.fetched? = some (Word.ofBytes 0xE3 0xA1) :=
    fetched?_store stored (by decide) (Nat.add_zero Memory.programStart).symm rfl rfl
  have decoded : decode (Word.ofBytes 0xE3 0xA1) = .key .notPressed 3 := (decode_eq_iff rfl).2 rfl
  have ok : (machine.step keys).1 = .ok .proceeded :=
    (step_ok_iff running fetched (by simp)).2 (by rw [decoded]; exact ⟨rfl, rfl⟩)
  obtain ⟨word, again, leads, _⟩ := step_leads_on running ok
  obtain rfl : Word.ofBytes 0xE3 0xA1 = word := Option.some.inj (fetched.symm.trans again)
  exact ⟨running, ok, leads (by simp) _ (.skipUnlessPressed 3 (.inl (by decide)))⟩

end Machine

end SpriteMachine
