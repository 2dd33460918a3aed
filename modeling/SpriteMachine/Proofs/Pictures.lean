import SpriteMachine.Proofs.Decoding
import SpriteMachine.Proofs.Erasing
import SpriteMachine.Proofs.Turns

/-! What the display gets to see. Whatever writes to the screen marks it, and only showing the picture
takes the mark away, so a screen without the mark is the last picture that was handed over. The mark is
gone even if the display refuses the picture, and then the picture is lost until the program draws
again. -/

namespace SpriteMachine

namespace Machine

variable {G : Type} [Generator G]

theorem dirty_effect (machine : Machine G) {instruction : Instruction}
    (written : instruction.writes .screen = true) :
    (machine.effect instruction).machine.screen.dirty = true := by
  cases instruction with
  | system op =>
    cases op with
    | clear => rfl
    | leave => cases written
  | draw => rfl
  | misc op x => cases op <;> cases written
  | _ => cases written

theorem screen_step_of_unwritten {machine : Machine G} {keys : Keypad}
    (unwritten : ∀ instruction, machine.performs? (.step keys) = some instruction →
      instruction.writes .screen = false) :
    (machine.act (.step keys)).screen = machine.screen := by
  have kept : (machine.step keys).2.AgreeOn machine .screen := step_agreeOn unwritten
  exact kept

theorem screen_step (machine : Machine G) (keys : Keypad) :
    (machine.act (.step keys)).screen = machine.screen ∨
      (machine.act (.step keys)).screen.dirty = true := by
  by_cases written : ∃ instruction, machine.performs? (.step keys) = some instruction ∧
      instruction.writes .screen = true
  · obtain ⟨instruction, performed, written⟩ := written
    refine .inr ?_
    rw [act, step_of_performs performed]
    exact (machine.primed keys).dirty_effect written
  · refine .inl (screen_step_of_unwritten fun instruction performed => ?_)
    exact Bool.eq_false_iff.2 fun same => written ⟨instruction, performed, same⟩

theorem screen_steps (machine : Machine G) (keys : Keypad) (count : Nat) :
    (machine.run (List.replicate count (.step keys))).screen = machine.screen ∨
      (machine.run (List.replicate count (.step keys))).screen.dirty = true := by
  induction count generalizing machine with
  | zero => exact .inl rfl
  | succ count ih =>
    rw [List.replicate_succ, run_cons]
    rcases ih (machine.act (.step keys)) with same | dirty
    · rw [same]
      exact machine.screen_step keys
    · exact .inr dirty

theorem screen_steps_of_unwritten {machine : Machine G} {keys : Keypad} {count : Nat}
    (unwritten : ∀ instruction ∈ machine.performed (List.replicate count (.step keys)),
      instruction.writes .screen = false) :
    (machine.run (List.replicate count (.step keys))).screen = machine.screen := by
  induction count generalizing machine with
  | zero => rfl
  | succ count ih =>
    simp only [List.replicate_succ, performed, List.mem_append, or_imp, forall_and,
      Option.mem_toList] at unwritten
    rw [List.replicate_succ, run_cons, ih unwritten.2, screen_step_of_unwritten unwritten.1]

end Machine

/-- A picture as it was handed to the display, with the reason for which the display refused it. -/
structure Delivery where
  picture : Picture
  refusal : Option String
  deriving DecidableEq

namespace Host

variable {G : Type} [Generator G] {host : Host G} {occasion : Occasion} {keys : Keypad}

def delivery? (host : Host G) (occasion : Occasion) : Option Delivery :=
  (host.turn occasion).offered.map fun picture => ⟨picture, occasion.refusal⟩

def deliveries : Host G → List Occasion → List Delivery
  | _, [] => []
  | host, occasion :: later =>
    (host.delivery? occasion).toList ++ (host.turn occasion).host.deliveries later

theorem screen_moved (host : Host G) (keys : Keypad) (passed : Nat) :
    (host.moved keys passed).screen =
      (host.machine.burst keys (host.cpu.counted passed)).machine.screen := rfl

theorem screen_moved_or_dirty (host : Host G) (keys : Keypad) (passed : Nat) :
    (host.moved keys passed).screen = host.machine.screen ∨
      (host.moved keys passed).screen.dirty = true := by
  rw [screen_moved, Machine.machine_burst]
  exact host.machine.screen_steps keys _

theorem screen_moved_of_unwritten {passed : Nat}
    (unwritten : ∀ instruction ∈ host.machine.performed
        (List.replicate (host.machine.burst keys (host.cpu.counted passed)).steps (.step keys)),
      instruction.writes .screen = false) :
    (host.moved keys passed).screen = host.machine.screen := by
  have stepped := Machine.run_eq_burst (Nat.le_refl _)
    (host.machine.steps_burst_le keys (host.cpu.counted passed))
  rw [screen_moved, ← stepped]
  exact Machine.screen_steps_of_unwritten unwritten

theorem delivery?_of_idle (reason : ∀ keys, occasion.poll = .keys keys → ¬ host.Fits occasion.passed) :
    host.delivery? occasion = none := by
  cases host.turnCase occasion with
  | idle _ result =>
    obtain ⟨answer, result⟩ := result
    rw [delivery?, result]
    rfl
  | unshown keys polled fits => exact absurd fits (reason keys polled)
  | shown keys polled fits => exact absurd fits (reason keys polled)

theorem delivery?_of_fits (polled : occasion.poll = .keys keys) (fits : host.Fits occasion.passed) :
    let stepped := (host.machine.burst keys (host.cpu.counted occasion.passed)).machine
    host.delivery? occasion =
      if 0 < host.frame.counted occasion.passed ∧ stepped.screen.dirty = true then
        some ⟨stepped.screen.pixels, occasion.refusal⟩
      else none := by
  intro stepped
  have screen : (host.played keys occasion.passed).machine.screen = stepped.screen := rfl
  rw [delivery?, turn_of_keys polled fits]
  simp only [offer, screen]
  split <;> rfl

def ShownBy (host : Host G) (last : Option Delivery) : Prop :=
  host.machine.screen.dirty = false →
    last.map Delivery.picture = some host.machine.screen.pixels

theorem ShownBy.turn {last : Option Delivery} (shown : host.ShownBy last) (occasion : Occasion) :
    (host.turn occasion).host.ShownBy ((host.delivery? occasion).or last) := by
  cases host.turnCase occasion with
  | idle reason result =>
    obtain ⟨answer, result⟩ := result
    rw [delivery?, result]
    exact shown
  | unshown keys polled fits calm result =>
    have screen : (host.played keys occasion.passed).machine.screen =
        (host.moved keys occasion.passed).screen := rfl
    rw [delivery?, result, ShownBy, screen]
    intro clean
    rcases host.screen_moved_or_dirty keys occasion.passed with same | dirty
    · rw [same] at clean ⊢
      exact shown clean
    · rw [dirty] at clean
      cases clean
  | shown keys polled fits shows result =>
    rw [delivery?, result]
    exact fun _ => rfl

theorem ShownBy.after {last : Option Delivery} (shown : host.ShownBy last)
    (occasions : List Occasion) :
    (host.after occasions).ShownBy ((host.deliveries occasions).getLast?.or last) := by
  induction occasions generalizing host last with
  | nil => exact shown
  | cons occasion later ih =>
    have next := ih (shown.turn occasion)
    -- The last picture so far is the newest one of this turn, if it hands one over.
    have newest : (host.delivery? occasion).toList.getLast? = host.delivery? occasion := by
      cases host.delivery? occasion <;> rfl
    rw [deliveries, List.getLast?_append, newest, Option.or_assoc]
    exact next

/-- Whether the display takes the pictures or not, a screen without the mark is the last of them. -/
theorem picture_of_clean (fresh : host.machine.screen.dirty = true) {occasions : List Occasion}
    (clean : (host.after occasions).machine.screen.dirty = false) :
    (host.deliveries occasions).getLast?.map Delivery.picture =
      some (host.after occasions).machine.screen.pixels := by
  have start : host.ShownBy none := fun clean => absurd (fresh.symm.trans clean) (by decide)
  have shown := start.after occasions clean
  rwa [Option.or_none] at shown

theorem mem_of_delivered {occasions : List Occasion} {delivery : Delivery}
    (delivered : delivery ∈ host.deliveries occasions) :
    ∃ occasion ∈ occasions, occasion.refusal = delivery.refusal := by
  induction occasions generalizing host with
  | nil => cases delivered
  | cons occasion later ih =>
    rcases List.mem_append.1 delivered with now | afterwards
    · obtain ⟨picture, _, rfl⟩ := Option.map_eq_some_iff.1 (Option.mem_toList.1 now)
      exact ⟨occasion, List.mem_cons_self, rfl⟩
    · obtain ⟨found, member, same⟩ := ih afterwards
      exact ⟨found, List.mem_cons_of_mem occasion member, same⟩

/-- With a display that takes every picture, the screen is the last one or marked, and a turn hands over
the picture behind its steps exactly if a frame is due and that picture is marked. -/
theorem clean_screen_is_last_picture (fresh : host.machine.screen.dirty = true)
    {occasions : List Occasion} (taken : ∀ occasion ∈ occasions, occasion.refusal = none) :
    let now := host.after occasions
    (now.machine.screen.dirty = false →
      (host.deliveries occasions).getLast? = some ⟨now.machine.screen.pixels, none⟩) ∧
    ∀ occasion,
      (∀ keys, occasion.poll = .keys keys → now.Fits occasion.passed →
        let stepped := (now.machine.burst keys (now.cpu.counted occasion.passed)).machine
        now.delivery? occasion =
          if 0 < now.frame.counted occasion.passed ∧ stepped.screen.dirty = true then
            some ⟨stepped.screen.pixels, occasion.refusal⟩
          else none) ∧
      ((∀ keys, occasion.poll = .keys keys → ¬ now.Fits occasion.passed) →
        now.delivery? occasion = none) := by
  intro now
  refine ⟨fun clean => ?_, fun occasion => ⟨fun keys polled fits => ?_, delivery?_of_idle⟩⟩
  · obtain ⟨⟨picture, refusal⟩, last, same⟩ := Option.map_eq_some_iff.1 (picture_of_clean fresh clean)
    obtain ⟨occasion, member, refused⟩ := mem_of_delivered (List.mem_of_getLast? last)
    rw [taken occasion member] at refused
    rw [last, ← same, refused]
  · exact delivery?_of_fits polled fits

def quarter (refusal : Option String) : Occasion :=
  ⟨.keys Keypad.released, 250000000, refusal⟩

omit [Generator G] in
theorem fits_quarter (machine : Machine G) : (start machine ⟨4, 4, 4⟩).Fits 250000000 :=
  have fits : (Ticker.ofHertz 4).elapsed + 250000000 ≤ Ticker.longestSpan := by decide
  ⟨fits, fits, fits⟩

omit [Generator G] in
theorem frame_quarter (machine : Machine G) :
    0 < (start machine ⟨4, 4, 4⟩).frame.counted 250000000 :=
  show 0 < (Ticker.ofHertz 4).counted 250000000 by decide

theorem burst_quarter (machine : Machine G) :
    ((start machine ⟨4, 4, 4⟩).machine.burst Keypad.released
        ((start machine ⟨4, 4, 4⟩).cpu.counted 250000000)).machine =
      machine.act (.step Keypad.released) := by
  have counted : (start machine ⟨4, 4, 4⟩).cpu.counted 250000000 = 1 :=
    show (Ticker.ofHertz 4).counted 250000000 = 1 by decide
  rw [counted]
  exact machine.machine_burst _ 1

theorem turn_quarter {machine : Machine G}
    (dirty : (machine.act (.step Keypad.released)).screen.dirty = true) :
    ((start machine ⟨4, 4, 4⟩).turn (quarter none)).host =
      start (machine.act (.step Keypad.released)).tick.present ⟨4, 4, 4⟩ := by
  have ticked : (Ticker.ofHertz 4).counted 250000000 = 1 := by decide
  have rested : (Ticker.ofHertz 4).after 250000000 = Ticker.ofHertz 4 := by decide
  have moved : (start machine ⟨4, 4, 4⟩).moved Keypad.released 250000000 =
      (machine.act (.step Keypad.released)).tick := by
    rw [Host.moved, burst_quarter]
    simp only [start, ticked]
    rfl
  have shows : (start machine ⟨4, 4, 4⟩).Shows Keypad.released 250000000 :=
    ⟨show (Ticker.ofHertz 4).interval ≤ (Ticker.ofHertz 4).elapsed + 250000000 by decide,
      (congrArg (fun machine => machine.screen.dirty) moved).trans dirty⟩
  rw [turn_of_shows rfl (fits_quarter machine) shows]
  simp only [quarter, played, clocked, start, rested, ← moved]

def pairBytes : List UInt8 :=
  [0xD0, 0x05, 0xD1, 0x05, 0x12, 0x04]

def pair : Machine Stride :=
  let machine := Machine.fresh (Memory.initial.store Memory.programStart pairBytes) Screen.blank ⟨0, 0⟩
  { machine with index := 0x50 }.setRegister 1 8

def glyph : List UInt8 :=
  Memory.initial.slice 0x50 5

def pairScreen : Screen :=
  ((Screen.blank.draw 0 0 glyph).1.present.draw 8 0 glyph).1

structure Pairing (machine : Machine Stride) (offset : Nat) : Prop where
  memory : machine.memory = Memory.initial.store Memory.programStart pairBytes
  counter : machine.counter = Memory.programStart + offset
  index : machine.index = 0x50
  left : machine.register 0 = 0
  right : machine.register 1 = 8
  running : machine.isHalted = false

theorem Pairing.shown {machine : Machine Stride} {offset : Nat} (pairing : Pairing machine offset) :
    Pairing machine.tick.present offset :=
  ⟨pairing.memory, pairing.counter, pairing.index, pairing.left, pairing.right, pairing.running⟩

theorem Pairing.draws {machine : Machine Stride} {offset : Nat} (pairing : Pairing machine offset)
    {high low : UInt8} (first : pairBytes[offset]? = some high)
    (second : pairBytes[offset + 1]? = some low) {x : Register}
    (decoded : Instruction.decode (Word.ofBytes high low) = .draw x 0 5) {column : Nat}
    (across : (machine.register x).toNat = column) :
    (machine.act (.step Keypad.released)).screen = (machine.screen.draw column 0 glyph).1 ∧
      Pairing (machine.act (.step Keypad.released)) (offset + 2) := by
  have clear : machine.obstacle? (.draw x 0 5) = none := by
    simp only [Machine.obstacle?, pairing.index]
    rfl
  have draws : machine.performs? (.step Keypad.released) = some (.draw x 0 5) :=
    Machine.performs?_store pairing.memory (by decide) pairing.counter first second decoded
      pairing.running clear _
  have sprite : machine.memory.slice machine.index (5 : Fin 16).val = glyph := by
    rw [pairing.memory, pairing.index]
    exact Memory.slice_store_of_le _ (by decide) (by decide)
  have drawn : machine.stencil x 0 5 machine.screen = machine.screen.draw column 0 glyph := by
    rw [Machine.stencil, across, pairing.left, sprite]
    rfl
  have acted := Machine.act_of_draw draws
  rw [drawn] at acted
  have kept (z : Register) (other : Machine.flagRegister ≠ z) :
      (machine.act (.step Keypad.released)).register z = machine.register z := by
    rw [acted, Machine.register_stamped, if_neg other]
    rfl
  rw [acted] at kept ⊢
  exact ⟨rfl, {
    memory := pairing.memory
    counter := congrArg (· + 2) pairing.counter
    index := pairing.index
    left := (kept 0 (by decide)).trans pairing.left
    right := (kept 1 (by decide)).trans pairing.right
    running := pairing.running }⟩

theorem Pairing.turn {machine : Machine Stride} {offset : Nat} (pairing : Pairing machine offset)
    {high low : UInt8} (first : pairBytes[offset]? = some high)
    (second : pairBytes[offset + 1]? = some low) {x : Register}
    (decoded : Instruction.decode (Word.ofBytes high low) = .draw x 0 5) {column : Nat}
    (across : (machine.register x).toNat = column) :
    let drawn := (machine.screen.draw column 0 glyph).1
    ∃ next, ((start machine ⟨4, 4, 4⟩).turn (quarter none)).host = start next ⟨4, 4, 4⟩ ∧
      (machine.act (.step Keypad.released)).screen = drawn ∧ next.screen = drawn.present ∧
      Pairing next (offset + 2) := by
  intro drawn
  obtain ⟨stepped, going⟩ := pairing.draws first second decoded across
  exact ⟨_, turn_quarter (congrArg Screen.dirty stepped), stepped, congrArg Screen.present stepped,
    going.shown⟩

/-- One glyph is drawn in the first turn, the other one in the second, and nothing in a third. -/
theorem Pairing.quarters {machine : Machine Stride} (begun : Pairing machine 0)
    (blank : machine.screen = Screen.blank) :
    ∃ next last, (start machine ⟨4, 4, 4⟩).after [quarter none] = start next ⟨4, 4, 4⟩ ∧
      (next.act (.step Keypad.released)).screen = pairScreen ∧
      (start machine ⟨4, 4, 4⟩).after [quarter none, quarter none] = start last ⟨4, 4, 4⟩ ∧
      last.screen = pairScreen.present ∧
      (last.act (.step Keypad.released)).screen = pairScreen.present := by
  have left : Instruction.decode (Word.ofBytes 0xD0 0x05) = .draw 0 0 5 :=
    (Instruction.decode_eq_iff rfl).2 rfl
  have right : Instruction.decode (Word.ofBytes 0xD1 0x05) = .draw 1 0 5 :=
    (Instruction.decode_eq_iff rfl).2 rfl
  have circle : Instruction.decode (Word.ofBytes 0x12 0x04) = .jump 0x204 :=
    (Instruction.decode_eq_iff rfl).2 rfl
  have origin : (machine.register 0).toNat = 0 := congrArg UInt8.toNat begun.left
  obtain ⟨next, turned, _, seen, going⟩ := begun.turn rfl rfl left origin
  have beside : (next.register 1).toNat = 8 := congrArg UInt8.toNat going.right
  obtain ⟨last, turned', drawn, seen', circling⟩ := going.turn rfl rfl right beside
  rw [blank] at seen
  rw [seen] at drawn seen'
  have circles : last.performs? (.step Keypad.released) = some (.jump 0x204) :=
    Machine.performs?_store circling.memory (by decide) circling.counter rfl rfl circle circling.running rfl _
  have still : (last.act (.step Keypad.released)).screen = last.screen := by
    refine Machine.screen_step_of_unwritten fun instruction jumps => ?_
    obtain rfl := Option.some.inj (circles.symm.trans jumps)
    rfl
  refine ⟨next, last, ?_, drawn, ?_, seen', still.trans seen'⟩
  · rw [Host.after, turned, Host.after]
  · rw [Host.after, turned, Host.after, turned', Host.after]

def paired : Host Stride := start pair ⟨4, 4, 4⟩

theorem drawn_screen_is_last_picture :
    (paired.after [quarter none]).delivery? (quarter none) = some ⟨pairScreen.pixels, none⟩ ∧
      (paired.after [quarter none, quarter none]).machine.screen.dirty = false ∧
      (paired.after [quarter none, quarter none]).delivery? (quarter none) = none ∧
      (paired.deliveries [quarter none, quarter none]).getLast? =
        some ⟨pairScreen.pixels, none⟩ := by
  have begun : Pairing pair 0 := ⟨rfl, rfl, rfl, rfl, rfl, rfl⟩
  obtain ⟨next, last, once, drawn, twice, seen, still⟩ := begun.quarters rfl
  rw [← paired] at once twice
  have fresh : paired.machine.screen.dirty = true := rfl
  have polled : (quarter none).poll = .keys Keypad.released := rfl
  have taken : ∀ occasion ∈ [quarter none], occasion.refusal = none := by simp [quarter]
  have taken' : ∀ occasion ∈ [quarter none, quarter none], occasion.refusal = none := by simp [quarter]
  have clean : (paired.after [quarter none, quarter none]).machine.screen.dirty = false := by
    rw [twice]
    exact congrArg Screen.dirty seen
  have newest := (clean_screen_is_last_picture fresh taken').1 clean
  have handed := ((clean_screen_is_last_picture fresh taken).2 (quarter none)).1 _ polled
  have kept := ((clean_screen_is_last_picture fresh taken').2 (quarter none)).1 _ polled
  rw [once] at handed
  rw [twice] at newest kept
  refine ⟨?_, clean, ?_, ?_⟩
  · rw [once, handed (fits_quarter next)]
    simp only [quarter, burst_quarter, drawn]
    exact if_pos ⟨frame_quarter next, rfl⟩
  · rw [twice, kept (fits_quarter last)]
    simp only [quarter, burst_quarter, still]
    exact if_neg fun shows => Bool.false_ne_true shows.2
  · have pixels : last.screen.pixels = pairScreen.pixels := by rw [seen, Screen.pixels_present]
    rw [newest, ← pixels]
    rfl

theorem turn_of_unwritten (clean : host.machine.screen.dirty = false)
    (unwritten : ∀ instruction ∈ host.machine.performed (host.turn occasion).actions,
      instruction.writes .screen = false) :
    host.delivery? occasion = none ∧ (host.turn occasion).host.machine.screen = host.machine.screen := by
  rw [Turn.actions, Machine.performed_append] at unwritten
  have steps := (List.forall_mem_append.1 unwritten).1
  cases host.turnCase occasion with
  | idle reason result =>
    obtain ⟨answer, result⟩ := result
    rw [delivery?, result]
    exact ⟨rfl, rfl⟩
  | unshown keys polled fits calm result =>
    rw [result] at steps
    rw [delivery?, result]
    exact ⟨rfl, screen_moved_of_unwritten steps⟩
  | shown keys polled fits shows result =>
    rw [result] at steps
    have marked := shows.dirty
    rw [screen_moved_of_unwritten steps, clean] at marked
    cases marked

theorem deliveries_of_unwritten {occasions : List Occasion}
    (clean : host.machine.screen.dirty = false)
    (unwritten : ∀ instruction ∈ host.machine.performed (host.history occasions),
      instruction.writes .screen = false) :
    host.deliveries occasions = [] := by
  induction occasions generalizing host with
  | nil => rfl
  | cons occasion later ih =>
    rw [history, Machine.performed_append, ← machine_turn] at unwritten
    obtain ⟨now, afterwards⟩ := List.forall_mem_append.1 unwritten
    obtain ⟨nothing, same⟩ := turn_of_unwritten clean now
    rw [deliveries, nothing, ih (same ▸ clean) afterwards]
    rfl

/-- A picture that the display refuses counts as shown. The turn reports the refusal, and as long as the
program does not write to the screen again, no later turn hands over anything. -/
theorem refused_picture_is_lost {reason : String} (polled : occasion.poll = .keys keys)
    (fits : host.Fits occasion.passed) (shows : host.Shows keys occasion.passed)
    (refused : occasion.refusal = some reason) :
    let turn := host.turn occasion
    turn.result = .error (.device reason) ∧
      host.delivery? occasion = some ⟨(host.moved keys occasion.passed).screen.pixels, some reason⟩ ∧
      turn.host.machine.screen = ⟨(host.moved keys occasion.passed).screen.pixels, false⟩ ∧
      ∀ later, (∀ instruction ∈ turn.host.machine.performed (turn.host.history later),
          instruction.writes .screen = false) →
        turn.host.deliveries later = [] := by
  intro turn
  have result : turn = _ := turn_of_shows polled fits shows
  have clean : turn.host.machine.screen.dirty = false := by rw [result]; rfl
  refine ⟨?_, ?_, ?_, fun later unwritten => deliveries_of_unwritten clean unwritten⟩
  · rw [result, refused]
  · rw [delivery?, turn_of_shows polled fits shows, refused]
    rfl
  · rw [result]
    rfl

def early : Host Stride :=
  start (Machine.fresh Memory.initial Screen.blank ⟨0, 0⟩) ⟨1, 1, 4⟩

theorem early_picture_is_lost :
    (early.after [quarter (some "gone"), quarter none]).machine.screen.dirty = false ∧
      early.deliveries [quarter (some "gone"), quarter none] =
        [⟨Screen.blank.pixels, some "gone"⟩] := by
  have polled : (quarter (some "gone")).poll = .keys Keypad.released := rfl
  have fits : early.Fits (quarter (some "gone")).passed := ⟨by decide, by decide, by decide⟩
  have shows : early.Shows Keypad.released (quarter (some "gone")).passed := ⟨by decide, rfl⟩
  obtain ⟨_, handed, _, lost⟩ := refused_picture_is_lost polled fits shows rfl
  have idle : (early.turn (quarter (some "gone"))).host.machine.performed
      ((early.turn (quarter (some "gone"))).host.history [quarter none]) = [] := rfl
  have nothing := lost [quarter none] (by simp [idle])
  refine ⟨rfl, ?_⟩
  rw [deliveries, handed, nothing]
  rfl

end Host

end SpriteMachine
