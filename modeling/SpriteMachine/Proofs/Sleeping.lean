import SpriteMachine.Proofs.Turns
import SpriteMachine.Random.Stride

/-! Sleeping until something is due. A ticker that says how long it is until its next event is right to
the nanosecond, and so is the host, which sleeps for the shortest of three such times. -/

namespace SpriteMachine

namespace Ticker

theorem Regular.due {ticker next : Ticker} {passed count : Nat} (regular : ticker.Regular)
    (ran : ticker.due passed = .ok (count, next)) : next.Regular := by
  have ahead := untilNext_due (Nat.zero_lt_of_lt regular.short) ran
  refine ⟨Nat.lt_of_sub_pos ahead, ?_⟩
  rw [interval_due ran]
  exact regular.narrow

theorem Regular.dues {ticker last : Ticker} {times counts : List Nat} (regular : ticker.Regular)
    (ran : ticker.dues times = .ok (counts, last)) : last.Regular ∧ last.interval = ticker.interval := by
  induction times generalizing ticker counts with
  | nil =>
    cases ran
    exact ⟨regular, rfl⟩
  | cons passed later ih =>
    obtain ⟨count, next, more, first, rest, _⟩ := of_dues_cons ran
    rw [← interval_due first]
    exact ih (regular.due first) rest

theorem Regular.after {ticker : Ticker} {passed : Nat} (regular : ticker.Regular)
    (fits : ticker.elapsed + passed ≤ longestSpan) : (ticker.after passed).Regular :=
  regular.due (due_of_fits fits)

section Until

variable {ticker : Ticker} {passed : Nat} (regular : ticker.Regular)

include regular

theorem Regular.untilNext_pos : 0 < ticker.untilNext :=
  Nat.sub_pos_of_lt regular.short

theorem Regular.fits (soon : passed < ticker.untilNext + ticker.interval) :
    ticker.elapsed + passed ≤ longestSpan := by
  have short := regular.short
  have narrow : 2 * ticker.interval ≤ longestSpan :=
    Nat.le_trans (Nat.mul_le_mul_left 2 regular.narrow) (by decide)
  unfold untilNext at soon
  omega

theorem Regular.due_of_lt (early : passed < ticker.untilNext) :
    ticker.due passed = .ok (0, { ticker with elapsed := ticker.elapsed + passed }) := by
  have short : ticker.elapsed + passed < ticker.interval := Nat.add_lt_of_lt_sub' early
  have undue := Nat.div_eq_of_lt short
  rw [due_of_le (Nat.zero_lt_of_lt short) regular.narrow (regular.fits (Nat.lt_add_right _ early))
    (by rw [undue]; exact Nat.zero_le _), undue, Nat.mod_eq_of_lt short]

theorem Regular.due_of_le (reached : ticker.untilNext ≤ passed)
    (once : passed < ticker.untilNext + ticker.interval) :
    ticker.due passed =
      .ok (1, { ticker with elapsed := ticker.elapsed + passed - ticker.interval }) := by
  have short := regular.short
  have fits := regular.fits once
  unfold untilNext at reached once
  have one : (ticker.elapsed + passed) / ticker.interval = 1 :=
    Nat.div_eq_of_lt_le (by omega) (by omega)
  have rest : (ticker.elapsed + passed) % ticker.interval =
      ticker.elapsed + passed - ticker.interval := by
    rw [Nat.mod_eq_sub_mod (by omega), Nat.mod_eq_of_lt (by omega)]
  rw [Ticker.due_of_le (Nat.zero_lt_of_lt short) regular.narrow fits (by rw [one]; decide), one, rest]

theorem Regular.lt_of_le (soon : passed ≤ ticker.untilNext) :
    passed < ticker.untilNext + ticker.interval :=
  Nat.lt_of_le_of_lt soon (Nat.lt_add_of_pos_right (Nat.zero_lt_of_lt regular.short))

theorem Regular.counted_of_le (soon : passed ≤ ticker.untilNext) :
    ticker.counted passed = if passed = ticker.untilNext then 1 else 0 := by
  by_cases reached : passed = ticker.untilNext
  · rw [if_pos reached,
      counted_of_due (regular.due_of_le (Nat.le_of_eq reached.symm) (regular.lt_of_le soon))]
  · rw [if_neg reached, counted_of_due (regular.due_of_lt (Nat.lt_of_le_of_ne soon reached))]

end Until

/-- The time until the next event is exact: before it nothing is due, and from it on, for a whole
interval, there is one event. -/
structure Punctual (ticker : Ticker) : Prop where
  ahead : 0 < ticker.untilNext
  within : ticker.untilNext ≤ ticker.interval
  early (passed : Nat) (early : passed < ticker.untilNext) :
    ∃ next, ticker.due passed = .ok (0, next)
  once (passed : Nat) (reached : ticker.untilNext ≤ passed)
    (once : passed < ticker.untilNext + ticker.interval) : ∃ next, ticker.due passed = .ok (1, next)

theorem Regular.punctual {ticker : Ticker} (regular : ticker.Regular) : ticker.Punctual where
  ahead := regular.untilNext_pos
  within := Nat.sub_le ticker.interval ticker.elapsed
  early _ early := ⟨_, regular.due_of_lt early⟩
  once _ reached once := ⟨_, regular.due_of_le reached once⟩

end Ticker

namespace Host

variable {G : Type} {host : Host G} {occasion : Occasion} {passed : Nat}

/-- The three tickers of a host as they are between turns. -/
structure Regular (host : Host G) : Prop where
  cpu : host.cpu.Regular
  timer : host.timer.Regular
  frame : host.frame.Regular

theorem start_regular {machine : Machine G} {rates : Rates}
    (cpu : 0 < (start machine rates).cpu.interval) (timer : 0 < (start machine rates).timer.interval)
    (frame : 0 < (start machine rates).frame.interval) : (start machine rates).Regular :=
  ⟨Ticker.ofInterval_regular cpu (Ticker.interval_ofHertz_le rates.cpu),
    Ticker.ofInterval_regular timer (Ticker.interval_ofHertz_le rates.timer),
    Ticker.ofInterval_regular frame (Ticker.interval_ofHertz_le rates.frame)⟩

theorem le_untilNext_iff : passed ≤ host.untilNext ↔
    passed ≤ host.cpu.untilNext ∧ passed ≤ host.timer.untilNext ∧ passed ≤ host.frame.untilNext := by
  rw [untilNext, Nat.le_min, Nat.le_min, and_assoc]

theorem untilNext_eq (host : Host G) :
    host.untilNext = host.cpu.untilNext ∨ host.untilNext = host.timer.untilNext ∨
      host.untilNext = host.frame.untilNext := by
  unfold untilNext
  omega

theorem Regular.fits (regular : host.Regular) (soon : passed ≤ host.untilNext) :
    host.Fits passed := by
  obtain ⟨cpu, timer, frame⟩ := le_untilNext_iff.1 soon
  exact ⟨regular.cpu.fits (regular.cpu.lt_of_le cpu), regular.timer.fits (regular.timer.lt_of_le timer),
    regular.frame.fits (regular.frame.lt_of_le frame)⟩

theorem Regular.counted_of_lt (regular : host.Regular) (early : passed < host.untilNext) :
    host.cpu.counted passed = 0 ∧ host.timer.counted passed = 0 ∧ host.frame.counted passed = 0 := by
  obtain ⟨cpu, timer, frame⟩ := le_untilNext_iff.1 early
  exact ⟨Ticker.counted_of_due (regular.cpu.due_of_lt cpu),
    Ticker.counted_of_due (regular.timer.due_of_lt timer),
    Ticker.counted_of_due (regular.frame.due_of_lt frame)⟩

variable [Generator G]

theorem Regular.played (regular : host.Regular) (keys : Keypad) (fits : host.Fits passed) :
    (host.played keys passed).Regular :=
  ⟨regular.cpu.after fits.cpu, regular.timer.after fits.timer, regular.frame.after fits.frame⟩

theorem Regular.turn (regular : host.Regular) (occasion : Occasion) :
    (host.turn occasion).host.Regular := by
  cases host.turnCase occasion with
  | idle reason result =>
    obtain ⟨answer, result⟩ := result
    rw [result]
    exact regular
  | unshown keys polled fits calm result =>
    rw [result]
    exact regular.played keys fits
  | shown keys polled fits shows result =>
    obtain ⟨cpu, timer, frame⟩ := regular.played keys fits
    rw [result]
    exact ⟨cpu, timer, frame⟩

theorem Regular.after (regular : host.Regular) (occasions : List Occasion) :
    (host.after occasions).Regular := by
  induction occasions generalizing host with
  | nil => exact regular
  | cons occasion later ih => exact ih (regular.turn occasion)

theorem Regular.turn_of_lt (regular : host.Regular) (early : occasion.passed < host.untilNext) :
    (host.turn occasion).steps = 0 ∧ (host.turn occasion).ticks = 0 ∧
      (host.turn occasion).offered = none := by
  obtain ⟨steps, ticks, frames⟩ := regular.counted_of_lt early
  cases host.turnCase occasion with
  | idle reason result =>
    obtain ⟨answer, result⟩ := result
    rw [result]
    exact ⟨rfl, rfl, rfl⟩
  | unshown keys polled fits calm result =>
    have made := host.machine.steps_burst_le keys (host.cpu.counted occasion.passed)
    rw [steps] at made
    rw [result, steps]
    exact ⟨Nat.le_zero.1 made, ticks, rfl⟩
  | shown keys polled fits shows result =>
    have due := (Ticker.counted_pos_iff fits.frame).2 shows.due
    rw [frames] at due
    cases due

/-- The time until something is due is exact. Before it no ticker is due and a turn does nothing to the
machine, and at that time one of the tickers is due, for a single event. -/
structure Punctual (host : Host G) : Prop where
  asleep (passed : Nat) (early : passed < host.untilNext) :
    ∃ clocked, host.due passed = .ok ((0, 0, 0), clocked)
  early (occasion : Occasion) (early : occasion.passed < host.untilNext) :
    (host.turn occasion).steps = 0 ∧ (host.turn occasion).ticks = 0 ∧
      (host.turn occasion).offered = none ∧ (host.turn occasion).host.machine = host.machine
  woken (occasion : Occasion) (keys : Keypad) (polled : occasion.poll = .keys keys)
    (slept : occasion.passed = host.untilNext) :
    ∃ steps ticks frames clocked,
      host.due occasion.passed = .ok ((steps, ticks, frames), clocked) ∧
        (steps = 1 ∨ ticks = 1 ∨ frames = 1) ∧
        (host.turn occasion).steps = (host.machine.burst keys steps).steps ∧
        (host.turn occasion).ticks = ticks

theorem Regular.punctual (regular : host.Regular) : host.Punctual where
  asleep passed early := by
    obtain ⟨steps, ticks, frames⟩ := regular.counted_of_lt early
    refine ⟨host.clocked passed, ?_⟩
    rw [due_of_fits (regular.fits (Nat.le_of_lt early)), steps, ticks, frames]
  early occasion early := by
    obtain ⟨steps, ticks, offered⟩ := regular.turn_of_lt early
    refine ⟨steps, ticks, offered, ?_⟩
    rw [machine_turn, Turn.actions, steps, ticks, offered]
    rfl
  woken occasion keys polled slept := by
    have soon := Nat.le_of_eq slept
    have fits := regular.fits soon
    obtain ⟨cpu, timer, frame⟩ := le_untilNext_iff.1 soon
    refine ⟨_, _, _, _, due_of_fits fits, ?_, ?_⟩
    · rw [regular.cpu.counted_of_le cpu, regular.timer.counted_of_le timer,
        regular.frame.counted_of_le frame, slept]
      rcases host.untilNext_eq with woken | woken | woken
      · exact .inl (if_pos woken)
      · exact .inr (.inl (if_pos woken))
      · exact .inr (.inr (if_pos woken))
    · rw [turn_of_keys polled fits]
      exact ⟨rfl, rfl⟩

/-- Whatever calls a ticker has answered, and whatever turns a host has been through, the time that is
left until the next event is exact. -/
theorem sleep_is_exact :
    (∀ interval, 0 < interval → interval ≤ Ticker.restLimit → ∀ times counts ticker,
      (Ticker.ofInterval interval).dues times = .ok (counts, ticker) →
        ticker.interval = interval ∧ ticker.Punctual) ∧
    ∀ (machine : Machine G) (rates : Rates), 0 < (start machine rates).cpu.interval →
      0 < (start machine rates).timer.interval → 0 < (start machine rates).frame.interval →
        ∀ occasions, ((start machine rates).after occasions).Punctual := by
  refine ⟨fun interval positive narrow times counts ticker ran => ?_,
    fun machine rates cpu timer frame occasions => ?_⟩
  · obtain ⟨regular, same⟩ := (Ticker.ofInterval_regular positive narrow).dues ran
    exact ⟨same, regular.punctual⟩
  · exact ((start_regular cpu timer frame).after occasions).punctual

theorem idle_sleep_is_exact :
    let ticker : Ticker := ⟨10000000, 6000000⟩
    let machine : Machine Stride := Machine.fresh Memory.initial Screen.blank ⟨0, 0⟩
    let host := (start machine {}).after [⟨.keys Keypad.released, 6000000, none⟩]
    ticker.untilNext = 4000000 ∧ (∃ next, ticker.due 3999999 = .ok (0, next)) ∧
      (∃ next, ticker.due 4000000 = .ok (1, next)) ∧
      host.untilNext = 2000000 ∧ (host.turn ⟨.keys Keypad.released, 1999999, none⟩).steps = 0 ∧
      ∃ steps ticks frames clocked, host.due 2000000 = .ok ((steps, ticks, frames), clocked) ∧
        (steps = 1 ∨ ticks = 1 ∨ frames = 1) := by
  intro ticker machine host
  have first : (Ticker.ofInterval 10000000).due 6000000 = .ok (0, ticker) :=
    Ticker.due_of_le (by decide) (by decide) (by decide) (by decide)
  have ran : (Ticker.ofInterval 10000000).dues [6000000] = .ok ([0], ticker) :=
    Ticker.dues_cons first rfl
  obtain ⟨_, exact⟩ := (sleep_is_exact (G := Stride)).1 10000000 (by decide) (by decide) _ _ _ ran
  have woken : host.Punctual := sleep_is_exact.2 machine {} (by decide) (by decide) (by decide) _
  have wait : host.untilNext = 2000000 := by decide +kernel
  obtain ⟨steps, ticks, frames, clocked, due, one, _⟩ :=
    woken.woken ⟨.keys Keypad.released, 2000000, none⟩ _ rfl wait.symm
  refine ⟨by decide, exact.early _ (by decide), exact.once _ (by decide) (by decide), wait, ?_,
    steps, ticks, frames, clocked, due, one⟩
  exact (woken.early _ (wait ▸ by decide)).1

end Host

end SpriteMachine
