import SpriteMachine.Proofs.Bursts
import SpriteMachine.Proofs.Timekeeping

/-! Turns of the host in a row. A turn whose poll returns keys, and whose time can be added, makes its
steps and ticks and shows at most one picture. Any other turn leaves the host as it was. -/

namespace SpriteMachine

/-- What a turn meets with: the answer of the keyboard, the time that has passed, and the reason for
which the display refuses a picture, if it does. -/
structure Occasion where
  poll : Poll
  passed : Nat
  refusal : Option String
  deriving DecidableEq

def Turn.actions {G : Type} (turn : Turn G) : List Machine.Action :=
  List.replicate turn.steps (.step turn.host.keys) ++
    (List.replicate turn.ticks .tick ++ if turn.offered.isSome then [.present] else [])

namespace Host

variable {G : Type}

structure Fits (host : Host G) (passed : Nat) : Prop where
  cpu : host.cpu.elapsed + passed ≤ Ticker.longestSpan
  timer : host.timer.elapsed + passed ≤ Ticker.longestSpan
  frame : host.frame.elapsed + passed ≤ Ticker.longestSpan

def clocked (host : Host G) (passed : Nat) : Host G :=
  { host with
    cpu := host.cpu.after passed, timer := host.timer.after passed, frame := host.frame.after passed }

theorem due_of_fits {host : Host G} {passed : Nat} (fits : host.Fits passed) :
    host.due passed =
      .ok ((host.cpu.counted passed, host.timer.counted passed, host.frame.counted passed),
        host.clocked passed) := by
  simp only [due, Ticker.due_of_fits fits.cpu, Ticker.due_of_fits fits.timer,
    Ticker.due_of_fits fits.frame]
  rfl

theorem due_of_not_fits {host : Host G} {passed : Nat} (long : ¬ host.Fits passed) :
    host.due passed = .error {} := by
  rcases cpu : host.cpu.due passed with _ | ⟨steps, _⟩
  · simp only [due, cpu]
    rfl
  rcases timer : host.timer.due passed with _ | ⟨ticks, _⟩
  · simp only [due, cpu, timer]
    rfl
  rcases frame : host.frame.due passed with _ | ⟨frames, _⟩
  · simp only [due, cpu, timer, frame]
    rfl
  · exact absurd ⟨Ticker.fits_of_due cpu, Ticker.fits_of_due timer, Ticker.fits_of_due frame⟩ long

variable [Generator G]

def turn (host : Host G) (occasion : Occasion) : Turn G :=
  host.advance occasion.poll occasion.passed occasion.refusal

def after : Host G → List Occasion → Host G
  | host, [] => host
  | host, occasion :: later => (host.turn occasion).host.after later

/-- The machine behind the steps and the ticks of a turn. -/
def moved (host : Host G) (keys : Keypad) (passed : Nat) : Machine G :=
  (host.machine.burst keys (host.cpu.counted passed)).machine.ticks (host.timer.counted passed)

def played (host : Host G) (keys : Keypad) (passed : Nat) : Host G :=
  { host.clocked passed with keys := keys, machine := host.moved keys passed }

structure Shows (host : Host G) (keys : Keypad) (passed : Nat) : Prop where
  due : host.frame.interval ≤ host.frame.elapsed + passed
  dirty : (host.moved keys passed).screen.dirty = true

theorem turn_of_keys {host : Host G} {occasion : Occasion} {keys : Keypad}
    (polled : occasion.poll = .keys keys) (fits : host.Fits occasion.passed) :
    let offer := (host.played keys occasion.passed).offer (host.frame.counted occasion.passed)
      occasion.refusal
    host.turn occasion =
      { host := offer.1
        steps := (host.machine.burst keys (host.cpu.counted occasion.passed)).steps
        ticks := host.timer.counted occasion.passed
        offered := offer.2.1
        result := offer.2.2 } := by
  simp only [turn, advance, polled, due_of_fits fits]
  rfl

section Frames

variable {host : Host G} {occasion : Occasion} {keys : Keypad} (polled : occasion.poll = .keys keys)
  (fits : host.Fits occasion.passed)

include polled fits

theorem turn_of_calm (calm : ¬ host.Shows keys occasion.passed) :
    host.turn occasion =
      { host := host.played keys occasion.passed
        steps := (host.machine.burst keys (host.cpu.counted occasion.passed)).steps
        ticks := host.timer.counted occasion.passed
        result := .ok true } := by
  have turn := turn_of_keys polled fits
  have keeping : ¬ (0 < host.frame.counted occasion.passed ∧
      (host.played keys occasion.passed).machine.screen.dirty = true) :=
    fun offering => calm ⟨(Ticker.counted_pos_iff fits.frame).1 offering.1, offering.2⟩
  simp only [offer, if_neg keeping] at turn
  exact turn

theorem turn_of_shows (shows : host.Shows keys occasion.passed) :
    host.turn occasion =
      { host := { host.played keys occasion.passed with
          machine := (host.moved keys occasion.passed).present }
        steps := (host.machine.burst keys (host.cpu.counted occasion.passed)).steps
        ticks := host.timer.counted occasion.passed
        offered := some (host.moved keys occasion.passed).screen.pixels
        result := match occasion.refusal with
          | none => .ok true
          | some reason => .error (.device reason) } := by
  have turn := turn_of_keys polled fits
  have offering : 0 < host.frame.counted occasion.passed ∧
      (host.played keys occasion.passed).machine.screen.dirty = true :=
    ⟨(Ticker.counted_pos_iff fits.frame).2 shows.due, shows.dirty⟩
  simp only [offer, if_pos offering] at turn
  exact turn

end Frames

/-- The ways a turn can go, each with its result. -/
inductive TurnCase (host : Host G) (occasion : Occasion) : Prop
  | idle (reason : ∀ keys, occasion.poll = .keys keys → ¬ host.Fits occasion.passed)
      (result : ∃ answer, host.turn occasion = { host := host, result := answer })
  | unshown (keys : Keypad) (polled : occasion.poll = .keys keys) (fits : host.Fits occasion.passed)
      (calm : ¬ host.Shows keys occasion.passed)
      (result : host.turn occasion =
        { host := host.played keys occasion.passed
          steps := (host.machine.burst keys (host.cpu.counted occasion.passed)).steps
          ticks := host.timer.counted occasion.passed
          result := .ok true })
  | shown (keys : Keypad) (polled : occasion.poll = .keys keys) (fits : host.Fits occasion.passed)
      (shows : host.Shows keys occasion.passed)
      (result : host.turn occasion =
        { host := { host.played keys occasion.passed with
            machine := (host.moved keys occasion.passed).present }
          steps := (host.machine.burst keys (host.cpu.counted occasion.passed)).steps
          ticks := host.timer.counted occasion.passed
          offered := some (host.moved keys occasion.passed).screen.pixels
          result := match occasion.refusal with
            | none => .ok true
            | some reason => .error (.device reason) })

theorem turnCase (host : Host G) (occasion : Occasion) : host.TurnCase occasion := by
  rcases polled : occasion.poll with keys | _ | reason
  case quit => exact .idle (by simp [polled]) ⟨.ok false, by simp only [turn, advance, polled]⟩
  case failed =>
    exact .idle (by simp [polled]) ⟨.error (.device reason), by simp only [turn, advance, polled]⟩
  by_cases fits : host.Fits occasion.passed
  case neg =>
    refine .idle (fun _ _ => fits) ⟨.error (.clock {}), ?_⟩
    simp only [turn, advance, polled, due_of_not_fits fits]
  by_cases shows : host.Shows keys occasion.passed
  · exact .shown keys polled fits shows (turn_of_shows polled fits shows)
  · exact .unshown keys polled fits shows (turn_of_calm polled fits shows)

theorem machine_played {host : Host G} {keys : Keypad} {passed : Nat} :
    (host.played keys passed).machine = host.machine.run
      (List.replicate (host.machine.burst keys (host.cpu.counted passed)).steps (.step keys) ++
        List.replicate (host.timer.counted passed) .tick) := by
  have steps := Machine.run_eq_burst (Nat.le_refl _)
    (host.machine.steps_burst_le keys (host.cpu.counted passed))
  rw [Machine.run_append, Machine.run_replicate_tick, steps]
  rfl

theorem machine_turn (host : Host G) (occasion : Occasion) :
    (host.turn occasion).host.machine = host.machine.run (host.turn occasion).actions := by
  cases host.turnCase occasion with
  | idle reason result =>
    obtain ⟨answer, result⟩ := result
    rw [result]
    rfl
  | unshown keys polled fits calm result =>
    rw [result, machine_played]
    simp [Turn.actions, played]
  | shown keys polled fits shows result =>
    have before : host.moved keys occasion.passed = _ := machine_played
    rw [result, before]
    simp [Turn.actions, played, Machine.run_append, Machine.act]

def history : Host G → List Occasion → List Machine.Action
  | _, [] => []
  | host, occasion :: later =>
    (host.turn occasion).actions ++ (host.turn occasion).host.history later

theorem machine_after (host : Host G) (occasions : List Occasion) :
    (host.after occasions).machine = host.machine.run (host.history occasions) := by
  induction occasions generalizing host with
  | nil => rfl
  | cons occasion later ih => rw [after, ih, history, Machine.run_append, machine_turn]

end Host

end SpriteMachine
