/-! Turning elapsed time into a count of events at a fixed rate. Times are whole nanoseconds. What is
short of a full interval is carried into the next call. -/

namespace SpriteMachine

structure ClockOverflow where
  deriving DecidableEq, Repr

def ClockOverflow.message (_ : ClockOverflow) : String :=
  "overflow when adding durations"

structure Ticker where
  interval : Nat
  elapsed : Nat
  deriving DecidableEq, Repr

namespace Ticker

def second : Nat := 1000000000

def longestSpan : Nat := 0xFFFFFFFFFFFFFFFF * second + 999999999

def countLimit : Nat := 0xFFFFFFFF

/-- The carried rest keeps its low 64 bits. -/
def restLimit : Nat := 0x10000000000000000

def ofInterval (interval : Nat) : Ticker :=
  ⟨interval, 0⟩

/-- A rate of zero counts as one event per second. -/
def ofHertz (hertz : Nat) : Ticker :=
  ofInterval (second / max hertz 1)

/-- The number of whole intervals that have passed. An interval of zero is due once in every call. -/
def due (ticker : Ticker) (passed : Nat) : Except ClockOverflow (Nat × Ticker) :=
  if longestSpan < ticker.elapsed + passed then .error {}
  else if ticker.interval = 0 then .ok (1, { ticker with elapsed := 0 })
  else
    .ok (min ((ticker.elapsed + passed) / ticker.interval) countLimit,
      { ticker with elapsed := (ticker.elapsed + passed) % ticker.interval % restLimit })

def untilNext (ticker : Ticker) : Nat :=
  ticker.interval - ticker.elapsed

theorem interval_due {ticker next : Ticker} {passed count : Nat}
    (ran : ticker.due passed = .ok (count, next)) : next.interval = ticker.interval := by
  unfold due at ran
  split at ran
  · cases ran
  · split at ran <;> cases ran <;> rfl

theorem due_of_le {ticker : Ticker} {passed : Nat} (positive : 0 < ticker.interval)
    (narrow : ticker.interval ≤ restLimit) (short : ticker.elapsed + passed ≤ longestSpan)
    (few : (ticker.elapsed + passed) / ticker.interval ≤ countLimit) :
    ticker.due passed =
      .ok ((ticker.elapsed + passed) / ticker.interval,
        { ticker with elapsed := (ticker.elapsed + passed) % ticker.interval }) := by
  have rest := Nat.mod_lt (ticker.elapsed + passed) positive
  unfold due
  rw [if_neg (Nat.not_lt_of_le short), if_neg (by omega), Nat.min_eq_left few,
    Nat.mod_eq_of_lt (a := (ticker.elapsed + passed) % ticker.interval) (by omega)]

theorem untilNext_due {ticker next : Ticker} {passed count : Nat} (positive : 0 < ticker.interval)
    (ran : ticker.due passed = .ok (count, next)) : 0 < next.untilNext := by
  have rest := Nat.mod_lt (ticker.elapsed + passed) positive
  have cut := Nat.mod_le ((ticker.elapsed + passed) % ticker.interval) restLimit
  unfold due at ran
  split at ran
  · cases ran
  · rw [if_neg (by omega)] at ran
    cases ran
    simp only [untilNext]
    omega

end Ticker

end SpriteMachine
