import Mathlib.Algebra.GroupWithZero.Nat
import SpriteMachine.Ticker

/-! Time that passes in pieces. As long as the pieces can be added and no count is cut, the events that
they bring only depend on the whole time, for what is short of an interval is carried over. -/

namespace SpriteMachine.Ticker

def counted (ticker : Ticker) (passed : Nat) : Nat :=
  match ticker.due passed with
  | .ok (count, _) => count
  | .error _ => 0

def after (ticker : Ticker) (passed : Nat) : Ticker :=
  match ticker.due passed with
  | .ok (_, next) => next
  | .error _ => ticker

def total : Ticker → List Nat → Nat
  | _, [] => 0
  | ticker, passed :: later => ticker.counted passed + (ticker.after passed).total later

def dues : Ticker → List Nat → Except ClockOverflow (List Nat × Ticker)
  | ticker, [] => .ok ([], ticker)
  | ticker, passed :: later => do
    let (count, next) ← ticker.due passed
    let (counts, last) ← next.dues later
    return (count :: counts, last)

/-- Times that can be added one after the other, and that bring no more events than can be counted. -/
def Exact : Ticker → List Nat → Prop
  | _, [] => True
  | ticker, passed :: later =>
    (ticker.elapsed + passed ≤ longestSpan ∧
      (ticker.elapsed + passed) / ticker.interval ≤ countLimit) ∧
    (ticker.after passed).Exact later

theorem due_of_fits {ticker : Ticker} {passed : Nat} (fits : ticker.elapsed + passed ≤ longestSpan) :
    ticker.due passed = .ok (ticker.counted passed, ticker.after passed) := by
  unfold counted after due
  rw [if_neg (Nat.not_lt_of_le fits)]
  split <;> rfl

theorem counted_of_due {ticker next : Ticker} {passed count : Nat}
    (ran : ticker.due passed = .ok (count, next)) : ticker.counted passed = count := by
  rw [counted, ran]

theorem after_of_due {ticker next : Ticker} {passed count : Nat}
    (ran : ticker.due passed = .ok (count, next)) : ticker.after passed = next := by
  rw [after, ran]

theorem fits_of_due {ticker next : Ticker} {passed count : Nat}
    (ran : ticker.due passed = .ok (count, next)) : ticker.elapsed + passed ≤ longestSpan := by
  refine Nat.le_of_not_lt fun long => ?_
  rw [due, if_pos long] at ran
  cases ran

theorem counted_pos_iff {ticker : Ticker} {passed : Nat}
    (fits : ticker.elapsed + passed ≤ longestSpan) :
    0 < ticker.counted passed ↔ ticker.interval ≤ ticker.elapsed + passed := by
  rw [counted, due, if_neg (Nat.not_lt_of_le fits)]
  by_cases still : ticker.interval = 0
  · simp [still]
  · have reached := Nat.div_pos_iff (a := ticker.elapsed + passed) (b := ticker.interval)
    rw [if_neg still, Nat.lt_min, reached]
    simp only [countLimit]
    omega

theorem div_add_carry {interval : Nat} (positive : 0 < interval) (whole more : Nat) :
    whole / interval + (whole % interval + more) / interval = (whole + more) / interval := by
  calc whole / interval + (whole % interval + more) / interval
      = (interval * (whole / interval) + (whole % interval + more)) / interval :=
        (Nat.mul_add_div positive _ _).symm
    _ = (whole + more) / interval := by rw [← Nat.add_assoc, Nat.div_add_mod]

theorem dues_cons {ticker next last : Ticker} {passed count : Nat} {later counts : List Nat}
    (first : ticker.due passed = .ok (count, next)) (rest : next.dues later = .ok (counts, last)) :
    ticker.dues (passed :: later) = .ok (count :: counts, last) := by
  simp only [dues, first, bind, Except.bind, rest]
  rfl

theorem of_dues_cons {ticker last : Ticker} {passed : Nat} {later counts : List Nat}
    (ran : ticker.dues (passed :: later) = .ok (counts, last)) :
    ∃ count next more, ticker.due passed = .ok (count, next) ∧ next.dues later = .ok (more, last) ∧
      counts = count :: more := by
  rcases first : ticker.due passed with cause | ⟨count, next⟩
  case error => simp only [dues, first, bind, Except.bind, reduceCtorEq] at ran
  rcases rest : next.dues later with cause | ⟨more, final⟩
  case error => simp only [dues, first, bind, Except.bind, rest, reduceCtorEq] at ran
  rw [dues_cons first rest] at ran
  cases ran
  exact ⟨count, next, more, rfl, rest, rfl⟩

theorem total_of_dues {ticker last : Ticker} {times counts : List Nat}
    (ran : ticker.dues times = .ok (counts, last)) : ticker.total times = counts.sum := by
  induction times generalizing ticker counts with
  | nil =>
    cases ran
    rfl
  | cons passed later ih =>
    obtain ⟨count, next, more, first, rest, rfl⟩ := of_dues_cons ran
    rw [total, counted_of_due first, after_of_due first, ih rest, List.sum_cons]

/-- Between calls, a ticker carries less than an interval, in no more than 64 bits. -/
structure Regular (ticker : Ticker) : Prop where
  short : ticker.elapsed < ticker.interval
  narrow : ticker.interval ≤ restLimit

theorem dues_of_exact {ticker : Ticker} {times : List Nat} (regular : ticker.Regular)
    (exact : ticker.Exact times) :
    ∃ counts, ticker.dues times =
        .ok (counts, { ticker with elapsed := (ticker.elapsed + times.sum) % ticker.interval }) ∧
      counts.sum = (ticker.elapsed + times.sum) / ticker.interval := by
  obtain ⟨short, narrow⟩ := regular
  induction times generalizing ticker with
  | nil =>
    refine ⟨[], ?_, ?_⟩
    · rw [dues, List.sum_nil, Nat.add_zero, Nat.mod_eq_of_lt short]
    · rw [List.sum_nil, Nat.add_zero, Nat.div_eq_of_lt short]
  | cons passed later ih =>
    have positive := Nat.zero_lt_of_lt short
    have first := due_of_le positive narrow exact.1.1 exact.1.2
-- The rest of the first call is what the others start with.
    have rest := exact.2
    rw [after_of_due first] at rest
    obtain ⟨counts, ran, sum⟩ := ih rest (Nat.mod_lt _ positive) narrow
    refine ⟨(ticker.elapsed + passed) / ticker.interval :: counts, ?_, ?_⟩
    · rw [dues_cons first ran, List.sum_cons, Nat.mod_add_mod, Nat.add_assoc]
    · rw [List.sum_cons, List.sum_cons, sum, ← Nat.add_assoc]
      exact div_add_carry positive _ _

theorem total_of_exact {ticker : Ticker} {times : List Nat} (exact : ticker.Exact times)
    (short : ticker.elapsed < ticker.interval) (narrow : ticker.interval ≤ restLimit) :
    ticker.total times = (ticker.elapsed + times.sum) / ticker.interval := by
  obtain ⟨counts, ran, sum⟩ := dues_of_exact ⟨short, narrow⟩ exact
  rw [total_of_dues ran, sum]

theorem ofInterval_regular {interval : Nat} (positive : 0 < interval) (narrow : interval ≤ restLimit) :
    (ofInterval interval).Regular :=
  ⟨positive, narrow⟩

theorem interval_ofHertz_le (hertz : Nat) : (ofHertz hertz).interval ≤ restLimit :=
  Nat.le_trans (Nat.div_le_self second (max hertz 1)) (by decide)

theorem ofHertz_regular {hertz : Nat} (slow : hertz ≤ second) : (ofHertz hertz).Regular := by
  have whole : max hertz 1 ≤ second := Nat.max_le.2 ⟨slow, by decide⟩
  exact ofInterval_regular (Nat.div_pos whole (by omega)) (interval_ofHertz_le hertz)

theorem dues_ofInterval {interval : Nat} {times : List Nat} (positive : 0 < interval)
    (narrow : interval ≤ restLimit) (exact : (ofInterval interval).Exact times) :
    ∃ counts, (ofInterval interval).dues times = .ok (counts, ⟨interval, times.sum % interval⟩) ∧
      counts.sum = times.sum / interval := by
  have ran := dues_of_exact (ofInterval_regular positive narrow) exact
  simp only [ofInterval, Nat.zero_add] at ran
  exact ran

/-- However the time is cut into calls, a new ticker counts its quotient by the interval, and carries the
remainder. Every rate up to one event per nanosecond has such an interval. -/
theorem calls_conserve_time :
    (∀ hertz ≤ second, ∃ interval, 0 < interval ∧ interval ≤ restLimit ∧
      ofHertz hertz = ofInterval interval) ∧
    ∀ interval, 0 < interval → interval ≤ restLimit →
      ∀ times, (ofInterval interval).Exact times →
        ∃ counts, (ofInterval interval).dues times =
            .ok (counts, ⟨interval, times.sum % interval⟩) ∧
          counts.sum = times.sum / interval ∧
          ∀ others, (ofInterval interval).Exact others → others.sum = times.sum →
            ∃ otherCounts, (ofInterval interval).dues others =
                .ok (otherCounts, ⟨interval, times.sum % interval⟩) ∧
              otherCounts.sum = counts.sum := by
  refine ⟨fun hertz slow => ?_, fun interval positive narrow times exact => ?_⟩
  · obtain ⟨positive, narrow⟩ := ofHertz_regular slow
    exact ⟨second / max hertz 1, positive, narrow, rfl⟩
  · obtain ⟨counts, ran, sum⟩ := dues_ofInterval positive narrow exact
    refine ⟨counts, ran, sum, fun others other_exact same => ?_⟩
    obtain ⟨otherCounts, other_ran, other_sum⟩ := dues_ofInterval positive narrow other_exact
    rw [same] at other_ran other_sum
    exact ⟨otherCounts, other_ran, other_sum.trans sum.symm⟩

theorem split_calls_conserve_time :
    let ticker := ofInterval 10000000
    (ofHertz 100).interval = 10000000 ∧
      ticker.Exact [6000000, 6000000, 30000000] ∧ ticker.Exact [30000000, 12000000] ∧
      ∃ counts, ticker.dues [6000000, 6000000, 30000000] = .ok (counts, ⟨10000000, 2000000⟩) ∧
        counts.sum = 4 ∧
        ∃ otherCounts, ticker.dues [30000000, 12000000] = .ok (otherCounts, ⟨10000000, 2000000⟩) ∧
          otherCounts.sum = counts.sum := by
  have pieces : (ofInterval 10000000).Exact [6000000, 6000000, 30000000] :=
    ⟨⟨by decide, by decide⟩, ⟨by decide, by decide⟩, ⟨by decide, by decide⟩, trivial⟩
  have others : (ofInterval 10000000).Exact [30000000, 12000000] :=
    ⟨⟨by decide, by decide⟩, ⟨by decide, by decide⟩, trivial⟩
  obtain ⟨counts, ran, sum, same⟩ := calls_conserve_time.2 10000000 (by decide) (by decide) _ pieces
  exact ⟨by decide, pieces, others, counts, ran, sum, same _ others (by decide)⟩

end SpriteMachine.Ticker
