import SpriteMachine.Proofs.Timekeeping

/-! How often a ticker that was made for a rate really fires. Its interval is the quotient of a second by
the rate, cut down to whole nanoseconds, so the events of a second are the quotient of a second by that
interval. The second cut does not always undo the first one: what the first leaves over may hold further
intervals, and then a second brings more events than the rate says. It never brings fewer. -/

namespace SpriteMachine.Ticker

theorem exact_of_short {ticker : Ticker} {times : List Nat} (regular : ticker.Regular)
    (short : ticker.elapsed + times.sum ≤ countLimit) : ticker.Exact times := by
  induction times generalizing ticker with
  | nil => trivial
  | cons passed later ih =>
    obtain ⟨rest, narrow⟩ := regular
    have positive : 0 < ticker.interval := Nat.zero_lt_of_lt rest
    rw [List.sum_cons] at short
    have soon : ticker.elapsed + passed ≤ countLimit := by omega
    have span : ticker.elapsed + passed ≤ longestSpan := Nat.le_trans soon (by decide)
    have few : (ticker.elapsed + passed) / ticker.interval ≤ countLimit :=
      Nat.le_trans (Nat.div_le_self _ _) soon
    have carried := Nat.mod_le (ticker.elapsed + passed) ticker.interval
    refine ⟨⟨span, few⟩, ?_⟩
    rw [after_of_due (due_of_le positive narrow span few)]
    exact ih ⟨Nat.mod_lt _ positive, narrow⟩ (by simp only; omega)

section Quotients

variable {whole parts : Nat}

theorem div_div_eq_add (positive : 0 < parts) (few : parts ≤ whole) :
    whole / (whole / parts) = parts + whole % parts / (whole / parts) := by
  have piece : 0 < whole / parts := Nat.div_pos few positive
  calc whole / (whole / parts)
      = (whole / parts * parts + whole % parts) / (whole / parts) := by rw [Nat.div_add_mod']
    _ = parts + whole % parts / (whole / parts) := Nat.mul_add_div piece _ _

theorem mod_div_div_lt (positive : 0 < parts) : whole % parts / (whole / parts) < parts :=
  Nat.lt_of_le_of_lt (Nat.div_le_self _ _) (Nat.mod_lt _ positive)

theorem mod_div_div_eq_zero_iff (positive : 0 < parts) (few : parts ≤ whole) :
    whole % parts / (whole / parts) = 0 ↔ whole % parts < whole / parts := by
  have piece : 0 < whole / parts := Nat.div_pos few positive
  rw [Nat.div_eq_zero_iff]
  omega

theorem mod_lt_div_of_sq_le (positive : 0 < parts) (small : parts * parts ≤ whole) :
    whole % parts < whole / parts :=
  Nat.lt_of_lt_of_le (Nat.mod_lt _ positive) ((Nat.le_div_iff_mul_le positive).2 small)

end Quotients

theorem interval_ofHertz {hertz : Nat} (positive : 1 ≤ hertz) :
    (ofHertz hertz).interval = second / hertz := by
  rw [ofHertz, ofInterval, Nat.max_eq_left positive]

theorem dues_of_second {hertz : Nat} (positive : 1 ≤ hertz) (slow : hertz ≤ second) {times : List Nat}
    (whole : times.sum = second) :
    ∃ counts last, (ofHertz hertz).dues times = .ok (counts, last) ∧
      counts.sum = second / (second / hertz) := by
  have regular := ofHertz_regular slow
  have fresh : (ofHertz hertz).elapsed = 0 := rfl
  have short : (ofHertz hertz).elapsed + times.sum ≤ countLimit := by
    rw [fresh, Nat.zero_add, whole]
    decide
  obtain ⟨counts, ran, sum⟩ := dues_of_exact regular (exact_of_short regular short)
  refine ⟨counts, _, ran, ?_⟩
  rw [sum, fresh, Nat.zero_add, whole, interval_ofHertz positive]

/-- A second brings the events of the rate, and besides those for which the remainder has room. At rates
up to the root of a second it has none, and at no rate are they as many again. -/
theorem second_brings_rate_and_rest {hertz : Nat} (positive : 1 ≤ hertz) (slow : hertz ≤ second)
    {times : List Nat} (whole : times.sum = second) :
    ∃ counts last, (ofHertz hertz).dues times = .ok (counts, last) ∧
      counts.sum = hertz + second % hertz / (second / hertz) ∧ counts.sum < 2 * hertz ∧
      (counts.sum = hertz ↔ second % hertz < second / hertz) ∧
      (hertz * hertz ≤ second → counts.sum = hertz) := by
  obtain ⟨counts, last, ran, sum⟩ := dues_of_second positive slow whole
  have more : second % hertz / (second / hertz) < hertz := mod_div_div_lt positive
  have none_iff := mod_div_div_eq_zero_iff positive slow
  rw [div_div_eq_add positive slow] at sum
  have exact_iff : counts.sum = hertz ↔ second % hertz < second / hertz := by
    rw [← none_iff]
    omega
  refine ⟨counts, last, ran, sum, ?_, exact_iff, fun small => ?_⟩
  · omega
  · exact exact_iff.2 (mod_lt_div_of_sq_le positive small)

theorem fast_rates_bring_more :
    44100 ≤ second ∧ [500000000, 500000000].sum = second ∧
      (∃ counts last, (ofHertz 44100).dues [500000000, 500000000] = .ok (counts, last) ∧
        counts.sum = 44101) ∧
      600000000 ≤ second ∧
      ∃ counts last, (ofHertz 600000000).dues [second] = .ok (counts, last) ∧
        counts.sum = 1000000000 := by
  have slow : 44100 ≤ second := by decide
  have fast : 600000000 ≤ second := by decide
  have halves : [500000000, 500000000].sum = second := rfl
  have once : [second].sum = second := rfl
  obtain ⟨counts, _, ran, sum, _⟩ := second_brings_rate_and_rest (by decide) slow halves
  obtain ⟨others, _, other_ran, other_sum, _⟩ := second_brings_rate_and_rest (by decide) fast once
  exact ⟨slow, halves, ⟨counts, _, ran, sum⟩, fast, others, _, other_ran, other_sum⟩

end SpriteMachine.Ticker
