import Mathlib.Data.List.Induction
import Mathlib.Data.List.Nodup
import SpriteMachine.Keypad.Held
import SpriteMachine.Rows

/-! Which keys of the pad are held after a history of reports. Only the last time is kept for each key, and
as the host's clock does not go back, this time decides for all the earlier ones: a key is held exactly if
some report of it is recent enough. The two layouts say which characters belong to which key. -/

namespace SpriteMachine

namespace KeyEvent

theorem asksToQuit_iff {event : KeyEvent} :
    event.asksToQuit = true ↔
      event.kind ≠ .release ∧
        (event.code = .escape ∨ event.code = .character 'c' ∧ event.control = true) := by
  rcases event with ⟨code, control, kind⟩
  cases code <;> simp [asksToQuit]

theorem typed?_eq_some_iff {event : KeyEvent} {c : Char} :
    event.typed? = some c ↔
      event.kind ≠ .release ∧ event.code = .character c ∧ ¬ (c = 'c' ∧ event.control = true) := by
  rcases event with ⟨code, control, kind⟩
  cases code with
  | escape | other => simp [typed?]
  | character typed =>
    simp only [typed?, asksToQuit_iff, KeyCode.character.injEq, reduceCtorEq, false_or]
    by_cases released : kind = .release <;> by_cases same : typed = c <;> simp [released, same]

end KeyEvent

namespace HeldKeys

structure Report where
  event : KeyEvent
  time : Nat
  deriving DecidableEq, Repr

def Report.Presses (report : Report) (key : Key) : Prop :=
  ∃ c, report.event.kind ≠ .release ∧ report.event.code = .character c ∧ keyFor? c = some key ∧
    ¬ (c = 'c' ∧ report.event.control = true)

def handleAll (held : HeldKeys) (reports : List Report) : HeldKeys :=
  reports.foldl (fun held report => (held.handle report.event report.time).1) held

theorem handleAll_snoc (held : HeldKeys) (earlier : List Report) (last : Report) :
    held.handleAll (earlier ++ [last]) =
      ((held.handleAll earlier).handle last.event last.time).1 := by
  rw [handleAll, List.foldl_append]
  rfl

theorem presses_iff {report : Report} {key : Key} :
    report.Presses key ↔ report.event.typed?.bind keyFor? = some key := by
  rw [Option.bind_eq_some_iff]
  refine exists_congr fun c => ?_
  rw [KeyEvent.typed?_eq_some_iff, and_assoc, and_assoc, and_comm (a := keyFor? c = some key)]

theorem handle_of_presses {report : Report} {key : Key} (presses : report.Presses key)
    (held : HeldKeys) :
    held.handle report.event report.time = (held.press key report.time, false) := by
  rw [handle, presses_iff.1 presses]

theorem handle_of_not_presses {report : Report} (spared : ∀ key, ¬ report.Presses key)
    (held : HeldKeys) :
    held.handle report.event report.time = (held, report.event.asksToQuit) := by
  have untyped : report.event.typed?.bind keyFor? = none :=
    Option.eq_none_iff_forall_ne_some.2 fun key typed => spared key (presses_iff.2 typed)
  rw [handle, untyped]

theorem not_presses_of_asksToQuit {report : Report} (quits : report.event.asksToQuit = true) (key : Key) :
    ¬ report.Presses key := by
  rintro ⟨c, _, code, _, plain⟩
  rcases KeyEvent.asksToQuit_iff.1 quits with ⟨_, escape | ⟨letter, control⟩⟩
  · rw [escape] at code
    cases code
  · rw [letter, KeyCode.character.injEq] at code
    exact plain ⟨code.symm, control⟩

theorem snd_handle (held : HeldKeys) (event : KeyEvent) (now : Nat) :
    (held.handle event now).2 = event.asksToQuit := by
  let report : Report := ⟨event, now⟩
  by_cases effective : ∃ key, report.Presses key
  · obtain ⟨key, presses⟩ := effective
    have stays : report.event.asksToQuit = false :=
      Bool.eq_false_iff.2 fun quits => not_presses_of_asksToQuit quits key presses
    exact (congrArg Prod.snd (handle_of_presses presses held)).trans stays.symm
  · exact congrArg Prod.snd (handle_of_not_presses (not_exists.1 effective) held)

theorem isHeld_handle (held : HeldKeys) (report : Report) (key : Key) (now : Nat) :
    (held.handle report.event report.time).1.isHeld key now = true ↔
      report.Presses key ∧ now - report.time < holdTime ∨
        ¬ report.Presses key ∧ held.isHeld key now = true := by
  by_cases effective : ∃ other, report.Presses other
  · obtain ⟨other, presses⟩ := effective
    have pressed : report.Presses key ↔ other = key := by
      rw [presses_iff, presses_iff.1 presses, Option.some.injEq]
    rw [handle_of_presses presses, isHeld_press, pressed]
    by_cases same : other = key <;> simp [same]
  · rw [handle_of_not_presses (not_exists.1 effective)]
    simp [not_exists.1 effective key]

/-- Of the reports that press a key, the last one is the most recent. -/
theorem isHeld_handleAll_iff {reports : List Report}
    (ordered : reports.Pairwise fun earlier later => earlier.time ≤ later.time) (key : Key) (now : Nat) :
    (empty.handleAll reports).isHeld key now = true ↔
      ∃ report ∈ reports, report.Presses key ∧ now - report.time < holdTime := by
  induction reports using List.reverseRecOn with
  | nil => simp [handleAll, isHeld_empty]
  | append_singleton earlier last ih =>
    obtain ⟨before, _, behind⟩ := List.pairwise_append.1 ordered
    rw [handleAll_snoc, isHeld_handle, ih before]
    constructor
    · rintro (recent | ⟨_, report, member, recent⟩)
      · exact ⟨last, by simp, recent⟩
      · exact ⟨report, List.mem_append_left _ member, recent⟩
    · rintro ⟨report, member, presses, recent⟩
      rcases List.mem_append.1 member with member | member
-- The last report is at least as recent as any before it.
      · by_cases pressed : last.Presses key
        · have later : report.time ≤ last.time := behind report member last (List.mem_singleton.2 rfl)
          exact .inl ⟨pressed, by omega⟩
        · exact .inr ⟨pressed, report, member, presses, recent⟩
      · obtain rfl : report = last := List.mem_singleton.1 member
        exact .inl ⟨presses, recent⟩

theorem isPressed_snapshot (held : HeldKeys) (key : Key) (now : Nat) :
    (held.snapshot now).isPressed key = held.isHeld key now := by
  change ((Vector.ofFn fun key : Key => held.isHeld key now)[key.val]?).getD false = _
  simp

theorem toNat_toLower (c : Char) :
    c.toLower.toNat = if 65 ≤ c.toNat ∧ c.toNat ≤ 90 then c.toNat + 32 else c.toNat := by
  have bounds : (c.val ≥ 'A'.val ∧ c.val ≤ 'Z'.val) ↔ (65 ≤ c.toNat ∧ c.toNat ≤ 90) := Iff.rfl
  delta Char.toLower
  split
  · next capital =>
    rw [if_pos (bounds.1 capital)]
    have small : c.toNat ≤ 90 := (bounds.1 capital).2
    exact (UInt32.toNat_add c.val 32).trans (Nat.mod_eq_of_lt (by change c.toNat + 32 < _; omega))
  · next other => rw [if_neg (mt bounds.2 other)]

theorem toNat_toUpper (c : Char) :
    c.toUpper.toNat = if 97 ≤ c.toNat ∧ c.toNat ≤ 122 then c.toNat - 32 else c.toNat := by
  have bounds : ('a'.val ≤ c.val ∧ c.val ≤ 'z'.val) ↔ (97 ≤ c.toNat ∧ c.toNat ≤ 122) := Iff.rfl
  delta Char.toUpper
  split
  · next small =>
    obtain ⟨low, high⟩ := bounds.1 small
    rw [if_pos ⟨low, high⟩]
    refine (UInt32.toNat_add c.val ('A'.val - 'a'.val)).trans ?_
    change (c.toNat + 4294967264) % 4294967296 = _
    omega
  · next other => rw [if_neg (mt bounds.2 other)]

theorem toLower_eq_iff {c host : Char} (lower : host.toLower = host) :
    c.toLower = host ↔ c = host ∨ c = host.toUpper := by
  have fixed := congrArg Char.toNat lower
  simp only [← Char.toNat_inj, toNat_toLower, toNat_toUpper] at fixed ⊢
  grind

theorem toLower_toLower (c : Char) : c.toLower.toLower = c.toLower := by
  simp only [← Char.toNat_inj, toNat_toLower]
  grind

theorem mem_keyMap_iff {host : Char} {key : Key} :
    (host, key) ∈ keyMap ↔ ∃ row column,
      Rows.get? hostLayout row column = some host ∧ Rows.get? Keypad.layout row column = some key :=
  Rows.mem_zip_flatten_iff (show 0 < 4 by decide) (by decide) (by decide)

theorem toLower_of_mem_keyMap : ∀ pair ∈ keyMap, pair.1.toLower = pair.1 := by
  decide

theorem lookup_of_mem_keyMap : ∀ pair ∈ keyMap, keyMap.lookup pair.1 = some pair.2 := by
  decide

theorem mem_keyMap_of_lookup {host : Char} {key : Key} (found : keyMap.lookup host = some key) :
    (host, key) ∈ keyMap := by
  obtain ⟨front, back, split, _⟩ := List.lookup_eq_some_iff.1 found
  rw [split]
  exact List.mem_append_right _ List.mem_cons_self

theorem keyFor?_eq_some_iff {c : Char} {key : Key} :
    keyFor? c = some key ↔ ∃ row column host,
      Rows.get? hostLayout row column = some host ∧
        Rows.get? Keypad.layout row column = some key ∧ (c = host ∨ c = host.toUpper) := by
  constructor
  · intro found
    obtain ⟨row, column, shown, placed⟩ := mem_keyMap_iff.1 (mem_keyMap_of_lookup found)
    exact ⟨row, column, c.toLower, shown, placed,
      (toLower_eq_iff (toLower_toLower c)).1 rfl⟩
  · rintro ⟨row, column, host, shown, placed, spelled⟩
    have paired := mem_keyMap_iff.2 ⟨row, column, shown, placed⟩
    rw [keyFor?, (toLower_eq_iff (toLower_of_mem_keyMap _ paired)).2 spelled]
    exact lookup_of_mem_keyMap _ paired

theorem map_fst_keyMap : keyMap.map Prod.fst = hostLayout.flatten := rfl

theorem nodup_map_snd_keyMap : (keyMap.map Prod.snd).Nodup := by
  decide

theorem mem_map_snd_keyMap : ∀ key : Key, key ∈ keyMap.map Prod.snd := by
  decide

theorem keyFor?_of_mem_hostLayout {host : Char} (listed : host ∈ hostLayout.flatten) {key : Key} :
    keyFor? host = some key ↔ (host, key) ∈ keyMap := by
  obtain ⟨pair, paired, rfl⟩ := List.mem_map.1 (map_fst_keyMap ▸ listed)
  rw [keyFor?, toLower_of_mem_keyMap pair paired]
  exact ⟨mem_keyMap_of_lookup, lookup_of_mem_keyMap _⟩

theorem existsUnique_host (key : Key) :
    ∃! host, host ∈ hostLayout.flatten ∧ keyFor? host = some key := by
  obtain ⟨⟨host, _⟩, paired, rfl⟩ := List.mem_map.1 (mem_map_snd_keyMap key)
  have listed : host ∈ hostLayout.flatten := map_fst_keyMap ▸ List.mem_map.2 ⟨_, paired, rfl⟩
  refine ⟨host, ⟨listed, (keyFor?_of_mem_hostLayout listed).2 paired⟩, ?_⟩
  rintro other ⟨listed', found⟩
  have paired' := (keyFor?_of_mem_hostLayout listed').1 found
  exact congrArg Prod.fst (List.inj_on_of_nodup_map nodup_map_snd_keyMap paired' paired rfl)

/-- After any history of reports in the order of their times, a key of the pad is held exactly if within the
last 150 milliseconds it was reported, not as released, by a character that belongs to it. Escape and the
letter `c` with the control key are requests to quit, and these, releases and characters without a key
change nothing. The sixteen host keys, in either case, belong to the keys of the pad in the same places, and
each key of the pad has one of them. -/
theorem held_keys_follow_reports :
    (∀ reports : List Report, (reports.Pairwise fun earlier later => earlier.time ≤ later.time) →
      ∀ (key : Key) (now : Nat),
        ((empty.handleAll reports).snapshot now).isPressed key = true ↔
          ∃ report ∈ reports, report.Presses key ∧ now - report.time < 150000000) ∧
    (∀ (held : HeldKeys) (event : KeyEvent) (now : Nat),
      ((held.handle event now).2 = true ↔
        event.kind ≠ .release ∧
          (event.code = .escape ∨ event.code = .character 'c' ∧ event.control = true)) ∧
      ((held.handle event now).2 = true ∨ event.kind = .release ∨
          (∀ c, event.code = .character c → keyFor? c = none) →
        (held.handle event now).1 = held)) ∧
    (∀ c key, keyFor? c = some key ↔ ∃ row column host,
      Rows.get? hostLayout row column = some host ∧
        Rows.get? Keypad.layout row column = some key ∧ (c = host ∨ c = host.toUpper)) ∧
    hostLayout.flatten.length = 16 ∧
    ∀ key : Key, ∃! host, host ∈ hostLayout.flatten ∧ keyFor? host = some key := by
  refine ⟨fun reports ordered key now => ?_, fun held event now => ⟨?_, ?_⟩,
    fun c key => keyFor?_eq_some_iff, rfl, existsUnique_host⟩
  · rw [isPressed_snapshot]
    exact isHeld_handleAll_iff ordered key now
  · rw [snd_handle]
    exact KeyEvent.asksToQuit_iff
  · intro idle
    let report : Report := ⟨event, now⟩
    have spared (key : Key) : ¬ report.Presses key := by
      rcases idle with quits | released | unmapped
      · rw [snd_handle] at quits
        exact not_presses_of_asksToQuit quits key
      · rintro ⟨c, pressed, _⟩
        exact pressed released
      · rintro ⟨c, _, code, found, _⟩
        rw [unmapped c code] at found
        cases found
    exact congrArg Prod.fst (handle_of_not_presses spared held)

theorem repeated_key_stays_held :
    let pressed : Report := ⟨{ code := .character 'w' }, 0⟩
    let again : Report := ⟨{ code := .character 'W', control := true, kind := .repeated }, 100⟩
    let quit : Report := ⟨{ code := .character 'c', control := true }, 200⟩
    let reports := [pressed, again, quit]
    let held := empty.handleAll reports
    (reports.Pairwise fun earlier later => earlier.time ≤ later.time) ∧
      (held.snapshot 150000099).isPressed 5 = true ∧ (held.snapshot 150000100).isPressed 5 = false ∧
      (held.snapshot 200).isPressed 0xB = false ∧ (held.handle quit.event 200).2 = true ∧
      (held.handle quit.event 200).1 = held ∧ keyFor? 'W' = some 5 := by
  intro pressed again quit reports held
  obtain ⟨follows, handles, keys, _⟩ := held_keys_follow_reports
  have ordered : reports.Pairwise fun earlier later => earlier.time ≤ later.time := by decide
  have lower : keyFor? 'w' = some 5 := (keys 'w' 5).2 ⟨1, 1, 'w', rfl, rfl, .inl rfl⟩
  have upper : keyFor? 'W' = some 5 := (keys 'W' 5).2 ⟨1, 1, 'w', rfl, rfl, .inr rfl⟩
  have presses : again.Presses 5 := ⟨'W', by decide, rfl, upper, by decide⟩
  have quits : (held.handle quit.event 200).2 = true :=
    (handles held quit.event 200).1.2 ⟨by decide, .inr ⟨rfl, rfl⟩⟩
  have spared (key : Key) : ¬ quit.Presses key := not_presses_of_asksToQuit (by decide) key
  refine ⟨ordered, ?_, ?_, ?_, quits, (handles held quit.event 200).2 (.inl quits), upper⟩
  · exact (follows reports ordered 5 150000099).2 ⟨again, by simp [reports], presses, by decide⟩
  · refine Bool.eq_false_iff.2 fun still => ?_
    obtain ⟨report, member, other, recent⟩ := (follows reports ordered 5 150000100).1 still
    simp only [reports, List.mem_cons, List.not_mem_nil, or_false] at member
    rcases member with rfl | rfl | rfl
    · exact absurd recent (by decide)
    · exact absurd recent (by decide)
    · exact spared 5 other
  · refine Bool.eq_false_iff.2 fun still => ?_
    obtain ⟨report, member, other, _⟩ := (follows reports ordered 0xB 200).1 still
    simp only [reports, List.mem_cons, List.not_mem_nil, or_false] at member
    rcases member with rfl | rfl | rfl
    · obtain ⟨_, _, code, found, _⟩ := other
      cases code
      exact absurd (Option.some.inj (lower.symm.trans found)) (by decide)
    · obtain ⟨_, _, code, found, _⟩ := other
      cases code
      exact absurd (Option.some.inj (upper.symm.trans found)) (by decide)
    · exact spared 0xB other

end HeldKeys

end SpriteMachine
