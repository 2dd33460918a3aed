/-! The eight-bit countdowns. A timer loses one with every tick and stays at zero. -/

namespace SpriteMachine

structure Timer where
  value : UInt8
  deriving DecidableEq, Repr

namespace Timer

def stopped : Timer := ⟨0⟩

def ticks (timer : Timer) (count : Nat) : Timer :=
  ⟨UInt8.ofNat (timer.value.toNat - count)⟩

def tick (timer : Timer) : Timer :=
  timer.ticks 1

def isActive (timer : Timer) : Bool :=
  timer.value != 0

@[simp] theorem toNat_ticks (timer : Timer) (count : Nat) :
    (timer.ticks count).value.toNat = timer.value.toNat - count := by
  have := timer.value.toNat_lt
  simp only [ticks, UInt8.toNat_ofNat']
  omega

theorem ext_toNat {first second : Timer} (same : first.value.toNat = second.value.toNat) :
    first = second := by
  cases first
  cases second
  exact congrArg Timer.mk (UInt8.toNat_inj.1 same)

@[simp] theorem ticks_zero (timer : Timer) : timer.ticks 0 = timer :=
  ext_toNat (by simp)

theorem ticks_add (timer : Timer) (first second : Nat) :
    timer.ticks (first + second) = (timer.ticks first).ticks second :=
  ext_toNat (by simp only [toNat_ticks]; omega)

end Timer

end SpriteMachine
