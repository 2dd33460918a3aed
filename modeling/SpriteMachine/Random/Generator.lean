/-! Sources of random numbers. A generator is a state that yields one 32-bit number per draw, and the
machine keeps the low byte of each. -/

namespace SpriteMachine

class Generator (G : Type) where
  next : G → UInt32 × G

namespace Generator

variable {G : Type} [Generator G]

def draw (generator : G) : UInt8 × G :=
  let (number, rest) := next generator
  (number.toUInt8, rest)

def after (generator : G) : Nat → G
  | 0 => generator
  | count + 1 => (draw (after generator count)).2

theorem after_add (generator : G) (first second : Nat) :
    after generator (first + second) = after (after generator first) second := by
  induction second with
  | zero => rfl
  | succ second ih => rw [Nat.add_succ, after, ih, after]

end Generator

end SpriteMachine
