import SpriteMachine.Memory.Basic

/-! Where a program goes on after an instruction. Program counters are addresses, so they wrap at the
end of the address space; whether there is anything to fetch is found out by the next fetch. -/

namespace SpriteMachine

inductive Advance where
  | stay
  | next
  | skip
  | jump (target : Nat)
  deriving DecidableEq, Repr

namespace Advance

def skipIf (condition : Bool) : Advance :=
  if condition then skip else next

def apply (advance : Advance) (counter : Nat) : Nat :=
  match advance with
  | stay => counter
  | next => (counter + Word.width) % Memory.addressLimit
  | skip => (counter + 2 * Word.width) % Memory.addressLimit
  | jump target => target

theorem apply_next {counter : Nat} (small : counter < Memory.addressLimit - Word.width) :
    next.apply counter = counter + 2 := by
  simp only [apply, Word.width, Memory.addressLimit] at *
  omega

theorem apply_skip {counter : Nat} (small : counter < Memory.addressLimit - 2 * Word.width) :
    skip.apply counter = counter + 4 := by
  simp only [apply, Word.width, Memory.addressLimit] at *
  omega

end Advance

end SpriteMachine
