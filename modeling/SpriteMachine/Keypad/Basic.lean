import SpriteMachine.Word

/-! The sixteen-key pad as one snapshot. Numbers past the last key name no key: they are never pressed
and setting them does nothing. -/

namespace SpriteMachine

def Keypad.size : Nat := 16

structure Keypad where
  keys : Vector Bool Keypad.size
  deriving DecidableEq

namespace Keypad

def layout : List (List (Fin 16)) :=
  [[0x1, 0x2, 0x3, 0xC],
   [0x4, 0x5, 0x6, 0xD],
   [0x7, 0x8, 0x9, 0xE],
   [0xA, 0x0, 0xB, 0xF]]

def released : Keypad where
  keys := Vector.replicate size false

def isPressed (pad : Keypad) (key : Nat) : Bool :=
  pad.keys[key]?.getD false

def setKey (pad : Keypad) (key : Nat) (pressed : Bool) : Keypad where
  keys := pad.keys.setIfInBounds key pressed

def firstPressed (pad : Keypad) : Option (Fin 16) :=
  (List.finRange 16).find? fun key => pad.isPressed key

theorem isPressed_of_le (pad : Keypad) {key : Nat} (outside : size ≤ key) :
    pad.isPressed key = false := by
  simp [isPressed, Vector.getElem?_eq_none_iff.2 outside]

theorem isPressed_setKey (pad : Keypad) (key : Nat) (pressed : Bool) (key' : Nat) :
    (pad.setKey key pressed).isPressed key' =
      if key = key' ∧ key < size then pressed else pad.isPressed key' := by
  by_cases same : key = key'
  · subst same
    by_cases inside : key < size <;> simp [setKey, isPressed, inside]
  · simp [setKey, isPressed, same]

theorem isPressed_of_firstPressed {pad : Keypad} {key : Fin 16} (found : pad.firstPressed = some key) :
    pad.isPressed key = true := by
  simpa using List.find?_some (p := fun key : Fin 16 => pad.isPressed key) found

theorem firstPressed_eq_none_iff {pad : Keypad} :
    pad.firstPressed = none ↔ ∀ key, pad.isPressed key = false := by
  refine ⟨fun released key => ?_, fun all => ?_⟩
  · by_cases inside : key < 16
    · have unpressed := List.find?_eq_none.1 released ⟨key, inside⟩ (List.mem_finRange _)
      simpa using unpressed
    · exact pad.isPressed_of_le (Nat.le_of_not_lt inside)
  · exact List.find?_eq_none.2 fun key _ => by simp [all]

end Keypad

end SpriteMachine
