import SpriteMachine.Instruction.Basic

/-! How an instruction is listed in journals: the name of its group, and in brackets what the group
picks and its operands in decimal. -/

namespace SpriteMachine

namespace SystemOp

def name : SystemOp → String
  | clear => "Clear"
  | leave => "Return"

end SystemOp

namespace ArithOp

def name : ArithOp → String
  | assign => "Assign"
  | or => "Or"
  | and => "And"
  | xor => "Xor"
  | add => "Add"
  | sub => "Sub"
  | shiftRight => "ShiftRight"
  | subReverse => "SubReverse"
  | shiftLeft => "ShiftLeft"

end ArithOp

namespace KeyTest

def name : KeyTest → String
  | pressed => "Pressed"
  | notPressed => "NotPressed"

end KeyTest

namespace MiscOp

def name : MiscOp → String
  | getDelay => "GetDelayTimer"
  | awaitKey => "AwaitKeyPress"
  | setDelay => "SetDelayTimer"
  | setSound => "SetSoundTimer"
  | addToIndex => "AddVxToI"
  | pointToGlyph => "SetIToSprite"
  | storeDecimal => "StoreBCD"
  | storeRegisters => "StoreV0ToVx"
  | loadRegisters => "FillV0ToVx"

end MiscOp

namespace Instruction

def field (label : String) (value : Nat) : String × String :=
  (label, Nat.repr value)

def listing (group shape : String) (fields : List (String × String)) : String :=
  let operands := fields.map fun (label, value) => label ++ ": " ++ value
  group ++ "(" ++ shape ++ " \x7b " ++ ", ".intercalate operands ++ " \x7d)"

def addressListing (group : String) (target : Address) : String :=
  listing group "Address" [field "nnn" target.val]

def byteListing (group : String) (x : Register) (value : UInt8) : String :=
  listing group "RegisterConst" [field "x" x.val, field "nn" value.toNat]

def pairListing (group : String) (x y : Register) : String :=
  listing group "RegisterPair" [field "x" x.val, field "y" y.val]

def text : Instruction → String
  | system op => "Zero(" ++ op.name ++ ")"
  | jump target => addressListing "One" target
  | call target => addressListing "Two" target
  | skipIfEqual x value => byteListing "Three" x value
  | skipUnlessEqual x value => byteListing "Four" x value
  | skipIfSame x y => pairListing "Five" x y
  | set x value => byteListing "Six" x value
  | increase x value => byteListing "Seven" x value
  | arith op x y => listing "Eight" "Arithmetic" [("ops", op.name), field "x" x.val, field "y" y.val]
  | skipUnlessSame x y => pairListing "Nine" x y
  | setIndex target => addressListing "A" target
  | jumpFrom base => addressListing "B" base
  | random x mask => byteListing "C" x mask
  | draw x y height => listing "D" "Sprite" [field "x" x.val, field "y" y.val, field "n" height.val]
  | key test x => listing "E" "Key" [("ops", test.name), field "x" x.val]
  | misc op x => listing "F" "Misc" [("ops", op.name), field "x" x.val]
  | unknown word => "Unknown(" ++ Nat.repr word.toNat ++ ")"

end Instruction

end SpriteMachine
