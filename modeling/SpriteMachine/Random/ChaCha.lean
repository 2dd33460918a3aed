import SpriteMachine.Random.Generator
import SpriteMachine.Word

/-! The seeded generator: the key stream of ChaCha with twelve rounds. Words are drawn block by block,
and the block counter takes the place of the nonce as well as its own. -/

namespace SpriteMachine

structure ChaCha where
  key : Vector UInt32 8
  drawn : Nat
  deriving DecidableEq, Repr

namespace ChaCha

abbrev State := Vector UInt32 16

def rotateLeft (word count : UInt32) : UInt32 :=
  (word <<< count) ||| (word >>> (32 - count))

def rotateRight (word count : UInt32) : UInt32 :=
  (word >>> count) ||| (word <<< (32 - count))

def stir (target source mixed : Fin 16) (count : UInt32) (state : State) : State :=
  let sum := state[target] + state[source]
  (state.set target sum).set mixed (rotateLeft (state[mixed] ^^^ sum) count)

def quarterRound (a b c d : Fin 16) (state : State) : State :=
  stir c d b 7 (stir a b d 8 (stir c d b 12 (stir a b d 16 state)))

def doubleRound (state : State) : State :=
  state
    |> quarterRound 0 4 8 12
    |> quarterRound 1 5 9 13
    |> quarterRound 2 6 10 14
    |> quarterRound 3 7 11 15
    |> quarterRound 0 5 10 15
    |> quarterRound 1 6 11 12
    |> quarterRound 2 7 8 13
    |> quarterRound 3 4 9 14

/-- The letters `expand 32-byte k`, four to a word. -/
def constants : Vector UInt32 4 :=
  #v[0x61707865, 0x3320646e, 0x79622d32, 0x6b206574]

def input (key : Vector UInt32 8) (counter : UInt64) : State :=
  constants ++ key ++ #v[counter.toUInt32, (counter >>> 32).toUInt32, 0, 0]

def block (key : Vector UInt32 8) (counter : UInt64) : State :=
  let start := input key counter
  Vector.zipWith (· + ·) (Nat.repeat doubleRound 6 start) start

instance : Generator ChaCha where
  next chacha :=
    let words := block chacha.key (UInt64.ofNat (chacha.drawn / 16))
    let position : Fin 16 := ⟨chacha.drawn % 16, Nat.mod_lt _ (by decide)⟩
    (words[position], { chacha with drawn := chacha.drawn + 1 })

def seedStep (seed : UInt64) : UInt64 :=
  seed * 6364136223846793005 + 11634580027462260723

def seedWord (seed : UInt64) : UInt32 :=
  rotateRight (((seed >>> 18) ^^^ seed) >>> 27).toUInt32 (seed >>> 59).toUInt32

/-- The key is spread from the seed word by word. -/
def ofSeed (seed : UInt64) : ChaCha where
  key := Vector.ofFn fun position => seedWord (Nat.repeat seedStep (position.val + 1) seed)
  drawn := 0

end ChaCha

end SpriteMachine
