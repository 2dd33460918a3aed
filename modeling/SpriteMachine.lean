import SpriteMachine.Text.Hex
import SpriteMachine.Rows
import SpriteMachine.Word
import SpriteMachine.Instruction.Basic
import SpriteMachine.Instruction.Text
import SpriteMachine.Fault
import SpriteMachine.Memory.Font
import SpriteMachine.Memory.Basic
import SpriteMachine.Memory.Dump
import SpriteMachine.Screen.Basic
import SpriteMachine.Screen.HalfBlock
import SpriteMachine.Keypad.Basic
import SpriteMachine.Timer
import SpriteMachine.Ticker
import SpriteMachine.Random.Generator
import SpriteMachine.Random.Stride
import SpriteMachine.Random.ChaCha
import SpriteMachine.FileTree
import SpriteMachine.Program
import SpriteMachine.Dump.Basic
import SpriteMachine.Dump.Bytes
import SpriteMachine.Instruction.Arith
import SpriteMachine.Machine.Advance
import SpriteMachine.Machine.Basic
import SpriteMachine.Machine.Execute
import SpriteMachine.Machine.Step
import SpriteMachine.Machine.Dump
import SpriteMachine.Journal
import SpriteMachine.Machine.Journal
import SpriteMachine.Host.Basic
import SpriteMachine.Host.Script
import SpriteMachine.Host.Journal
import SpriteMachine.Text.Unseen
import SpriteMachine.Text.Quoted
import SpriteMachine.Keypad.Held
import SpriteMachine.CommandLine
import SpriteMachine.Main
import SpriteMachine.Proofs.Decoding
import SpriteMachine.Proofs.Effects
import SpriteMachine.Proofs.Obstacles
import SpriteMachine.Proofs.Steps
import SpriteMachine.Proofs.Bounds
import SpriteMachine.Proofs.Checked
import SpriteMachine.Proofs.Safety
import SpriteMachine.Proofs.Halting
import SpriteMachine.Proofs.Rejection
import SpriteMachine.Proofs.CallStack
import SpriteMachine.Proofs.Bursts
import SpriteMachine.Proofs.Interleaving
import SpriteMachine.Proofs.Timekeeping
import SpriteMachine.Proofs.Turns
import SpriteMachine.Proofs.Pace
import SpriteMachine.Proofs.Pictures
import SpriteMachine.Proofs.Isolation
import SpriteMachine.Proofs.Accounting
import SpriteMachine.Proofs.Assembly
import SpriteMachine.Proofs.Folding
import SpriteMachine.Proofs.Inspection
import SpriteMachine.Proofs.Stream
import SpriteMachine.Proofs.Erasing
import SpriteMachine.Proofs.Sprites
import SpriteMachine.Proofs.ControlFlow
import SpriteMachine.Proofs.Arithmetic
import SpriteMachine.Proofs.WriteSets
import SpriteMachine.Proofs.Sleeping
import SpriteMachine.Proofs.Frequency
import SpriteMachine.Proofs.Ranges
import SpriteMachine.Proofs.Recall
import SpriteMachine.Proofs.Loading
import SpriteMachine.Proofs.Spilling
import SpriteMachine.Proofs.Landing
import SpriteMachine.Proofs.Straight
import SpriteMachine.Proofs.Tiling
import SpriteMachine.Proofs.HalfBlocks
import SpriteMachine.Proofs.Holding
import SpriteMachine.Proofs.Commuting
