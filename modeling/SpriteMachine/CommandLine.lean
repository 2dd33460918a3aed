import SpriteMachine.Host.Basic
import SpriteMachine.Machine.Dump
import SpriteMachine.Program

/-! The command line: its grammar, and what the program answers before any screen is opened. -/

namespace SpriteMachine.CommandLine

structure Arguments where
  program : String
  hertz : Nat
  seed : Option UInt64
  dump : Bool
  deriving DecidableEq, Repr

structure Draft where
  program : Option String := none
  hertz : Option Nat := none
  seed : Option Nat := none
  dump : Bool := false
  deriving DecidableEq, Repr

inductive ValueOption where
  | hertz
  | seed
  deriving DecidableEq, Repr

inductive Invocation where
  | run (arguments : Arguments)
  | help
  | misuse
  deriving DecidableEq, Repr

/-- Digits with an optional plus sign, for a number of 64 bits. -/
def number? (text : String) : Option Nat :=
  let digits :=
    match text.toList with
    | '+' :: rest => rest
    | digits => digits
  if digits.isEmpty || !digits.all Char.isDigit then none
  else
    let value := digits.foldl (fun value digit => value * 10 + (digit.toNat - '0'.toNat)) 0
    if value < 0x10000000000000000 then some value else none

namespace Draft

def setOption (read : Draft) (option : ValueOption) (text : String) : Option Draft :=
  match number? text, option with
  | none, _ => none
  | some value, .hertz => if read.hertz.isSome then none else some { read with hertz := some value }
  | some value, .seed => if read.seed.isSome then none else some { read with seed := some value }

def setDump (read : Draft) : Option Draft :=
  if read.dump then none else some { read with dump := true }

def setProgram (read : Draft) (path : String) : Option Draft :=
  if path = "" ∨ read.program.isSome then none else some { read with program := some path }

def finish (read : Draft) : Invocation :=
  match read.program with
  | none => .misuse
  | some program =>
    .run {
      program := program
      hertz := read.hertz.getD ({} : Rates).cpu
      seed := read.seed.map UInt64.ofNat
      dump := read.dump }

def takePrograms (read : Draft) : List String → Invocation
  | [] => read.finish
  | path :: rest =>
    match read.setProgram path with
    | none => .misuse
    | some read => read.takePrograms rest

end Draft

inductive Token where
  | endOfOptions
  | plain (text : String)
  | option (option : ValueOption) (value : Option String)
  | dump
  | help
  | unknown
  deriving DecidableEq, Repr

def splitValue (text : List Char) : String × Option String :=
  match text.dropWhile (· != '=') with
  | [] => (String.ofList text, none)
  | _ :: value => (String.ofList (text.takeWhile (· != '=')), some (String.ofList value))

def Token.read (argument : String) : Token :=
  match argument.toList with
  | ['-', '-'] => endOfOptions
  | '-' :: '-' :: text =>
    match splitValue text with
    | ("hertz", value) => option .hertz value
    | ("seed", value) => option .seed value
    | ("dump", none) => dump
    | ("help", none) => help
    | _ => unknown
  | '-' :: 'h' :: _ => help
  | '-' :: _ :: _ => unknown
  | _ => plain argument

def readFrom (read : Draft) : List String → Invocation
  | [] => read.finish
  | argument :: rest =>
    match Token.read argument with
    | .endOfOptions => read.takePrograms rest
    | .plain path =>
      match read.setProgram path with
      | none => .misuse
      | some read => readFrom read rest
    | .option option (some value) =>
      match read.setOption option value with
      | none => .misuse
      | some read => readFrom read rest
    | .option option none =>
      match rest with
      | [] => .misuse
      | value :: rest =>
        match Token.read value with
        | .plain text =>
          match read.setOption option text with
          | none => .misuse
          | some read => readFrom read rest
        | _ => .misuse
    | .dump =>
      match read.setDump with
      | none => .misuse
      | some read => readFrom read rest
    | .help => .help
    | .unknown => .misuse

def parse (arguments : List String) : Invocation :=
  readFrom {} arguments

def loadMessage (path : String) (fault : ProgramFault) : String :=
  let causes :=
    match fault with
    | .unreadable cause => [fault.message, cause.message]
    | .tooLarge _ _ => [fault.message]
  ": ".intercalate (("Error: Unable to load " ++ path) :: causes)

inductive Answer where
  | report (exitCode : Nat) (output errors : String)
  | play (arguments : Arguments) (program : Program)

/-- The machine as loaded is the same for every generator. -/
def dumpOf (program : Program) : String :=
  (Machine.fresh program.memory Screen.blank ()).dump

def answer (arguments : Arguments) (contents : Except FileFault (List UInt8)) : Answer :=
  match Program.ofFile arguments.program contents with
  | .error fault => .report 1 "" (loadMessage arguments.program fault ++ "\n")
  | .ok program =>
    if arguments.dump then .report 0 (dumpOf program ++ "\n") "" else .play arguments program

end SpriteMachine.CommandLine
