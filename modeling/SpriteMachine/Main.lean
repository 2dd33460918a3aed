import SpriteMachine.CommandLine
import SpriteMachine.Keypad.Held
import SpriteMachine.Random.ChaCha
import SpriteMachine.Screen.HalfBlock

/-! The program itself: it reads the file, prints answers, and plays programs in real time with the lines
typed on the standard input as key presses. -/

namespace SpriteMachine.Main

open CommandLine

/-- Some systems report the codes of their errors negated. -/
def fileFault (error : IO.Error) : FileFault :=
  match error with
  | .noFileOrDirectory _ _ _ => .missing
  | .inappropriateType _ code _ =>
    if code = 21 ∨ code = -21 then .isFolder
    else if code = 20 ∨ code = -20 then .notFolder
    else .other (toString error)
  | _ => .other (toString error)

def readProgram (path : String) : IO (Except FileFault (List UInt8)) := do
  try
    return .ok (← IO.FS.readBinFile path).toList
  catch error =>
    return .error (fileFault error)

def keyCode (c : Char) : KeyCode :=
  if c = '\x1b' then .escape else .character c

/-- The end of the input asks to quit. -/
partial def collectKeys (input : IO.FS.Stream) (typed : IO.Ref (List KeyCode)) : IO Unit := do
  let line ← input.getLine
  if line.isEmpty then
    typed.modify (· ++ [.escape])
  else
    typed.modify (· ++ line.toList.map keyCode)
    collectKeys input typed

partial def playFrom (typed : IO.Ref (List KeyCode)) (held : HeldKeys) (host : Host ChaCha)
    (last : Nat) : IO (Host ChaCha × Option HostFault) := do
  let now ← IO.monoNanosNow
  let codes ← typed.swap []
  let (held, quit) := codes.foldl (fun (held, quit) code =>
    let (held, asked) := held.handle { code := code } now
    (held, quit || asked)) (held, false)
  let poll := if quit then .quit else .keys (held.snapshot now)
  let turn := host.advance poll (now - last) none
  if let some picture := turn.offered then
    IO.print (HalfBlock.paint picture.toList)
    (← IO.getStdout).flush
  match turn.result with
  | .error fault => return (turn.host, some fault)
  | .ok false => return (turn.host, none)
  | .ok true =>
    IO.sleep (turn.host.untilNext / 1000000).toUInt32
    playFrom typed held turn.host now

def entropy : IO UInt64 := do
  let bytes ← IO.getRandomBytes 8
  return bytes.toList.foldl (fun seed byte => seed * 256 + byte.toUInt64) 0

def play (arguments : Arguments) (program : Program) : IO UInt32 := do
  let seed ← match arguments.seed with
    | some seed => pure seed
    | none => entropy
  let machine := Machine.fresh program.memory Screen.blank (ChaCha.ofSeed seed)
  let typed ← IO.mkRef []
  let _ ← IO.asTask (collectKeys (← IO.getStdin) typed)
  IO.print "\x1b[2J"
  let start ← IO.monoNanosNow
  let (host, failure) ←
    playFrom typed HeldKeys.empty (Host.start machine { cpu := arguments.hertz }) start
  if let some fault := host.machine.fault then
    IO.eprintln (program.name ++ " was halted: " ++ fault.message)
  match failure with
  | none => return 0
  | some fault =>
    IO.eprintln ("Error: Terminal I/O failed: " ++ fault.message)
    return 1

def usage : String :=
  "Run a chip8 program inside of the terminal.\n\nUsage: chip8-term [OPTIONS] <ROM>\n"

end SpriteMachine.Main

open SpriteMachine CommandLine in
def main (arguments : List String) : IO UInt32 := do
  match parse arguments with
  | .misuse =>
    IO.eprint Main.usage
    return 2
  | .help =>
    IO.print Main.usage
    return 0
  | .run arguments =>
    match answer arguments (← Main.readProgram arguments.program) with
    | .report exitCode output errors =>
      IO.print output
      IO.eprint errors
      return exitCode.toUInt32
    | .play arguments program => Main.play arguments program
