import SpriteMachine.Host.Basic

/-! Playing a host against a script: the answers of the keyboard in order, after which it quits, and the
pictures that the display refuses. -/

namespace SpriteMachine

/-- Pictures are numbered from one, `offered` of them have been handed to the display, and the refused
ones are refused for one reason. -/
structure Script where
  polls : List Poll
  refused : List Nat
  reason : String
  offered : Nat := 0
  deriving DecidableEq

namespace Script

def poll (script : Script) : Poll :=
  script.polls.headD .quit

def refusal (script : Script) : Option String :=
  if script.refused.contains (script.offered + 1) then some script.reason else none

variable {G : Type} [Generator G]

def play (script : Script) (host : Host G) (passed : Nat) : Turn G × Script :=
  let turn := host.advance script.poll passed script.refusal
  let offered := if turn.offered.isSome then script.offered + 1 else script.offered
  (turn, { script with polls := script.polls.tail, offered := offered })

def accepted (script : Script) (turn : Turn G) : Option Picture :=
  if script.refusal.isSome then none else turn.offered

structure Run (G : Type) where
  host : Host G
  script : Script
  pictures : List Picture
  failure : Option HostFault

/-- Turn after turn without time passing, until the keyboard quits or a device fails. Every turn but the
last uses up a poll, so `polls` bounds their number. -/
def runFrom (pictures : List Picture) : (polls : Nat) → Script → Host G → Run G
  | 0, script, host => ⟨host, script, pictures, none⟩
  | polls + 1, script, host =>
    let (turn, rest) := script.play host 0
    let pictures := pictures ++ (script.accepted turn).toList
    match turn.result with
    | .error fault => ⟨turn.host, rest, pictures, some fault⟩
    | .ok false => ⟨turn.host, rest, pictures, none⟩
    | .ok true => runFrom pictures polls rest turn.host

def run (script : Script) (host : Host G) : Run G :=
  runFrom [] (script.polls.length + 1) script host

end Script

end SpriteMachine
