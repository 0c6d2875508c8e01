import CaptureRig.Command

namespace CaptureRig.Console

/-- What a key asks for. -/
inductive Action where
  | command (c : Command)
  | printStatus
  | quit
  | ignore
  | unknown (c : Char)
  deriving Repr, DecidableEq

def Action.ofChar (c : Char) : Action :=
  if c = 's' then .command .startScan
  else if c = 'e' then .command .stopScan
  else if c = 'p' then .printStatus
  else if c = 'q' then .quit
  else if Text.isBlank c then .ignore
  else .unknown c

inductive KeyKind where
  | press
  | release
  | hold
  deriving Repr, DecidableEq

/-- A key event. Keys such as Enter or an arrow carry no character. -/
structure Key where
  char? : Option Char
  control : Bool := false
  kind : KeyKind := .press

/-- Releases and repeats are ignored, and so are keys without a character. While the console takes single keys it
also sees the interrupt key, which quits. -/
def Action.ofKey (key : Key) : Action :=
  if key.kind ≠ .press then .ignore
  else match key.char? with
    | none => .ignore
    | some c => if c = 'c' ∧ key.control then .quit else .ofChar c

/-- Read keys until one asks to quit or the keys end; a poll may bring no key. The commands read, in order, and
whether quitting was asked for. -/
def read : List (Option Key) → List Command × Bool
  | [] => ([], false)
  | none :: keys => read keys
  | some key :: keys =>
    match Action.ofKey key with
    | .command c =>
      let (commands, quit) := read keys
      (c :: commands, quit)
    | .quit => ([], true)
    | _ => read keys

/-- Read keys unless shutting down has already been asked for. -/
def session (shutdown : Bool) (keys : List (Option Key)) : List Command × Bool :=
  if shutdown then ([], true) else read keys

end CaptureRig.Console
