import DocumentProtocol.Frame.Receiver

/-!
# Links

A client writes bytes to a link and reads frames from it. What lies behind the link is a state of
its own: `Counterpart` is a far end that does only what it is told, and a connection that serves the
client is another.

Writing takes as many bytes as the far end takes without being read from, and reading lets a
receiver take in what arrives until the receiver has an answer or nothing more comes.
-/

namespace DocumentProtocol

/-- A two-way link to a far end in some state. -/
structure Link (State : Type) where
  /-- Writes bytes and gives back those that could not be written. -/
  write : Bytes → State → Bytes × State
  isCut : State → Bool
  /-- Asks a receiver with a limit for a frame; nothing if the receiver waits. -/
  read : Nat → Frame.Receiver → State → Option Frame.Receiver.Answer × Frame.Receiver × State

/-- A far end that does only what it is told. -/
structure Counterpart where
  received : Bytes := []
  unread : Bytes := []
  hasLeft : Bool := false
  deriving DecidableEq, Repr

namespace Counterpart

def write (bytes : Bytes) (counterpart : Counterpart) : Counterpart :=
  { counterpart with unread := counterpart.unread ++ bytes }

def leave (counterpart : Counterpart) : Counterpart := { counterpart with hasLeft := true }

def clear (counterpart : Counterpart) : Counterpart := { counterpart with received := [] }

def accept (bytes : Bytes) (counterpart : Counterpart) : Bytes × Counterpart :=
  if counterpart.hasLeft then (bytes, counterpart)
  else ([], { counterpart with received := counterpart.received ++ bytes })

def supply (limit : Nat) (receiver : Frame.Receiver) (counterpart : Counterpart) :
    Option Frame.Receiver.Answer × Frame.Receiver × Counterpart :=
  match receiver.receive limit counterpart.unread counterpart.hasLeft with
  | (some (answer, rest), receiver) => (some answer, receiver, { counterpart with unread := rest })
  | (none, receiver) => (none, receiver, { counterpart with unread := [] })

def link : Link Counterpart where
  write := accept
  isCut := hasLeft
  read := supply

end Counterpart

end DocumentProtocol
