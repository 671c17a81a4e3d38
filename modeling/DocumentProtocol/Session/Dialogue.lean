import DocumentProtocol.Session.Exchange
import DocumentProtocol.Session.Link

/-!
# A client in dialogue with a connection

`Exchange.link` puts a client at the far end of a connection's pipes. What the client writes goes
into the pipe to the connection, and the connection answers until it can only wait. The client takes
nothing out of the other pipe until it asks for a frame; then its receiver takes in what the
connection writes for as long as it needs more, and the rest stays in the pipe.
-/

namespace DocumentProtocol

namespace Exchange

variable {Backend : Type}

def withUnread (exchange : Exchange) (unread : Bytes) : Exchange :=
  { exchange with
    connection :=
      { exchange.connection with
        outbound := { exchange.connection.outbound with content := unread } } }

theorem work_withUnread {exchange : Exchange} {unread : Bytes}
    (fewer : unread.length < exchange.connection.outbound.content.length) :
    Before (exchange.withUnread unread).work exchange.work :=
  .right _ (.right _ fewer)

/-- Lets a receiver take in what the connection writes until it has an answer or both wait. -/
def supply (service : Service Backend) (limit : Nat) (receiver : Frame.Receiver)
    (exchange : Exchange) (shared : SharedState Backend) :
    Option Frame.Receiver.Answer × Frame.Receiver × Exchange × SharedState Backend :=
  match stepped : exchange.step service shared with
  | some (next, after) =>
      have := work_step stepped
      supply service limit receiver next after
  | none =>
      let outbound := exchange.connection.outbound
      match receiver.receive limit outbound.content outbound.isFinished with
      | (some (answer, rest), receiver) =>
          (some answer, receiver, (exchange.withUnread rest).settle service shared)
      | (none, receiver) =>
          if present : outbound.content = [] then (none, receiver, exchange, shared)
          else
            have : Before (exchange.withUnread []).work exchange.work :=
              work_withUnread (List.length_pos_iff.2 present)
            supply service limit receiver (exchange.withUnread []) shared
termination_by exchange.work
decreasing_by all_goals exact this

/-- The link of a client to the connection of an exchange. -/
def link (service : Service Backend) : Link (Exchange × SharedState Backend) where
  write bytes state :=
    let (report, exchange, shared) := state.1.act service (.send bytes) false state.2
    (report.unsent, exchange, shared)
  isCut state := state.1.connection.inbound.isAbandoned
  read limit receiver state :=
    supply service limit receiver { state.1 with isReading := false } state.2

end Exchange

end DocumentProtocol
