import DocumentProtocol.Proofs.Session.Shadow

/-!
# Connections of one server

A connection of a server is served as if it were the only one. Whatever the other connections do
between its steps, whether they are answered, refused or cut off, the client gets the same replies
but for their numbers, as long as no responder looks at the backend that all of them share.

There are three ways to say so. If the connection takes the same steps, the replies are the same at
every moment. If it takes others but is sent the same, the replies that it has given are the same as
far as they go, and the same altogether when it has been served. And there is a run of the server
with this connection alone in which it takes the same steps.
-/

namespace DocumentProtocol

variable {Backend : Type}

open Deed

/-! ### Two lives -/

/-- Whether two logs agree but for the numbers of the replies. -/
structure Deed.Agree (log other : List (Deed Backend)) : Prop where
  frames_eq : frames log = frames other
  answered_eq : (receipts log).map Receipt.frame = (receipts other).map Receipt.frame
  due_eq : (due log).map Frame.unnumbered = (due other).map Frame.unnumbered
  sizes_eq : sizes log = sizes other
  delivered_eq : (delivered log).map Frame.unnumbered = (delivered other).map Frame.unnumbered
  outcomes_eq : outcomes log = outcomes other

namespace Socket

variable {service : Service Backend} {socket other : Socket} {actions otherActions : List Action}
  {log otherLog : List (Deed Backend)}
  {identifier otherIdentifier capacity since otherSince : Nat}

section Lives

variable (ignores : service.registry.IgnoresBackend)
  (life : (Socket.start identifier capacity since).Life service actions log socket)
  (other_life : (Socket.start otherIdentifier capacity otherSince).Life service otherActions
    otherLog other)

include ignores life other_life

/-- On two connections with the same steps, the same is done but for the numbers of replies. -/
theorem Life.agree (same : actions.map Action.untimed = otherActions.map Action.untimed) :
    Deed.Agree log otherLog := by
  have started := alike_start identifier otherIdentifier capacity since otherSince
  rcases life.alike ignores started other_life same with ⟨alike, logs⟩
  have answered_eq : (receipts log).map Receipt.frame = (receipts otherLog).map Receipt.frame := by
    have frames_eq := logs.frames_eq
    rw [life.frames_eq, other_life.frames_eq, alike.connection.phase.current?_eq] at frames_eq
    exact List.append_cancel_right frames_eq
  have due_eq := Deed.due_eq ignores life.issues other_life.issues answered_eq
  refine ⟨logs.frames_eq, answered_eq, due_eq, logs.sizes_eq, ?_, ?_⟩
  · rw [delivered, delivered, Frame.map_unnumbered_complete, Frame.map_unnumbered_complete,
      logs.length_eq, due_eq]
  · have phases := alike.connection.phase
    rw [life.outcomes_eq, other_life.outcomes_eq]
    generalize socket.connection.phase = phase at phases ⊢
    generalize other.connection.phase = otherPhase at phases ⊢
    cases phases <;> rfl

/-- On two connections of which one is sent what the other is, and perhaps more, one gets more. -/
theorem Life.comparable_delivered (front : stream log <+: stream otherLog) :
    Frame.Comparable ((delivered log).map Frame.unnumbered)
      ((delivered otherLog).map Frame.unnumbered) := by
  rcases life.follows.exists_part with ⟨rest, part⟩
  rcases other_life.follows.exists_part with ⟨leftover, other_part⟩
  apply Deed.comparable_delivered
  have comparable := part.comparable other_part front
  exact comparable_due ignores life.issues other_life.issues
    (comparable.of_isPrefix life.answered_isPrefix other_life.answered_isPrefix)

/-- Two connections that are sent the same have the same replies in the end. -/
theorem Life.delivered_eq_of_isServed (served : socket.IsServed) (other_served : other.IsServed)
    (stream_eq : stream log = stream otherLog) :
    (delivered log).map Frame.unnumbered = (delivered otherLog).map Frame.unnumbered := by
  rcases life.follows.exists_part with ⟨rest, part⟩
  rcases other_life.follows.exists_part with ⟨leftover, other_part⟩
  have answered := life.answered_of_isServed served
  have other_answered := other_life.answered_of_isServed other_served
  have frames_eq : frames log = frames otherLog := by
    rcases part.comparable other_part (by rw [stream_eq]) with front | front
    · exact frames_eq_of_isServed ignores life.follows other_life.follows other_life.account
        life.issues other_life.issues served answered other_answered stream_eq front
    · exact (frames_eq_of_isServed ignores other_life.follows life.follows life.account
        other_life.issues life.issues other_served other_answered answered stream_eq.symm
        front).symm
  rw [answered, other_answered] at frames_eq
  rw [life.delivered_eq served, other_life.delivered_eq other_served]
  exact Deed.due_eq ignores life.issues other_life.issues frames_eq

end Lives

end Socket

/-! ### Two runs -/

namespace Entry

/-- How a connection that one journal tells of compares to one that another journal tells of. -/
structure ServesAlike (service : Service Backend) (capacity id otherId : Nat)
    (journal other : List (Entry Backend)) : Prop where
  /-- The two take the same steps, whatever else happens in between. -/
  of_story : (story id journal).map Socket.Action.untimed =
      (story otherId other).map Socket.Action.untimed →
    Deed.Agree (log id journal) (log otherId other)
  /-- What the client has received are the replies delivered to it and the beginning of the next. -/
  received_eq : ∃ begun, received (log id journal) =
      Frame.allBytes (delivered (log id journal)) ++ begun ∧
    ∀ next rest, due (log id journal) = delivered (log id journal) ++ next :: rest →
      begun.length < next.size
  of_stream : stream (log id journal) <+: stream (log otherId other) →
    Frame.Comparable ((delivered (log id journal)).map Frame.unnumbered)
      ((delivered (log otherId other)).map Frame.unnumbered)
  of_served : ∀ since actions socket otherSince otherActions otherSocket,
    Tells service capacity id journal since actions socket →
    Tells service capacity otherId other otherSince otherActions otherSocket →
    socket.IsServed → otherSocket.IsServed →
    stream (log id journal) = stream (log otherId other) →
    (delivered (log id journal)).map Frame.unnumbered =
      (delivered (log otherId other)).map Frame.unnumbered

variable {service : Service Backend} {capacity id otherId : Nat}
  {journal other : List (Entry Backend)}

theorem log_of_untold (untold : ofId id journal = []) : log id journal = [] := by
  rw [log, untold]
  rfl

theorem story_of_untold (untold : ofId id journal = []) : story id journal = [] := by
  rw [story, untold]
  rfl

theorem servesAlike (ignores : service.registry.IgnoresBackend)
    (told : ofId id journal = [] ∨
      ∃ since actions socket, Tells service capacity id journal since actions socket)
    (other_told : ofId otherId other = [] ∨
      ∃ since actions socket, Tells service capacity otherId other since actions socket) :
    ServesAlike service capacity id otherId journal other where
  of_story same := by
    rcases told with untold | ⟨_, _, _, tells⟩
    · rcases other_told with other_untold | ⟨_, _, _, other_tells⟩
      · rw [log_of_untold untold, log_of_untold other_untold]
        exact ⟨rfl, rfl, rfl, rfl, rfl, rfl⟩
      · rw [story_of_untold untold, other_tells.story_eq] at same
        cases same
    · rcases other_told with other_untold | ⟨_, _, _, other_tells⟩
      · rw [story_of_untold other_untold, tells.story_eq] at same
        cases same
      · rw [tells.story_eq, other_tells.story_eq] at same
        exact tells.life.agree ignores other_tells.life (List.cons.inj same).2
  received_eq := by
    rcases told with untold | ⟨_, _, _, tells⟩
    · rw [log_of_untold untold]
      exact ⟨[], rfl, by simp [due]⟩
    · exact tells.life.received_eq
  of_stream front := by
    rcases told with untold | ⟨_, _, _, tells⟩
    · rw [log_of_untold untold]
      exact .inl List.nil_prefix
    · rcases other_told with other_untold | ⟨_, _, _, other_tells⟩
      · rw [log_of_untold other_untold]
        exact .inr List.nil_prefix
      · exact tells.life.comparable_delivered ignores other_tells.life front
  of_served _ _ _ _ _ _ tells other_tells served other_served stream_eq :=
    tells.life.delivered_eq_of_isServed ignores other_tells.life served other_served stream_eq

end Entry

namespace Server

variable {config : Config} {registry : Registry Backend} {backend otherBackend : Backend}
  {capacity : Nat} {events otherEvents : List Event} {server other : Server Backend}

/--
If no responder looks at the backend, a connection is served the same in any two runs of a server,
whatever happens on the other connections and when, and as it is on a server that has no other.
-/
theorem served_in_isolation (ignores : registry.IgnoresBackend)
    (run_eq : (start config registry backend capacity).run events = some server)
    (other_run_eq : (start config registry otherBackend capacity).run otherEvents = some other)
    (id otherId : Nat) :
    Entry.ServesAlike (Service.ofConfig config registry) capacity id otherId
        ((start config registry backend capacity).journal events)
        ((start config registry otherBackend capacity).journal otherEvents) ∧
      ∃ aloneEvents alone, (start config registry backend capacity).Tracks
        ((start config registry backend capacity).journal events) id aloneEvents alone ∧
        Deed.Agree (Entry.log id ((start config registry backend capacity).journal events))
          (Entry.log 0 ((start config registry backend capacity).journal aloneEvents)) := by
  have told := untold_or_tells run_eq id
  refine ⟨Entry.servesAlike ignores told (untold_or_tells other_run_eq otherId), ?_⟩
  rcases exists_shadow ignores run_eq id with ⟨aloneEvents, alone, tracks⟩
  refine ⟨aloneEvents, alone, tracks, ?_⟩
  exact (Entry.servesAlike ignores told (untold_or_tells tracks.run_eq 0)).of_story
    tracks.story_eq.symm

/-- A responder that keeps count of the requests and says nothing about it. -/
def counting : Registry Nat := ⟨[⟨"count", Predicate.any, fun _ _ number => (.ok [], number + 1)⟩]⟩

def census : Server Nat := .start {} counting 0 100

/-- What a server goes through until it serves the next socket. -/
def admitting : List Event := [.look, .look, .accept, .tally, .enter]

/-- The second client is answered first and then announces a message above the limit. -/
def crowded : List Event :=
  admitting ++ admitting ++
    [.send 1 (Exchange.blank 9 0).bytes, .advance 1, .advance 1, .advance 1,
      .send 0 (Exchange.blank 7 0).bytes, .advance 1, .advance 0,
      .send 1 [255, 255, 255, 127, 0, 0, 0, 0, 0, 0, 0, 0, 0, 0, 0, 0], .advance 1, .advance 0,
      .advance 0, .advance 0, .receive 0 100]

/-- The second client leaves before it has sent anything. -/
def deserted : List Event :=
  admitting ++ [.tick 5, .send 0 (Exchange.blank 7 0).bytes] ++ admitting ++
    [.advance 0, .lose 1, .advance 0, .advance 0, .tick 5, .advance 0, .advance 1, .receive 0 100]

/-- The first client gets the same reply in both runs, as the second reply and as the first. -/
theorem served_in_isolation_crowded :
    (delivered (Entry.log 0 (census.journal crowded))).map (fun frame => frame.header.requestId) =
        [2] ∧
      (delivered (Entry.log 0 (census.journal deserted))).map
        (fun frame => frame.header.requestId) = [1] ∧
      Deed.Agree (Entry.log 0 (census.journal crowded))
        (Entry.log 0 (census.journal deserted)) := by
  have ignores : counting.IgnoresBackend := by
    intro responder mem
    simp only [counting, List.mem_singleton] at mem
    subst mem
    intro _ _ _ _
    rfl
  have ran : (census.run crowded).isSome = true := by cbv
  have other_ran : (census.run deserted).isSome = true := by cbv
  rcases Option.isSome_iff_exists.1 ran with ⟨server, run_eq⟩
  rcases Option.isSome_iff_exists.1 other_ran with ⟨other, other_run_eq⟩
  exact ⟨by cbv, by cbv,
    (served_in_isolation ignores run_eq other_run_eq 0 0).1.of_story (by cbv)⟩

end Server

end DocumentProtocol
