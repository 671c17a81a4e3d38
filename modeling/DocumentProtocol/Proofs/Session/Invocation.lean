import DocumentProtocol.Proofs.Session.Conversation
import DocumentProtocol.Proofs.Session.Recording

/-!
# Each request is handled once

`Service.Invokes` says which calls of handlers a client brings about that sends some frames. The
frames are looked at in order, up to the first that is turned away or whose reply cannot be written.
A request calls the handler of the first responder that accepts it, with its query and what its body
said, and with the backend as the requests before it left it; a request that is above the limit or
that nobody accepts calls none. Whether the client waits for a reply makes no difference.

The main statement is that these are the calls that are made in a calm run, in this order and no
others. The log of the recording service grows along a run. It is compared with the rules where the
run stops, which every run does, and there what is shared is that of the transcript.
-/

namespace DocumentProtocol

variable {Backend : Type}

namespace Service

/-- The calls of handlers that come of some frames, given the backend before the first. -/
inductive Invokes (service : Service Backend) :
    List Frame → Backend → List (Invocation Backend) → Prop where
  | ended {backend : Backend} : Invokes service [] backend []
  | refused {frame : Frame} {frames : List Frame} {backend : Backend} {error : ProtocolError}
      (refuses : frame.Refuses error) : Invokes service (frame :: frames) backend []
  | unwritable {frame : Frame} {frames : List Frame} {request : Request} {document : Document}
      {backend between : Backend} {calls : List (Invocation Backend)} {error : ProtocolError}
      (carries : frame.Carries request) (called : service.Calls request backend calls)
      (resolves : service.Resolves request backend document between)
      (awaits : request.AwaitsReply) (cannot : request.CannotReply document error) :
      Invokes service (frame :: frames) backend calls
  | next {frame : Frame} {frames : List Frame} {request : Request} {document : Document}
      {backend between : Backend} {calls others : List (Invocation Backend)}
      (carries : frame.Carries request) (called : service.Calls request backend calls)
      (resolves : service.Resolves request backend document between)
      (writable : request.AwaitsReply → ∀ error, ¬request.CannotReply document error)
      (rest : Invokes service frames between others) :
      Invokes service (frame :: frames) backend (calls ++ others)

theorem exists_invokes (service : Service Backend) (frames : List Frame) (backend : Backend) :
    ∃ calls, service.Invokes frames backend calls := by
  induction frames generalizing backend with
  | nil => exact ⟨[], .ended⟩
  | cons frame frames ih =>
      rcases frame.carries_or_refuses with ⟨request, carries⟩ | ⟨error, refuses⟩
      · rcases service.exists_resolves request backend with ⟨document, between, resolves⟩
        rcases service.exists_calls request backend with ⟨calls, called⟩
        by_cases stops : request.AwaitsReply ∧ ∃ error, request.CannotReply document error
        · rcases stops with ⟨awaits, error, cannot⟩
          exact ⟨calls, .unwritable carries called resolves awaits cannot⟩
        · rcases ih between with ⟨others, rest⟩
          refine ⟨calls ++ others, .next carries called resolves ?_ rest⟩
          intro awaits error cannot
          exact stops ⟨awaits, error, cannot⟩
      · exact ⟨[], .refused refuses⟩

/-- What a recording service has in its log at the end of a stream. -/
theorem Invokes.log_transcript {service : Service Backend} {stream leftover : Bytes}
    {frames : List Frame} {backend : Backend} {calls : List (Invocation Backend)}
    {shared : SharedState Backend} (invokes : service.Invokes frames backend calls)
    (split : Frame.Split service.maxMessageSize stream frames leftover)
    (backend_eq : shared.backend = backend) (log : List (Invocation Backend)) :
    (service.recording.transcript stream (shared.withLog log)).shared.backend.log =
      log ++ calls := by
  induction invokes generalizing stream shared log with
  | ended =>
      have recorded : Frame.Split service.recording.maxMessageSize stream [] leftover := split
      rw [transcript_of_split_nil recorded]
      simp [Transcript.ofError, SharedState.withLog]
  | @refused frame frames backend error refuses =>
      rcases split.uncons with ⟨rest, rfl, acceptable, _⟩
      have acceptable : frame.IsAcceptable service.recording.maxMessageSize := acceptable
      have refused : service.answer frame.header frame.body
          (shared.count (.requestReceived frame.header.length.toInt.toNat)) =
            (.error error, shared.count (.requestReceived frame.header.length.toInt.toNat)) := by
        rw [answer, Frame.ofMessage_of_refuses refuses]
      rw [transcript_of_acceptable acceptable, ← SharedState.withLog_count,
        answer_recording_of_refuses refuses refused log]
      simp [transcriptAfter, Transcript.ofError, SharedState.withLog]
  | @unwritable frame frames request document backend between calls error carries called resolves
      awaits cannot =>
      subst backend_eq
      rcases split.uncons with ⟨rest, rfl, acceptable, _⟩
      have acceptable : frame.IsAcceptable service.recording.maxMessageSize := acceptable
      rw [transcript_of_acceptable acceptable, ← SharedState.withLog_count]
      generalize counted_eq : shared.count _ = counted
      have found : counted.backend = shared.backend := by rw [← counted_eq]; rfl
      rw [← found] at called
      rcases answer_of_awaitsReply carries resolves found awaits with ⟨after, answered, _, _⟩
      rw [Request.replyFrame_of_cannotReply (Request.isAnswered_of_awaitsReply awaits) cannot]
        at answered
      rw [answer_recording_of_carries carries called answered log]
      simp [transcriptAfter, Transcript.ofError, SharedState.withLog]
  | @next frame frames request document backend between calls others carries called resolves
      writable rest ih =>
      subst backend_eq
      rcases split.uncons with ⟨rest, rfl, acceptable, split⟩
      have acceptable : frame.IsAcceptable service.recording.maxMessageSize := acceptable
      rw [← List.append_assoc, transcript_of_acceptable acceptable, ← SharedState.withLog_count]
      generalize counted_eq : shared.count _ = counted
      have found : counted.backend = shared.backend := by rw [← counted_eq]; rfl
      rw [← found] at called
      rcases request.awaitsReply_or_isSilent with awaits | silent
      · rcases answer_of_awaitsReply carries resolves found awaits with
          ⟨after, answered, between_eq, _⟩
        rcases request.exists_reply_or_cannotReply document frame.header.requestId
          counted.nextReplyId with ⟨reply, isReply⟩ | ⟨error, cannot⟩
        · rw [Request.replyFrame_of_isReply (Request.isAnswered_of_awaitsReply awaits) isReply]
            at answered
          rw [answer_recording_of_carries carries called answered log]
          have sent_backend : (after.count (.replySent reply.size)).backend = between := between_eq
          exact ih split sent_backend (log ++ calls)
        · exact absurd cannot (writable awaits error)
      · rcases answer_of_isSilent carries resolves found silent with
          ⟨after, answered, between_eq, _⟩
        rw [answer_recording_of_carries carries called answered log]
        exact ih split between_eq (log ++ calls)

end Service

namespace Exchange

/-- Where a calm run can go no further, all calls that are due have been made. -/
theorem log_of_stuck {service : Service Backend} {shared : SharedState Backend}
    {stream leftover : Bytes} {frames : List Frame} {calls : List (Invocation Backend)}
    {capacity : Nat} {last : Exchange × SharedState (Recorded Backend)} (positive : 0 < capacity)
    (split : Frame.Split service.maxMessageSize stream frames leftover)
    (invokes : service.Invokes frames shared.backend calls)
    (run : CalmlyReaches service.recording (offering capacity stream, shared.withLog []) last)
    (stuck : ∀ next, ¬CalmMove service.recording last next) : last.2.backend.log = calls := by
  have fatal := service.recording.not_isInterruption_transcript stream (shared.withLog [])
  have start : OnCourse service.recording _ (offering capacity stream, shared.withLog []) :=
    onCourse_offering positive stream (shared.withLog [])
  rcases (start.calmlyReaches fatal run).eq_of_stuck fatal stuck with ⟨_, _, shared_eq⟩
  rw [shared_eq]
  exact invokes.log_transcript split rfl []

/--
The handlers that are called when a client sends a stream and finishes are those that the frames
call for, however the sending, the serving and the receiving are interleaved: the calls that have
been made are always a beginning of those that are due, and all of them where a run stops. The runs
that are recorded are those that there are.
-/
theorem calm_runs_invoke (service : Service Backend) (shared : SharedState Backend)
    (stream : Bytes) (capacity : Nat) (positive : 0 < capacity) :
    ∃ frames leftover calls,
      Frame.Split service.maxMessageSize stream frames leftover ∧
      service.Invokes frames shared.backend calls ∧
      Acc (fun after before => CalmMove service.recording before after)
        (offering capacity stream, shared.withLog []) ∧
      (∀ state, CalmlyReaches service.recording (offering capacity stream, shared.withLog [])
          state →
        state.2.backend.log <+: calls ∧
          ((∀ next, ¬CalmMove service.recording state next) → state.2.backend.log = calls) ∧
          CalmlyReaches service (offering capacity stream, shared) (state.1, state.2.forget)) ∧
      ∀ state, CalmlyReaches service (offering capacity stream, shared) state →
        ∃ log, CalmlyReaches service.recording (offering capacity stream, shared.withLog [])
          (state.1, state.2.withLog log) := by
  rcases Frame.exists_split service.maxMessageSize stream with ⟨frames, leftover, split⟩
  rcases service.exists_invokes frames shared.backend with ⟨calls, invokes⟩
  refine ⟨frames, leftover, calls, split, invokes,
    (wellFounded_calmMove service.recording).apply _, ?_, ?_⟩
  · intro state run
    rcases exists_stuck service.recording state with ⟨last, rest, stuck⟩
    have all := log_of_stuck positive split invokes (run.trans rest) stuck
    refine ⟨?_, ?_, run.forget.1⟩
    · rw [← all]
      exact rest.forget.2
    · intro stuck
      exact log_of_stuck positive split invokes run stuck
  · intro state run
    rcases run.recording [] with ⟨log, recorded⟩
    exact ⟨log, recorded⟩

/-- A responder that counts requests, and fails at the first. -/
def counter : Responder Nat where
  name := "count"
  accepts := Predicate.any
  handle _ _ count := (if count = 0 then .error (.internal "first") else .ok [], count + 1)

/-- A service whose second responder is never asked. -/
def counting : Service Nat where
  registry := ⟨[counter, ⟨"late", Predicate.any, Registry.always []⟩]⟩
  maxMessageSize := 100
  maxDocumentSize := 100
  idleTimeout := 0
  writeTimeout := 0

/-- A sectioned message with the empty document that asks for no reply. -/
def hushed (requestId : Int32) : Frame where
  header := ⟨26, requestId, 0, 2013⟩
  body := [2, 0, 0, 0, 0, 5, 0, 0, 0, 0]

theorem split_hushed :
    Frame.Split 100 ((hushed 5).bytes ++ (blank 7 0).bytes) [hushed 5, blank 7 0] [] := by
  apply Frame.Split.cons _ split_blank
  exact ⟨by decide, by decide⟩

def countingCalls : List (Invocation Nat) :=
  [⟨counter, [], { requestId := 5, flags := 2, moreToCome := true, largestDocument := 5 }, 0⟩,
    ⟨counter, [], { requestId := 7, largestDocument := 5 }, 1⟩]

theorem invokes_hushed : counting.Invokes [hushed 5, blank 7 0] 0 countingCalls := by
  have hushed_carries : (hushed 5).Carries
      ⟨.msg, [], { requestId := 5, flags := 2, moreToCome := true, largestDocument := 5 }⟩ :=
    ⟨.msg, by decide, by cbv⟩
  have blank_carries : (blank 7 0).Carries
      ⟨.msg, [], { requestId := 7, largestDocument := 5 }⟩ :=
    ⟨.msg, by decide, by cbv⟩
  have first (query : Document) : counting.registry.IsFirst query counter :=
    ⟨rfl, [], _, rfl, by simp⟩
  apply Service.Invokes.next hushed_carries (.once (by decide) (first _))
    (.failed (by decide) (first _) rfl)
  · intro awaits
    rcases awaits with query | ⟨_, clear⟩
    · cases query
    · cases clear
  · apply Service.Invokes.next blank_carries (.once (by decide) (first _))
      (.handled (by decide) (first _) rfl) _ .ended
    intro awaits error
    have isReply : Request.IsReply ⟨.msg, [], { requestId := 7, largestDocument := 5 }⟩ [] 7 1
        (blank 1 7) :=
      { length_eq := by decide
        requestId_eq := rfl
        responseTo_eq := rfl
        opcode_eq := by decide
        body_eq := ⟨[5, 0, 0, 0, 0], by cbv, by decide⟩ }
    exact isReply.not_cannotReply rfl

theorem calm_runs_invoke_hushed :
    0 < 1 ∧ ∀ state,
      CalmlyReaches counting.recording
          (offering 1 ((hushed 5).bytes ++ (blank 7 0).bytes),
            ({ backend := 0 } : SharedState Nat).withLog []) state →
        (∀ next, ¬CalmMove counting.recording state next) →
          state.2.backend.log = countingCalls := by
  refine ⟨by decide, ?_⟩
  intro state run stuck
  rcases calm_runs_invoke counting { backend := 0 } _ 1 (by decide) with
    ⟨frames, leftover, calls, split, invokes, _, runs, _⟩
  have logged := invokes.log_transcript split rfl []
  rw [invokes_hushed.log_transcript split_hushed rfl []] at logged
  rw [(runs state run).2.1 stuck]
  simpa using logged.symm

end Exchange

end DocumentProtocol
