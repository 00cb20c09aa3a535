/-
A connection that is not a channel yet has rules of its own. A channel passes on the events that
the server sends unasked, and gives up over a compressed frame. Before the agreement an event
counts as a reply, and as a wrong one, while the flags of a reply are not looked at.
-/

import CqlDriver.Proofs.Channel.Agreement

namespace CqlDriver

def Frame.isNews (frame : Frame) : Bool := frame.isPush && decide (frame.opcode = .event)

def Frame.unflagged (frame : Frame) : Frame := { frame with flags := 0 }

namespace Handshake

def place : Handshake → String
  | .startup => "in answer to STARTUP"
  | .authenticating .. => "during authentication"
  | .registering => "in answer to REGISTER"

variable {config : ChannelConfig} {address : SocketAddress} {word : List Frame}
  {tokens : List (List UInt8)} {authenticator : Authenticator} {className : String}
  {challenges : List (Option (List UInt8))}

theorem take_event {push : Frame} (isEvent : push.opcode = .event) (stage : Handshake) :
    stage.take config address push = .failed (failure s!"unexpected Event {stage.place}") := by
  cases stage with
  | startup =>
      unfold take onReply onStartupReply unexpected
      rw [isEvent]
      rfl
  | authenticating authenticator className challenges =>
      unfold take onReply onTokenReply unexpected
      rw [isEvent]
      rfl
  | registering =>
      unfold take onReply onRegisterReply unexpected
      rw [isEvent]
      rfl

theorem take_unflagged (stage : Handshake) (reply : Frame) :
    stage.take config address reply.unflagged = stage.take config address reply := by
  cases stage <;> rfl

/-- A run over replies without their flags ends as the run over the replies does. -/
theorem answer_unflagged (config : ChannelConfig) (address : SocketAddress) (stage : Handshake)
    (replies : List Frame) :
    stage.answer config address (replies.map Frame.unflagged) =
      ((stage.answer config address replies).1,
        (stage.answer config address replies).2.map (List.map Frame.unflagged)) := by
  induction replies generalizing stage with
  | nil => rfl
  | cons reply rest ih =>
      rw [List.map_cons, answer_cons, answer_cons, take_unflagged]
      cases stage.take config address reply with
      | done => rfl
      | failed error => rfl
      | ask frame next =>
          have later := ih next
          unfold proceed
          dsimp only
          rw [later]

theorem not_event {reply : Frame} {opcode : Opcode} (named : reply.opcode = opcode)
    (differs : opcode ≠ .event) : ∀ other ∈ [reply], other.opcode ≠ .event :=
  List.forall_mem_singleton.mpr (named ▸ differs)

theorem Proving.no_event
    (proving : Proving config address word tokens authenticator className challenges) :
    ∀ reply ∈ word, reply.opcode ≠ .event := by
  induction proving with
  | demanded demand => exact not_event demand nofun
  | challenged before asks readable gave ih =>
      exact List.forall_mem_append.mpr ⟨ih, not_event asks nofun⟩

theorem Trusted.no_event (trust : Trusted config address word tokens) :
    ∀ reply ∈ word, reply.opcode ≠ .event := by
  cases trust with
  | ready isReady => exact not_event isReady nofun
  | accepted proving accepts =>
      exact List.forall_mem_append.mpr ⟨proving.no_event, not_event accepts nofun⟩

/-- No event is part of a word of the language. -/
theorem Agreed.no_event (agreed : Agreed config address word tokens) :
    ∀ reply ∈ word, reply.opcode ≠ .event := by
  cases agreed with
  | trusted unwanted trust => exact trust.no_event
  | registered wanted trust isReady =>
      exact List.forall_mem_append.mpr ⟨trust.no_event, not_event isReady nofun⟩

def quiet (replies : List Frame) : List Frame := replies.filter fun reply => !reply.isNews

theorem quiet_of_no_event (none : ∀ reply ∈ word, reply.opcode ≠ .event) : quiet word = word := by
  refine List.filter_eq_self.mpr fun reply member => ?_
  unfold Frame.isNews
  rw [decide_eq_false (none reply member), Bool.and_false]
  rfl

end Handshake

namespace Opening

open Handshake

theorem conclude_failed {result : Except DriverError (List Frame)} (change : List Frame → List Frame)
    (error : DriverError) :
    conclude result = .failed error ↔ result.map change = .error error := by
  cases result with
  | error other => exact ⟨fun same => by cases same; rfl, fun same => by cases same; rfl⟩
  | ok others => exact ⟨nofun, nofun⟩

theorem conclude_agreed {result : Except DriverError (List Frame)}
    (change : List Frame → List Frame) :
    (∃ unread, conclude result = .agreed unread) ↔ ∃ others, result.map change = .ok others := by
  cases result with
  | error other => exact ⟨nofun, nofun⟩
  | ok others => exact ⟨fun _ => ⟨_, rfl⟩, fun _ => ⟨_, rfl⟩⟩

/-- Before the agreement an event of the server ends a connection as a wrong reply, whatever is
awaited, and nothing more is sent. Where there is an agreement all the same, no event came before
it, and the same agreement is come to without the events. What the flags of the replies say, that
a frame is compressed among other things, does not matter. -/
theorem handshake_reads_opcodes_alone (config : ChannelConfig) (address : SocketAddress)
    (replies : List Frame) (legible : ∀ reply ∈ replies, reply.Legible)
    (chunks : List (List UInt8)) (whole : chunks.flatten = replies.flatMap Frame.encode) :
    let progress := handshake config address chunks
    (∀ before push later tokens stage, replies = before ++ push :: later →
        push.opcode = .event → Awaiting config address before tokens stage →
        progress.state = .failed (failure s!"unexpected Event {stage.place}") ∧
          progress.frames = sent config tokens stage) ∧
      (∀ word others tokens, replies = word ++ others → Agreed config address word tokens →
        (∀ reply ∈ word, reply.opcode ≠ .event) ∧
          ∀ otherChunks, otherChunks.flatten = (quiet replies).flatMap Frame.encode →
            let undisturbed := handshake config address otherChunks
            undisturbed.frames = progress.frames ∧
              progress.state = .agreed (others.flatMap Frame.encode) ∧
              undisturbed.state = .agreed ((quiet others).flatMap Frame.encode)) ∧
      (∀ (flagged : List Frame) (otherChunks : List (List UInt8)),
        flagged.map Frame.unflagged = replies.map Frame.unflagged →
        (∀ reply ∈ flagged, reply.Legible) →
        otherChunks.flatten = flagged.flatMap Frame.encode →
        let other := handshake config address otherChunks
        other.frames = progress.frames ∧
          (∀ error, other.state = .failed error ↔ progress.state = .failed error) ∧
          ((∃ unread, other.state = .agreed unread) ↔
            ∃ unread, progress.state = .agreed unread)) := by
  intro progress
  obtain ⟨frames, state⟩ := handshake_eq config address legible whole
  refine ⟨?_, ?_, ?_⟩
  · rintro before push later tokens stage rfl isEvent awaiting
    rw [dialogue_of_awaiting awaiting, answer_cons, take_event isEvent] at frames state
    exact ⟨state, frames.trans (List.append_nil _)⟩
  · rintro word others tokens rfl agreed
    refine ⟨agreed.no_event, fun otherChunks otherWhole => ?_⟩
    have calm : quiet (word ++ others) = word ++ quiet others := by
      change List.filter _ (word ++ others) = _
      rw [List.filter_append]
      exact congrArg (· ++ quiet others) (quiet_of_no_event agreed.no_event)
    have fewer : ∀ reply ∈ quiet (word ++ others), reply.Legible := fun reply member =>
      legible reply (List.mem_filter.mp member).1
    obtain ⟨otherFrames, otherState⟩ := handshake_eq config address fewer otherWhole
    rw [dialogue_of_agreed agreed] at frames state
    rw [calm, dialogue_of_agreed agreed] at otherFrames otherState
    exact ⟨otherFrames.trans frames.symm, state, otherState⟩
  · intro flagged otherChunks same otherLegible otherWhole
    obtain ⟨otherFrames, otherState⟩ := handshake_eq config address otherLegible otherWhole
    unfold dialogue at otherFrames otherState frames state
    dsimp only at otherFrames otherState frames state
    have first := answer_unflagged config address .startup flagged
    have second := answer_unflagged config address .startup replies
    rw [same, second] at first
    have sameFrames := congrArg Prod.fst first
    have sameResult := congrArg Prod.snd first
    dsimp only at sameFrames sameResult
    refine ⟨?_, fun error => ?_, ?_⟩
    · rw [otherFrames, ← sameFrames]
      exact frames.symm
    · rw [otherState, conclude_failed (List.map Frame.unflagged), ← sameResult,
        ← conclude_failed, ← state]
    · rw [otherState, conclude_agreed (List.map Frame.unflagged), ← sameResult,
        ← conclude_agreed, ← state]

def listener : ChannelConfig := { examined with authenticator := none }

def news : Frame :=
  .response 4 (-1) .event (ServerEvent.status .up { ip := .ofParts 10 0 0 2, port := 9042 }).body

/-- The server has taken up the request for events, and sends one before it says so. -/
def earlyNews : List Frame := [isReady, news, isReady]

theorem early_news_legible : ∀ reply ∈ earlyNews, reply.Legible := by
  have canonical : ∀ reply ∈ earlyNews, reply.Canonical := by decide
  exact fun reply member => (canonical reply member).legible

theorem early_news_is_a_wrong_reply :
    Awaiting listener examiner [isReady] [] .registering ∧
      (handshake listener examiner [earlyNews.flatMap Frame.encode]).state =
        .failed (failure "unexpected Event in answer to REGISTER") ∧
      (handshake listener examiner [earlyNews.flatMap Frame.encode]).frames =
        [startupFrame listener, registerFrame listener] := by
  have awaiting : Awaiting listener examiner [isReady] [] .registering :=
    .registering rfl (.ready rfl)
  have ends := (handshake_reads_opcodes_alone listener examiner earlyNews early_news_legible
    [earlyNews.flatMap Frame.encode] (List.append_nil _)).1 [isReady] news [isReady] [] .registering
    rfl rfl awaiting
  exact ⟨awaiting, ends.1, ends.2⟩

/-- Without the event there is agreement. A compressed frame brings it about as well as a plain
one, although a channel takes none. -/
theorem rules_differ_before_agreement :
    news.isNews = true ∧
      (handshake listener examiner [earlyNews.flatMap Frame.encode]).state =
        .failed (failure "unexpected Event in answer to REGISTER") ∧
      (handshake listener examiner [(quiet earlyNews).flatMap Frame.encode]).state = .agreed [] ∧
      let compressed := { isReady with flags := Frame.compressionFlag }
      compressed.isCompressed = true ∧
        (handshake listener examiner [[compressed, isReady].flatMap Frame.encode]).state =
          .agreed [] := by
  exact ⟨rfl, rfl, rfl, rfl, rfl⟩

end Opening

end CqlDriver
