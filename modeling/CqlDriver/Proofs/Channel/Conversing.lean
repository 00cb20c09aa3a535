/-
A connection on its way to become a channel, from the first byte that the server sends to the
last one. How the bytes are cut into chunks is no matter, and bytes that are the images of
frames are answered frame by frame.
-/

import CqlDriver.Channel.Opening
import CqlDriver.Proofs.Wire.RoundTrip

namespace CqlDriver

namespace Handshake

/-- What a reply leads to. One of unknown operation is not understood at any stage. -/
def take (config : ChannelConfig) (address : SocketAddress) (stage : Handshake) (reply : Frame) :
    HandshakeStep :=
  match reply.opcode with
  | .unknown code => .failed (.unsupportedFrame code reply.stream)
  | _ => (stage.onReply config address reply).2

/-- The frames that are sent in answer to these replies, with the end of the connection behind
them, and the replies that are left when there is agreement. -/
def answer (config : ChannelConfig) (address : SocketAddress) (stage : Handshake) :
    List Frame → List Frame × Except DriverError (List Frame)
  | [] => ([], .error (endedEarly address))
  | reply :: rest =>
      match stage.take config address reply with
      | .done => ([], .ok rest)
      | .failed error => ([], .error error)
      | .ask frame next =>
          let (frames, result) := next.answer config address rest
          (frame :: frames, result)

end Handshake

namespace Opening

def settle (opening : Opening) (ended : Bool) : OpeningProgress :=
  opening.advance ended (opening.unread.length + 1)

/-- What comes of an opening if the bytes of the server arrive in these chunks, and the server
ends the connection then. The chunks behind an agreement are left to the channel. -/
def converse (opening : Opening) : List (List UInt8) → OpeningProgress
  | [] => opening.receive [] true
  | chunk :: rest =>
      let progress := opening.receive chunk false
      match progress.state with
      | .waiting opening => after progress.authentication progress.frames (opening.converse rest)
      | .agreed unread => { progress with state := .agreed (unread ++ rest.flatten) }
      | .failed _ => progress

def resume (back : List UInt8) (progress : OpeningProgress) : OpeningProgress :=
  match progress.state with
  | .waiting opening =>
      after progress.authentication progress.frames
        ({ opening with unread := opening.unread ++ back }.settle true)
  | .agreed unread => { progress with state := .agreed (unread ++ back) }
  | .failed _ => progress

variable {opening : Opening} {ended : Bool} {reply : Frame} {rest : List UInt8}

/-- More fuel than there are bytes changes nothing. -/
theorem advance_of_enough {fuel other : Nat} (enough : opening.unread.length < fuel)
    (more : opening.unread.length < other) :
    opening.advance ended fuel = opening.advance ended other := by
  induction fuel generalizing opening other with
  | zero => omega
  | succ fuel ih =>
      obtain ⟨other, rfl⟩ : ∃ before, other = before + 1 := ⟨other - 1, by omega⟩
      unfold advance
      cases decoded : Frame.decode opening.unread with
      | needMore missing => rfl
      | oversized length => rfl
      | unsupported code stream rest => rfl
      | frame reply rest =>
          have shorter := Frame.length_of_found (Frame.found?_of_decode decoded)
          dsimp only
          split
          · rfl
          · rfl
          · rename_i frame stage _
            let next : Opening := { opening with stage, unread := rest }
            have enoughLeft : next.unread.length < fuel := by
              change rest.length < fuel
              omega
            have moreLeft : next.unread.length < other := by
              change rest.length < other
              omega
            rw [ih enoughLeft moreLeft]

def followStep (opening : Opening) (ended : Bool) (rest : List UInt8)
    (authentication : List AuthenticationStep) : HandshakeStep → OpeningProgress
  | .done => { authentication, state := .agreed rest }
  | .failed error => { authentication, state := .failed error }
  | .ask frame stage =>
      after authentication [frame] ({ opening with stage, unread := rest }.settle ended)

theorem settle_of_frame (decoded : Frame.decode opening.unread = .frame reply rest) :
    let led := opening.stage.onReply opening.config opening.address reply
    opening.settle ended = opening.followStep ended rest led.1 led.2 := by
  have shorter := Frame.length_of_found (Frame.found?_of_decode decoded)
  unfold settle advance
  rw [decoded]
  dsimp only
  cases (opening.stage.onReply opening.config opening.address reply).2 with
  | done => rfl
  | failed error => rfl
  | ask frame stage =>
      unfold followStep settle
      dsimp only
      let next : Opening := { opening with stage, unread := rest }
      have enough : next.unread.length < opening.unread.length := shorter
      rw [advance_of_enough enough (Nat.lt_succ_self _)]

theorem settle_of_needMore {missing : Nat}
    (decoded : Frame.decode opening.unread = .needMore missing) :
    opening.settle false = { state := .waiting opening } := by
  unfold settle advance
  rw [decoded]
  rfl

theorem settle_of_oversized {length : Nat}
    (decoded : Frame.decode opening.unread = .oversized length) :
    opening.settle ended =
      { state := .failed (.protocol (.oversizedBody length Frame.maxBodyLength)) } := by
  unfold settle advance
  rw [decoded]

theorem settle_of_unsupported {code : UInt8} {stream : Int16}
    (decoded : Frame.decode opening.unread = .unsupported code stream rest) :
    opening.settle ended = { state := .failed (.unsupportedFrame code stream) } := by
  unfold settle advance
  rw [decoded]

theorem after_after (first second : List AuthenticationStep) (frames more : List Frame)
    (progress : OpeningProgress) :
    after first frames (after second more progress) =
      after (first ++ second) (frames ++ more) progress := by
  unfold after
  rw [List.append_assoc, List.append_assoc]

theorem resume_after (back : List UInt8) (authentication : List AuthenticationStep)
    (frames : List Frame) (progress : OpeningProgress) :
    resume back (after authentication frames progress) =
      after authentication frames (resume back progress) := by
  obtain ⟨sent, asked, state⟩ := progress
  cases state with
  | waiting opening => exact (after_after _ _ _ _ _).symm
  | agreed unread => rfl
  | failed error => rfl

/-- Bytes that come later are read later. The induction is on the bytes that are there. -/
theorem settle_append (opening : Opening) (back : List UInt8) :
    { opening with unread := opening.unread ++ back }.settle true =
      resume back (opening.settle false) := by
  induction bound : opening.unread.length using Nat.strongRecOn generalizing opening with
  | ind length ih =>
      subst bound
      let longer := { opening with unread := opening.unread ++ back }
      change longer.settle true = _
      have both (settled : ∀ missing, Frame.decode opening.unread ≠ .needMore missing) :
          Frame.decode longer.unread = (Frame.decode opening.unread).followedBy back :=
        Frame.decode_append settled back
      cases decoded : Frame.decode opening.unread with
      | needMore missing =>
          rw [settle_of_needMore decoded]
          rfl
      | oversized length =>
          rw [decoded] at both
          rw [settle_of_oversized decoded, settle_of_oversized (both nofun)]
          rfl
      | unsupported code stream rest =>
          rw [decoded] at both
          rw [settle_of_unsupported decoded, settle_of_unsupported (both nofun)]
          rfl
      | frame reply rest =>
          rw [decoded] at both
          have shorter := Frame.length_of_found (Frame.found?_of_decode decoded)
          rw [settle_of_frame decoded, settle_of_frame (both nofun)]
          dsimp only [longer]
          cases (opening.stage.onReply opening.config opening.address reply).2 with
          | done => rfl
          | failed error => rfl
          | ask frame stage =>
              have later := ih rest.length shorter { opening with stage, unread := rest } rfl
              unfold followStep
              rw [resume_after, ← later]

theorem receive_eq (opening : Opening) (bytes : List UInt8) :
    opening.receive bytes ended =
      { opening with unread := opening.unread ++ bytes }.settle ended := rfl

/-- How the bytes of the server are cut is no matter. -/
theorem converse_eq (opening : Opening) (chunks : List (List UInt8)) :
    opening.converse chunks =
      { opening with unread := opening.unread ++ chunks.flatten }.settle true := by
  induction chunks generalizing opening with
  | nil => rfl
  | cons chunk rest ih =>
      have whole := settle_append { opening with unread := opening.unread ++ chunk } rest.flatten
      dsimp only at whole
      rw [List.append_assoc] at whole
      rw [List.flatten_cons, whole]
      unfold converse resume
      rw [receive_eq]
      dsimp only
      cases state : ({ opening with unread := opening.unread ++ chunk }.settle false).state with
      | waiting next =>
          dsimp only
          rw [ih next]
      | agreed unread => rfl
      | failed error => rfl

def conclude : Except DriverError (List Frame) → OpeningState
  | .ok others => .agreed (others.flatMap Frame.encode)
  | .error error => .failed error

theorem settle_replies {replies : List Frame} (legible : ∀ reply ∈ replies, reply.Legible)
    (opening : Opening) (image : opening.unread = replies.flatMap Frame.encode) :
    let answered := opening.stage.answer opening.config opening.address replies
    (opening.settle true).frames = answered.1 ∧
      (opening.settle true).state = conclude answered.2 := by
  induction replies generalizing opening with
  | nil =>
      have none : Frame.decode opening.unread = .needMore 9 := by
        rw [image]
        rfl
      have empty : opening.unread.isEmpty = true := by
        rw [image]
        rfl
      unfold settle advance
      rw [none, empty]
      exact ⟨rfl, rfl⟩
  | cons reply rest ih =>
      obtain ⟨first, others⟩ := List.forall_mem_cons.mp legible
      have decoded := first.decode_encode (rest.flatMap Frame.encode)
      rw [← List.flatMap_cons, ← image] at decoded
      cases opcode : reply.opcode with
      | unknown code =>
          unfold Frame.asRead at decoded
          rw [opcode] at decoded
          rw [settle_of_unsupported decoded]
          unfold Handshake.answer Handshake.take
          rw [opcode]
          exact ⟨rfl, rfl⟩
      | _ =>
          unfold Frame.asRead at decoded
          rw [opcode] at decoded
          rw [settle_of_frame decoded]
          unfold Handshake.answer Handshake.take
          rw [opcode]
          dsimp only
          cases (opening.stage.onReply opening.config opening.address reply).2 with
          | done => exact ⟨rfl, rfl⟩
          | failed error => exact ⟨rfl, rfl⟩
          | ask frame stage =>
              have later := ih others
                { opening with stage, unread := rest.flatMap Frame.encode } rfl
              exact ⟨congrArg _ later.1, later.2⟩

end Opening

end CqlDriver
