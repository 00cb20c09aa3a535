/-
The language of an agreement. The server is ready at once, or it demands an authenticator, asks
for any number of further tokens and accepts; then, if the client wants events, it is ready once
more. A connection becomes a channel exactly when the replies begin with such a word.
-/

import CqlDriver.Proofs.Channel.Conversing
import CqlDriver.Proofs.Wire.ErrorBodies
import CqlDriver.Session.FirstContact

namespace CqlDriver

namespace Handshake

/-! The frames of the client, byte by byte. -/

def ascii (text : String) : List UInt8 := text.toList.map fun character => UInt8.ofNat character.toNat

def ofClient (config : ChannelConfig) (opcode : Opcode) (body : List UInt8) : Frame :=
  { version := config.version.number, isResponse := false, flags := 0, stream := 0, opcode, body }

def startupFrame (config : ChannelConfig) : Frame :=
  ofClient config .startup ([0, 1, 0, 11] ++ ascii "CQL_VERSION" ++ [0, 5] ++ ascii "3.0.0")

def tokenFrame (config : ChannelConfig) (token : List UInt8) : Frame :=
  ofClient config .authResponse
    ([UInt8.ofNat (token.length / 0x1000000), UInt8.ofNat (token.length / 0x10000),
      UInt8.ofNat (token.length / 0x100), UInt8.ofNat token.length] ++ token)

def registerFrame (config : ChannelConfig) : Frame :=
  ofClient config .register
    ([0, 3, 0, 15] ++ ascii "TOPOLOGY_CHANGE" ++ [0, 13] ++ ascii "STATUS_CHANGE" ++
      [0, 13] ++ ascii "SCHEMA_CHANGE")

theorem opening_eq (config : ChannelConfig) : Handshake.opening config = startupFrame config := by
  have body : Wire.startupBody =
      [0, 1, 0, 11] ++ ascii "CQL_VERSION" ++ [0, 5] ++ ascii "3.0.0" := by decide +kernel
  unfold Handshake.opening request startupFrame
  rw [body]
  rfl

theorem response_eq (config : ChannelConfig) (token : List UInt8) :
    response config token = tokenFrame config token := by
  have body : Wire.authResponseBody (some token) =
      [UInt8.ofNat (token.length / 0x1000000), UInt8.ofNat (token.length / 0x10000),
        UInt8.ofNat (token.length / 0x100), UInt8.ofNat token.length] ++ token := by
    change Wire.bigEndian 4 token.length ++ token = _
    simp [Wire.bigEndian, Nat.div_div_eq_div_mul]
  unfold response request tokenFrame
  rw [body]
  rfl

theorem registration_eq (config : ChannelConfig) :
    registration config = registerFrame config := by
  have body : Wire.registerBody ServerEvent.kinds =
      [0, 3, 0, 15] ++ ascii "TOPOLOGY_CHANGE" ++ [0, 13] ++ ascii "STATUS_CHANGE" ++
        [0, 13] ++ ascii "SCHEMA_CHANGE" := by decide +kernel
  unfold registration request registerFrame
  rw [body]
  rfl

structure Gave (given : Except DriverError (List UInt8)) (token : List UInt8) : Prop where
  given : given = .ok token
  fits : 4 + token.length ≤ 0x10000000

/-- The server demands an authenticator, and then challenges it. Each of these replies is
answered by a token. -/
inductive Proving (config : ChannelConfig) (address : SocketAddress) : List Frame →
    List (List UInt8) → Authenticator → String → List (Option (List UInt8)) → Prop
  | demanded {reply : Frame} {className : String} {authenticator : Authenticator}
      {token : List UInt8} (demand : reply.opcode = .authenticate)
      (readable : Wire.parseAuthenticate reply.body = .ok className)
      (configured : config.authenticator = some authenticator)
      (gave : Gave (authenticator.initial address className) token) :
      Proving config address [reply] [token] authenticator className []
  | challenged {word : List Frame} {tokens : List (List UInt8)} {authenticator : Authenticator}
      {className : String} {challenges : List (Option (List UInt8))} {reply : Frame}
      {challenge : Option (List UInt8)} {token : List UInt8}
      (proving : Proving config address word tokens authenticator className challenges)
      (asks : reply.opcode = .authChallenge)
      (readable : Wire.parseAuthToken reply.body = .ok challenge)
      (gave : Gave (authenticator.answer address (challenges ++ [challenge])) token) :
      Proving config address (word ++ [reply]) (tokens ++ [token]) authenticator className
        (challenges ++ [challenge])

inductive Trusted (config : ChannelConfig) (address : SocketAddress) :
    List Frame → List (List UInt8) → Prop
  | ready {reply : Frame} (isReady : reply.opcode = .ready) : Trusted config address [reply] []
  | accepted {word : List Frame} {tokens : List (List UInt8)} {authenticator : Authenticator}
      {className : String} {challenges : List (Option (List UInt8))} {reply : Frame}
      {token : Option (List UInt8)}
      (proving : Proving config address word tokens authenticator className challenges)
      (accepts : reply.opcode = .authSuccess)
      (readable : Wire.parseAuthToken reply.body = .ok token) :
      Trusted config address (word ++ [reply]) tokens

/-- The words of the language, with the tokens that they demand. -/
inductive Agreed (config : ChannelConfig) (address : SocketAddress) :
    List Frame → List (List UInt8) → Prop
  | trusted {word : List Frame} {tokens : List (List UInt8)}
      (unwanted : config.wantsEvents = false) (trusted : Trusted config address word tokens) :
      Agreed config address word tokens
  | registered {word : List Frame} {tokens : List (List UInt8)} {reply : Frame}
      (wanted : config.wantsEvents = true) (trusted : Trusted config address word tokens)
      (isReady : reply.opcode = .ready) : Agreed config address (word ++ [reply]) tokens

inductive Awaiting (config : ChannelConfig) (address : SocketAddress) :
    List Frame → List (List UInt8) → Handshake → Prop
  | startup : Awaiting config address [] [] .startup
  | authenticating {word : List Frame} {tokens : List (List UInt8)}
      {authenticator : Authenticator} {className : String}
      {challenges : List (Option (List UInt8))}
      (proving : Proving config address word tokens authenticator className challenges) :
      Awaiting config address word tokens (.authenticating authenticator className challenges)
  | registering {word : List Frame} {tokens : List (List UInt8)}
      (wanted : config.wantsEvents = true) (trusted : Trusted config address word tokens) :
      Awaiting config address word tokens .registering

/-- The frames that were sent when a stage was reached. -/
def sent (config : ChannelConfig) (tokens : List (List UInt8)) (stage : Handshake) : List Frame :=
  startupFrame config :: tokens.map (tokenFrame config) ++
    match stage with
    | .registering => [registerFrame config]
    | .startup | .authenticating .. => []

def sentInAll (config : ChannelConfig) (tokens : List (List UInt8)) : List Frame :=
  startupFrame config :: tokens.map (tokenFrame config) ++
    if config.wantsEvents then [registerFrame config] else []

/-- The server reports an error whose code is that of a protocol error. -/
def Refuses (reply : Frame) : Prop :=
  reply.opcode = .error ∧ [0, 0, 0, 0x0A] <+: reply.body ∧
    ∃ error, ServerError.parse reply.body = .ok error ∧ error.code = .protocolError

inductive Offends (config : ChannelConfig) (address : SocketAddress) (stage : Handshake) :
    List Frame → DriverError → Prop
  | ended : Offends config address stage [] (endedEarly address)
  | reply {reply : Frame} {later : List Frame} {error : DriverError}
      (failed : stage.take config address reply = .failed error) :
      Offends config address stage (reply :: later) error

/-- No error of the authenticator itself asks for a lower version of the protocol. -/
def Unassuming (config : ChannelConfig) (address : SocketAddress) : Prop :=
  ∀ authenticator, config.authenticator = some authenticator →
    (∀ className error, authenticator.initial address className = .error error →
      ∀ version text, error ≠ .connection (.protocolMismatch version text)) ∧
    ∀ challenges error, authenticator.answer address challenges = .error error →
      ∀ version text, error ≠ .connection (.protocolMismatch version text)

variable {config : ChannelConfig} {address : SocketAddress} {given : Except DriverError (List UInt8)}
  {stage : Handshake} {taken word : List Frame} {tokens : List (List UInt8)} {reply : Frame}
  {authenticator : Authenticator} {className : String} {challenges : List (Option (List UInt8))}

theorem rejectsVersion_eq_false {error : DriverError}
    (plain : ∀ version text, error ≠ .connection (.protocolMismatch version text)) :
    FirstContact.rejectsVersion error = false := by
  rw [← Bool.not_eq_true, FirstContact.rejectsVersion_iff]
  rintro ⟨version, text, same⟩
  exact plain version text same

theorem length_response (config : ChannelConfig) (token : List UInt8) :
    (response config token).body.length = 4 + token.length := by
  rw [response_eq]
  simp only [tokenFrame, ofClient, List.length_append, List.length_cons, List.length_nil]

theorem sendToken_of_gave {token : List UInt8} (gave : Gave given token) (stage : Handshake) :
    sendToken config given stage = .ask (response config token) stage := by
  have fits : (response config token).body.length ≤ Frame.maxBodyLength :=
    Nat.le_trans (Nat.le_of_eq (length_response config token)) gave.fits
  have written : Frame.write [] (response config token) = .ok _ := if_neg (Nat.not_lt.mpr fits)
  unfold sendToken
  rw [gave.given]
  dsimp only
  rw [written]

theorem sendToken_cases (config : ChannelConfig) (given : Except DriverError (List UInt8))
    (stage : Handshake) :
    (∃ token, Gave given token) ∨ ∃ error, sendToken config given stage = .failed error ∧
      (given = .error error ∨ FirstContact.rejectsVersion error = false) := by
  cases given with
  | error error => exact .inr ⟨error, rfl, .inl rfl⟩
  | ok token =>
      by_cases fits : 4 + token.length ≤ 0x10000000
      · exact .inl ⟨token, rfl, fits⟩
      · obtain ⟨fault, refused⟩ : ∃ fault, Frame.write [] (response config token) = .error fault :=
          ⟨_, if_pos (Nat.lt_of_lt_of_eq (Nat.lt_of_not_le fits)
            (length_response config token).symm)⟩
        refine .inr ⟨.protocol fault, ?_, .inr rfl⟩
        unfold sendToken
        dsimp only
        rw [refused]

inductive Outcome (config : ChannelConfig) (address : SocketAddress) (taken : List Frame)
    (tokens : List (List UInt8)) (reply : Frame) : HandshakeStep → Prop
  | done (agreed : Agreed config address (taken ++ [reply]) tokens) :
      Outcome config address taken tokens reply .done
  | failed {error : DriverError}
      (refuses : FirstContact.rejectsVersion error = true → Refuses reply) :
      Outcome config address taken tokens reply (.failed error)
  | ask {frame : Frame} {next : Handshake} {more : List (List UInt8)}
      (awaiting : Awaiting config address (taken ++ [reply]) more next) :
      Outcome config address taken tokens reply (.ask frame next)

theorem Outcome.of_plain {error : DriverError} (plain : FirstContact.rejectsVersion error = false) :
    Outcome config address taken tokens reply (.failed error) :=
  .failed fun refuses => absurd (plain.symm.trans refuses) nofun

theorem Outcome.of_reported (isError : reply.opcode = .error) :
    Outcome config address taken tokens reply (.failed (reportedError config reply)) := by
  refine .failed fun refuses => ⟨isError, ?_⟩
  unfold reportedError at refuses
  split at refuses
  · cases refuses
  · rename_i error parsed
    split at refuses
    · rename_i code
      obtain ⟨behind, begins⟩ := ServerError.begins_with_code parsed
      rw [code] at begins
      exact ⟨⟨behind, begins.symm⟩, error, parsed, code⟩
    · cases refuses
    · cases refuses

theorem Outcome.of_trusted (trust : Trusted config address (taken ++ [reply]) tokens) :
    Outcome config address taken tokens reply (trusted config) := by
  unfold trusted
  cases wanted : config.wantsEvents with
  | false => exact .done (.trusted wanted trust)
  | true => exact .ask (.registering wanted trust)

theorem Outcome.of_sendToken (own : ∀ error, given = .error error →
      FirstContact.rejectsVersion error = false)
    (awaiting : ∀ token, Gave given token →
      Awaiting config address (taken ++ [reply]) (tokens ++ [token]) stage) :
    Outcome config address taken tokens reply (sendToken config given stage) := by
  rcases sendToken_cases config given stage with ⟨token, gave⟩ | ⟨error, failed, reason⟩
  · rw [sendToken_of_gave gave]
    exact .ask (awaiting token gave)
  · rw [failed]
    refine .of_plain ?_
    rcases reason with its | plain
    · exact own error its
    · exact plain

theorem take_startup (own : Unassuming config address) (reply : Frame) :
    Outcome config address [] [] reply (take config address .startup reply) := by
  unfold take onReply onStartupReply
  cases opcode : reply.opcode with
  | ready => exact .of_trusted (.ready opcode)
  | error => exact .of_reported opcode
  | authenticate =>
      dsimp only
      cases readable : Wire.parseAuthenticate reply.body with
      | error fault => exact .of_plain rfl
      | ok className =>
          unfold authenticate
          cases configured : config.authenticator with
          | none => exact .of_plain rfl
          | some authenticator =>
              refine .of_sendToken (fun error failed => rejectsVersion_eq_false
                ((own authenticator configured).1 className error failed)) ?_
              exact fun token gave =>
                .authenticating (.demanded opcode readable configured gave)
  | _ => exact .of_plain rfl

theorem Proving.configured
    (proving : Proving config address word tokens authenticator className challenges) :
    config.authenticator = some authenticator := by
  induction proving with
  | demanded demand readable configured gave => exact configured
  | challenged before asks readable gave ih => exact ih

theorem take_authenticating (own : Unassuming config address)
    (proving : Proving config address taken tokens authenticator className challenges)
    (reply : Frame) :
    Outcome config address taken tokens reply
      (take config address (.authenticating authenticator className challenges) reply) := by
  unfold take onReply onTokenReply
  cases opcode : reply.opcode with
  | error => exact .of_reported opcode
  | authSuccess =>
      dsimp only
      cases readable : Wire.parseAuthToken reply.body with
      | error fault => exact .of_plain rfl
      | ok token => exact .of_trusted (.accepted proving opcode readable)
  | authChallenge =>
      dsimp only
      cases readable : Wire.parseAuthToken reply.body with
      | error fault => exact .of_plain rfl
      | ok challenge =>
          refine .of_sendToken (fun error failed => rejectsVersion_eq_false
            ((own authenticator proving.configured).2 _ error failed)) ?_
          exact fun token gave => .authenticating (.challenged proving opcode readable gave)
  | _ => exact .of_plain rfl

theorem take_registering (wanted : config.wantsEvents = true)
    (trust : Trusted config address taken tokens) (reply : Frame) :
    Outcome config address taken tokens reply (take config address .registering reply) := by
  unfold take onReply onRegisterReply
  cases opcode : reply.opcode with
  | ready => exact .done (.registered wanted trust opcode)
  | error => exact .of_reported opcode
  | _ => exact .of_plain rfl

theorem take_outcome (own : Unassuming config address)
    (awaiting : Awaiting config address taken tokens stage) (reply : Frame) :
    Outcome config address taken tokens reply (stage.take config address reply) := by
  cases awaiting with
  | startup => exact take_startup own reply
  | authenticating proving => exact take_authenticating own proving reply
  | registering wanted trust => exact take_registering wanted trust reply

def proceed (config : ChannelConfig) (address : SocketAddress) (rest : List Frame) :
    HandshakeStep → List Frame × Except DriverError (List Frame)
  | .done => ([], .ok rest)
  | .failed error => ([], .error error)
  | .ask frame next =>
      (frame :: (next.answer config address rest).1, (next.answer config address rest).2)

theorem answer_cons (stage : Handshake) (reply : Frame) (rest : List Frame) :
    stage.answer config address (reply :: rest) =
      proceed config address rest (stage.take config address reply) := by
  unfold answer
  cases stage.take config address reply with
  | done => rfl
  | failed error => rfl
  | ask frame next => rfl

theorem answer_cases (own : Unassuming config address)
    (awaiting : Awaiting config address taken tokens stage) (replies : List Frame) :
    (∃ word others more, replies = word ++ others ∧ Agreed config address (taken ++ word) more ∧
        (stage.answer config address replies).2 = .ok others) ∨
      ∃ word rest more next error, replies = word ++ rest ∧
        Awaiting config address (taken ++ word) more next ∧
        Offends config address next rest error ∧
        (stage.answer config address replies).2 = .error error ∧
        (FirstContact.rejectsVersion error = true →
          ∃ reply later, rest = reply :: later ∧ Refuses reply) := by
  induction replies generalizing taken tokens stage with
  | nil =>
      refine .inr ⟨[], [], tokens, stage, _, rfl, ?_, .ended, rfl, nofun⟩
      rw [List.append_nil]
      exact awaiting
  | cons reply rest ih =>
      have outcome := take_outcome own awaiting reply
      rw [answer_cons]
      cases step : stage.take config address reply with
      | done =>
          rw [step] at outcome
          obtain ⟨agreed⟩ := outcome
          exact .inl ⟨[reply], rest, tokens, rfl, agreed, rfl⟩
      | failed error =>
          rw [step] at outcome
          obtain _ | ⟨refuses⟩ := outcome
          refine .inr ⟨[], reply :: rest, tokens, stage, error, rfl, ?_, .reply step, rfl,
            fun lower => ⟨reply, rest, rfl, refuses lower⟩⟩
          rw [List.append_nil]
          exact awaiting
      | ask frame next =>
          rw [step] at outcome
          obtain _ | _ | ⟨further⟩ := outcome
          rcases ih further with ⟨word, others, more, rfl, agreed, result⟩ |
            ⟨word, others, more, last, error, rfl, later, offends, result, refuses⟩
          · rw [List.append_assoc] at agreed
            exact .inl ⟨reply :: word, others, more, rfl, agreed, result⟩
          · rw [List.append_assoc] at later
            exact .inr ⟨reply :: word, others, more, last, error, rfl, later, offends, result,
              refuses⟩

theorem answer_of_offends {rest : List Frame} {error : DriverError}
    (offends : Offends config address stage rest error) :
    stage.answer config address rest = ([], .error error) := by
  cases offends with
  | ended => rfl
  | reply failed =>
      rw [answer_cons, failed]
      rfl

theorem answer_of_proving
    (proving : Proving config address word tokens authenticator className challenges)
    (rest : List Frame) :
    let later := (authenticating authenticator className challenges).answer config address rest
    answer config address .startup (word ++ rest) =
      (tokens.map (response config) ++ later.1, later.2) := by
  induction proving generalizing rest with
  | demanded demand readable configured gave =>
      rename_i reply className authenticator token
      have step : take config address .startup reply =
          .ask (response config token) (.authenticating authenticator className []) := by
        unfold take onReply onStartupReply
        rw [demand]
        dsimp only
        rw [readable]
        dsimp only
        unfold authenticate
        rw [configured]
        exact sendToken_of_gave gave _
      rw [List.singleton_append, answer_cons, step]
      rfl
  | challenged before asks readable gave ih =>
      rename_i word tokens authenticator className challenges reply challenge token
      have step : take config address (.authenticating authenticator className challenges) reply =
          .ask (response config token)
            (.authenticating authenticator className (challenges ++ [challenge])) := by
        unfold take onReply onTokenReply
        rw [asks]
        dsimp only
        rw [readable]
        exact sendToken_of_gave gave _
      rw [List.append_assoc, ih, List.singleton_append, answer_cons, step, List.map_append]
      dsimp only
      rw [List.append_assoc]
      rfl

theorem answer_of_trusted (trust : Trusted config address word tokens) (rest : List Frame) :
    let later := proceed config address rest (trusted config)
    answer config address .startup (word ++ rest) =
      (tokens.map (response config) ++ later.1, later.2) := by
  cases trust with
  | ready isReady =>
      rename_i reply
      have step : take config address .startup reply = trusted config := by
        unfold take onReply onStartupReply
        rw [isReady]
      rw [List.singleton_append, answer_cons, step]
      rfl
  | accepted proving accepts readable =>
      rename_i word authenticator className challenges reply token
      have step : take config address (.authenticating authenticator className challenges) reply =
          trusted config := by
        unfold take onReply onTokenReply
        rw [accepts]
        dsimp only
        rw [readable]
      rw [List.append_assoc, answer_of_proving proving, List.singleton_append, answer_cons, step]

theorem map_response (config : ChannelConfig) (tokens : List (List UInt8)) :
    tokens.map (response config) = tokens.map (tokenFrame config) :=
  List.map_congr_left fun token _ => response_eq config token

def dialogue (config : ChannelConfig) (address : SocketAddress) (replies : List Frame) :
    List Frame × Except DriverError (List Frame) :=
  let answered := answer config address .startup replies
  (Handshake.opening config :: answered.1, answered.2)

/-- The frames that a run sends are those for the replies that it has taken so far. -/
theorem dialogue_of_awaiting (awaiting : Awaiting config address taken tokens stage)
    (rest : List Frame) :
    let later := stage.answer config address rest
    dialogue config address (taken ++ rest) = (sent config tokens stage ++ later.1, later.2) := by
  unfold dialogue sent
  rw [opening_eq, ← map_response]
  cases awaiting with
  | startup => rfl
  | authenticating proving =>
      rw [answer_of_proving proving, List.append_nil]
      rfl
  | registering wanted trust =>
      have step : trusted config = .ask (registration config) .registering := if_pos wanted
      rw [answer_of_trusted trust, step, ← registration_eq]
      dsimp only
      rw [List.append_assoc]
      rfl

theorem dialogue_of_agreed (agreed : Agreed config address word tokens) (others : List Frame) :
    dialogue config address (word ++ others) = (sentInAll config tokens, .ok others) := by
  cases agreed with
  | trusted unwanted trust =>
      have step : trusted config = .done := if_neg (by rw [unwanted]; nofun)
      unfold dialogue sentInAll
      rw [answer_of_trusted trust, step, opening_eq, ← map_response, unwanted]
      rfl
  | registered wanted trust isReady =>
      rename_i word reply
      have step : take config address .registering reply = .done := by
        unfold take onReply onRegisterReply
        rw [isReady]
      rw [List.append_assoc, dialogue_of_awaiting (.registering wanted trust),
        List.singleton_append, answer_cons, step]
      unfold sentInAll sent
      rw [wanted]
      exact congrArg (·, _) (List.append_nil _)

theorem answer_registering (replies : List Frame) :
    (answer config address .registering replies).1 = [] := by
  cases replies with
  | nil => rfl
  | cons reply rest =>
      rw [answer_cons]
      unfold take onReply onRegisterReply
      cases reply.opcode <;> rfl

theorem opcode_ne_register {frame : Frame}
    (member : frame ∈ startupFrame config :: tokens.map (tokenFrame config)) :
    frame.opcode ≠ .register := by
  rcases List.mem_cons.mp member with same | response
  · rw [same]
    nofun
  · obtain ⟨token, _, same⟩ := List.mem_map.mp response
    rw [← same]
    nofun

theorem Agreed.asked (agreed : Agreed config address word tokens) {frame : Frame}
    (member : frame ∈ sentInAll config tokens) (asks : frame.opcode = .register) :
    config.wantsEvents = true ∧
      ∃ front back, word = front ++ back ∧ Trusted config address front tokens := by
  cases agreed with
  | trusted unwanted trust =>
      unfold sentInAll at member
      rw [unwanted, if_neg nofun, List.append_nil] at member
      exact absurd asks (opcode_ne_register member)
  | registered wanted trust isReady => exact ⟨wanted, _, _, rfl, trust⟩

theorem Awaiting.asked (awaiting : Awaiting config address word tokens stage) {frame : Frame}
    (member : frame ∈ sent config tokens stage) (asks : frame.opcode = .register) :
    config.wantsEvents = true ∧ Trusted config address word tokens := by
  cases awaiting with
  | startup =>
      unfold sent at member
      rw [List.append_nil] at member
      exact absurd asks (opcode_ne_register member)
  | authenticating proving =>
      unfold sent at member
      rw [List.append_nil] at member
      exact absurd asks (opcode_ne_register member)
  | registering wanted trust => exact ⟨wanted, trust⟩

end Handshake

namespace Opening

open Handshake

/-- What comes of a new connection if the bytes of the server arrive in these chunks, and the
server ends the connection then. -/
def handshake (config : ChannelConfig) (address : SocketAddress) (chunks : List (List UInt8)) :
    OpeningProgress :=
  after [] [Handshake.opening config] (converse { address, config } chunks)

/-- What has come of a connection whose server has sent these replies and no more. -/
structure Conforms (config : ChannelConfig) (address : SocketAddress) (replies : List Frame)
    (progress : OpeningProgress) : Prop where
  /-- There is agreement exactly if the replies begin with a word of the language. -/
  agrees : (∃ unread, progress.state = .agreed unread) ↔
    ∃ word others tokens, replies = word ++ others ∧ Agreed config address word tokens
  consumes : ∀ word others tokens, replies = word ++ others → Agreed config address word tokens →
    progress.state = .agreed (others.flatMap Frame.encode) ∧
      progress.frames = sentInAll config tokens
  /-- Otherwise it failed at a reply, or at the end, with what was due before sent. Only a
  reply that refuses the version of the protocol asks for a lower one. -/
  fails : (¬∃ unread, progress.state = .agreed unread) →
    ∃ word rest tokens stage error, replies = word ++ rest ∧
      Awaiting config address word tokens stage ∧ Offends config address stage rest error ∧
      progress.state = .failed error ∧
      progress.frames = sent config tokens stage ∧
      ∀ version text, error = .connection (.protocolMismatch version text) →
        ∃ reply later, rest = reply :: later ∧ Refuses reply
  registers : config.wantsEvents = true → ∀ word others tokens, replies = word ++ others →
    Trusted config address word tokens →
      progress.frames = sent config tokens .registering
  reserved : ∀ frame ∈ progress.frames, frame.opcode = .register →
    config.wantsEvents = true ∧
      ∃ word others tokens, replies = word ++ others ∧ Trusted config address word tokens

variable {replies : List Frame}

theorem handshake_eq (config : ChannelConfig) (address : SocketAddress)
    (legible : ∀ reply ∈ replies, reply.Legible) {chunks : List (List UInt8)}
    (whole : chunks.flatten = replies.flatMap Frame.encode) :
    (handshake config address chunks).frames = (dialogue config address replies).1 ∧
      (handshake config address chunks).state = conclude (dialogue config address replies).2 := by
  have ends := settle_replies legible
    { address, config, unread := [] ++ chunks.flatten } whole
  rw [← converse_eq { address, config }] at ends
  exact ⟨congrArg _ ends.1, ends.2⟩

/-- For every authenticator, and for replies in whatever chunks they come, a connection becomes
a channel exactly after a word of the language; and on the way it sends what the word demands. -/
theorem handshake_conforms (config : ChannelConfig) (address : SocketAddress)
    (own : Unassuming config address) (replies : List Frame)
    (legible : ∀ reply ∈ replies, reply.Legible) (chunks : List (List UInt8))
    (whole : chunks.flatten = replies.flatMap Frame.encode) :
    Conforms config address replies (handshake config address chunks) := by
  obtain ⟨frames, state⟩ := handshake_eq config address legible whole
  have consumes : ∀ word others tokens, replies = word ++ others →
      Agreed config address word tokens →
      (handshake config address chunks).state = .agreed (others.flatMap Frame.encode) ∧
        (handshake config address chunks).frames = sentInAll config tokens := by
    rintro word others tokens rfl agreed
    rw [dialogue_of_agreed agreed] at frames state
    exact ⟨state, frames⟩
  have registers : config.wantsEvents = true → ∀ word others tokens, replies = word ++ others →
      Trusted config address word tokens →
      (handshake config address chunks).frames = sent config tokens .registering := by
    rintro wanted word others tokens rfl trust
    rw [dialogue_of_awaiting (.registering wanted trust), answer_registering] at frames
    exact frames.trans (List.append_nil _)
  rcases answer_cases own .startup replies with ⟨word, others, tokens, same, agreed, _⟩ |
    ⟨word, rest, tokens, stage, error, same, awaiting, offends, _, refuses⟩
  · rw [List.nil_append] at agreed
    have ends := consumes word others tokens same agreed
    refine ⟨⟨fun _ => ⟨word, others, tokens, same, agreed⟩, fun _ => ⟨_, ends.1⟩⟩, consumes,
      fun none => absurd ⟨_, ends.1⟩ none, registers, ?_⟩
    intro frame member asks
    rw [ends.2] at member
    obtain ⟨wanted, front, back, rfl, trust⟩ := agreed.asked member asks
    exact ⟨wanted, front, back ++ others, tokens, same.trans (List.append_assoc _ _ _), trust⟩
  · rw [List.nil_append] at awaiting
    rw [same, dialogue_of_awaiting awaiting, answer_of_offends offends] at frames state
    dsimp only at frames
    rw [List.append_nil] at frames
    refine ⟨⟨?_, ?_⟩, consumes, ?_, registers, ?_⟩
    · rintro ⟨unread, agreed⟩
      cases agreed.symm.trans state
    · rintro ⟨other, others, more, whole, agreed⟩
      exact ⟨_, (consumes other others more whole agreed).1⟩
    · intro _
      refine ⟨word, rest, tokens, stage, error, same, awaiting, offends, state, frames, ?_⟩
      intro version text mismatch
      exact refuses ((FirstContact.rejectsVersion_iff error).mpr ⟨version, text, mismatch⟩)
    · intro frame member asks
      rw [frames] at member
      obtain ⟨wanted, trust⟩ := awaiting.asked member asks
      exact ⟨wanted, word, rest, tokens, same, trust⟩

def examined : ChannelConfig :=
  { version := .v4
    connectTimeout := .ofMillis 500
    heartbeatInterval := .ofSecs 30
    heartbeatTimeout := .ofSecs 5
    maxRequests := 4
    maxOrphans := 0
    authenticator := some (.prepared [1] [[2]])
    wantsEvents := true }

def examiner : SocketAddress := { ip := .ofParts 10 0 0 1, port := 9042 }

theorem examined_unassuming : Unassuming examined examiner := by
  intro authenticator configured
  obtain rfl := Option.some.inj configured
  refine ⟨nofun, fun challenges error failed => ?_⟩
  unfold Authenticator.prepared at failed
  dsimp only at failed
  split at failed
  · cases failed
  · cases failed
    nofun

def examination : List Frame :=
  [.response 4 0 .authenticate [0, 1, 65], .response 4 0 .authChallenge [0, 0, 0, 1, 7],
    .response 4 0 .authSuccess [0xFF, 0xFF, 0xFF, 0xFF]]

def isReady : Frame := .response 4 0 .ready []

def examinationChunks : List (List UInt8) :=
  let bytes := (examination ++ [isReady, .response 4 1 .result []]).flatMap Frame.encode
  [bytes.take 14, bytes.drop 14]

theorem examination_agreed : Agreed examined examiner (examination ++ [isReady]) [[1], [2]] := by
  have demanded : Proving examined examiner [examination[0]] [[1]] _ "A" [] :=
    .demanded rfl rfl rfl ⟨rfl, by decide⟩
  have challenged : Proving examined examiner [examination[0], examination[1]] [[1], [2]] _ "A"
      [some [7]] :=
    .challenged demanded rfl rfl ⟨rfl, by decide⟩
  exact .registered rfl (.accepted challenged rfl rfl) rfl

theorem examination_conforms :
    Unassuming examined examiner ∧
      (handshake examined examiner examinationChunks).state =
        .agreed (Frame.encode (.response 4 1 .result [])) ∧
      (handshake examined examiner examinationChunks).frames =
        [startupFrame examined, tokenFrame examined [1], tokenFrame examined [2],
          registerFrame examined] := by
  have legible : ∀ reply ∈ examination ++ [isReady, .response 4 1 .result []],
      reply.Legible := by
    have canonical : ∀ reply ∈ examination ++ [isReady, .response 4 1 .result []],
        reply.Canonical := by decide
    exact fun reply member => (canonical reply member).legible
  have whole : examinationChunks.flatten =
      (examination ++ [isReady, .response 4 1 .result []]).flatMap Frame.encode := by
    simp [examinationChunks]
  have conforms := handshake_conforms examined examiner examined_unassuming _ legible
    examinationChunks whole
  have ends := conforms.consumes (examination ++ [isReady]) [.response 4 1 .result []] [[1], [2]]
    rfl examination_agreed
  exact ⟨examined_unassuming, ends.1, ends.2⟩

end Opening

end CqlDriver
