/-
Echoes: a gateway that sends back what it was sent.

Packets and sign-in requests share the numbers of their fields, so each can be read as the other
(`SignInRequest.decode_as_packet`, `Packet.decode_as_request`).  Read as a packet, a request has the
code of success, for the token stands under the number of the code in another layout and is passed
over.  A session judges a response by its code alone, so that its own request accepts the login.
Main statement: `Session.echo_accepts`.
-/
import GatewayLogin.Proofs.Session.Connections
import GatewayLogin.Proofs.Session.Judgement
import GatewayLogin.Proofs.Session.Request

namespace GatewayLogin

namespace Field

theorem tag_of_mem_optional {tag : Tag} {payload? : Option Payload} {field : Field}
    (htype : ∀ payload ∈ payload?, payload.wireType = tag.wireType)
    (h : field ∈ optional tag payload?) : field.tag = tag := by
  obtain ⟨payload, hpayload, rfl⟩ := List.mem_map.mp h
  rw [Field.tag, htype payload (by simpa using hpayload)]

end Field

/-- A request read as a packet: the device is the command, the user is the request id, and the token
is nothing that a packet knows. -/
theorem SignInRequest.decode_as_packet {request : SignInRequest} (h : request.Sized) :
    Packet.decode request.encode =
      .ok { command := request.deviceId.toUInt32, requestId := request.userId } := by
  rw [Packet.decode_sequence (encode_sequence h)]
  rfl

namespace Packet

/-- The command and the request id of a packet stand where a request has its device and its user. -/
theorem foldl_update_ids (packet : Packet) :
    (Field.optional commandTag (wordPayload? packet.command.toUInt64)
      ++ Field.optional requestIdTag (wordPayload? packet.requestId)).foldl SignInRequest.update {} =
      ⟨packet.command.toUInt64, packet.requestId, ""⟩ := by
  generalize packet.command.toUInt64 = command
  by_cases hcommand : command = 0 <;> by_cases hrequestId : packet.requestId = 0 <;>
    simp [Field.optional, wordPayload?, hcommand, hrequestId, SignInRequest.update, Field.tag,
      Payload.wireType, Payload.word, commandTag, requestIdTag, SignInRequest.deviceIdTag,
      SignInRequest.userIdTag]

/-- A packet read as a request: the code, the message and the data are nothing that a request knows,
and the token is empty. -/
theorem decode_as_request {packet : Packet} (h : packet.Sized) :
    SignInRequest.decode packet.encode = .ok ⟨packet.command.toUInt64, packet.requestId, ""⟩ := by
  have hunknown {tag : Tag} {payload? : Option Payload} (htag : tag ∉ SignInRequest.tags)
      (htype : ∀ payload ∈ payload?, payload.wireType = tag.wireType) (request : SignInRequest) :
      (Field.optional tag payload?).foldl SignInRequest.update request = request := by
    apply Schema.foldl_eq_self
    intro field hfield
    apply SignInRequest.update_of_not_mem
    rwa [Field.tag_of_mem_optional htype hfield]
  rw [SignInRequest.decode_sequence (encode_sequence h), fields, List.foldl_append,
    List.foldl_append, List.foldl_append, foldl_update_ids,
    hunknown (by decide) wireType_of_mem_bytesPayload?,
    hunknown (by decide) wireType_of_mem_bytesPayload?,
    hunknown (by decide) wireType_of_mem_wordPayload?]

end Packet

/-- A session waits only for the answer to a request that it has just sent, or was waiting
before. -/
theorem Phase.Leads.waiting_cases {phase : Phase} {operation : Operation} {reply : Reply}
    {login : Login} {connection : ConnectionId}
    (h : phase.Leads operation reply (.waiting login connection)) :
    (phase = .waiting login connection ∧ operation.begun? reply = none) ∨
      (phase = .opened login connection ∧ ∃ clock write frame,
        operation = .sendSignIn clock write ∧ reply = .sent (.ok frame)) := by
  cases h with
  | sent => exact .inr ⟨rfl, _, _, _, rfl, rfl⟩
  | _ => exact .inl ⟨rfl, rfl⟩

namespace Session

variable {s : Session}

/-- The request that was sent last in a run, and its connection. -/
def lastRequest? (settings : ClientSettings) (operations : List Operation) :
    Option (ConnectionId × Frame) :=
  (requests ((new settings).callsMade operations)).getLast?

theorem lastRequest?_concat (settings : ClientSettings) (before : List Operation)
    (operation : Operation) :
    lastRequest? settings (before ++ [operation]) =
      (requests (Effect.calls (((new settings).run before).perform operation).effects)).getLast?.or
        (lastRequest? settings before) := by
  rw [lastRequest?, callsMade_concat, requests_append, List.getLast?_append]
  rfl

/-- A session that waits owes nothing, and so it sends nothing. -/
theorem At.requests_of_waiting {login : Login} {connection : ConnectionId} {operation : Operation}
    (h : s.At (.waiting login connection))
    (hbegun : operation.begun? (s.perform operation).reply = none) :
    requests (Effect.calls (s.perform operation).effects) = [] := by
  have hle := (perform_moves h operation).requests_le
  rw [h.custody, hbegun] at hle
  apply List.eq_nil_of_length_eq_zero
  simp only [Phase.pending?, Option.isSome_none, Bool.toNat_false, Option.toList_none,
    List.length_nil] at hle
  omega

/-- Every run ends in a phase that fits its milestones, and if that waits for an answer, the request
sent last is the one that presents the credentials of its login. -/
theorem run_waiting (settings : ClientSettings) (operations : List Operation) :
    ∃ phase, ((new settings).run operations).At phase ∧
      phase.Follows ((new settings).milestones operations) ∧
      ∀ login connection, phase = .waiting login connection →
        ∃ clock, lastRequest? settings operations =
          some (connection, (signInFrame settings login.credentials clock).1) := by
  induction operations using List.reverseRecOn with
  | nil => exact ⟨.idle, new_at settings, Phase.idle_follows _, by simp⟩
  | append_singleton before operation ih =>
      obtain ⟨phase, hat, hfollows, hsent⟩ := ih
      obtain ⟨next, hleads, hnext⟩ := perform_leads hat operation
      rw [run_concat, milestones_concat]
      refine ⟨next, hnext, hleads.follows hfollows, ?_⟩
      rintro login connection rfl
      rw [lastRequest?_concat]
      rcases hleads.waiting_cases with ⟨rfl, hbegun⟩ | ⟨rfl, clock, write, frame, rfl, hreply⟩
      · rw [hat.requests_of_waiting hbegun]
        exact hsent login connection rfl
      · obtain ⟨hframe, -, hcalls, -⟩ := hat.sent (Reply.sent.inj hreply)
        rw [run_settings] at hframe
        refine ⟨clock, ?_⟩
        have hrequests : requests (Effect.calls
            (((new settings).run before).perform (.sendSignIn clock write)).effects) =
            [(connection, frame)] := congrArg requests hcalls
        rw [hrequests, hframe]
        rfl

/-- A frame answers the login with success: the session is signed in over the connection that it
holds, as whom the login asked for, and says so. -/
structure SignsIn (s : Session) (login : Login) (frame : Frame) : Prop where
  reply : ∃ packet, (s.frameReceived frame).reply = some packet ∧ packet.code = 0
  state : (s.frameReceived frame).session.state = .connected
  connection : (s.frameReceived frame).session.connection = s.connection
  identity : (s.frameReceived frame).session.identity = some login.identity
  told : Effect.notifications (s.frameReceived frame).effects = [.login true 0 "login succeeded"]

/-- A request, bare or in an envelope, is received as a packet with the code of success. -/
theorem receive_signInFrame (settings : ClientSettings) {credentials : Credentials}
    (h : credentials.request.Sized) (clock : UInt64) :
    (Packet.receive (signInFrame settings credentials clock).1).code = 0 ∧
      (Packet.receive (signInFrame settings credentials clock).1).message = "" := by
  have hpresents := signInFrame_presents settings h clock
  by_cases hwrap : settings.wrapInEnvelope
  · simp only [Presents, hwrap, if_true] at hpresents
    obtain ⟨data, hread, -⟩ := hpresents
    simp only [Packet.receive, hread, true_and]
  · have hread := SignInRequest.decode_as_packet h
    have hframe : (signInFrame settings credentials clock).1 = credentials.request.encode := by
      simp [signInFrame, hwrap, Credentials.request]
    simp only [Packet.receive, hframe, hread, true_and]

theorem At.signsIn {login : Login} {connection : ConnectionId}
    (h : s.At (.waiting login connection)) {frame : Frame}
    (hcode : (Packet.receive frame).code = 0) (hmessage : (Packet.receive frame).message = "") :
    s.SignsIn login frame := by
  have hsuccess := Packet.isSuccess_iff.mpr hcode
  obtain ⟨hreply, hyields⟩ := h.frameReceived_yields frame
  rw [if_pos hsuccess] at hyields
  refine ⟨⟨_, hreply, hcode⟩, hyields.phase.state, ?_, hyields.phase.identity, ?_⟩
  · rw [hyields.phase.connection, h.connection]
    rfl
  · rw [hyields.told, Packet.notice, if_pos hcode, hmessage]
    rfl

/-- Packets and requests can be read as each other, whatever they hold, if their lengths are words.
While a session waits for a response, the request it sent last presents the latest login over the
connection that it holds, and a gateway that sends this request back, as it came or else bare or in
any envelope, has accepted the login. -/
theorem echo_accepts :
    (∀ request : SignInRequest, request.Sized →
      Packet.decode request.encode =
        .ok ⟨request.deviceId.toUInt32, request.userId, 0, "", none⟩) ∧
    (∀ packet : Packet, packet.Sized →
      SignInRequest.decode packet.encode =
        .ok ⟨packet.command.toUInt64, packet.requestId, ""⟩) ∧
    ∀ settings operations, ((new settings).run operations).state = .awaitingResponse →
      ∃ login connection clock,
        latestLogin? ((new settings).milestones operations) = some login ∧
        ((new settings).run operations).connection = some connection ∧
        lastRequest? settings operations =
          some (connection, (signInFrame settings login.credentials clock).1) ∧
        (login.credentials.request.Sized → ∀ form id,
          ((new settings).run operations).SignsIn login
            (signInFrame form login.credentials id).1) := by
  refine ⟨fun _ => SignInRequest.decode_as_packet, fun _ => Packet.decode_as_request, ?_⟩
  intro settings operations hwaits
  obtain ⟨phase, hat, hfollows, hsent⟩ := run_waiting settings operations
  obtain ⟨login, connection, rfl⟩ := hat.waiting_of_state hwaits
  obtain ⟨clock, hlast⟩ := hsent login connection rfl
  refine ⟨login, connection, clock, hfollows.login login rfl, hat.connection, hlast, ?_⟩
  intro hsized form id
  obtain ⟨hcode, hmessage⟩ := receive_signInFrame form hsized id
  exact hat.signsIn hcode hmessage

/-- A device whose number is longer than a command, a packet of all its fields, and a session that
waits: it takes its own envelope, and its bare request, for the answer that accepts the login. -/
theorem requestSent_accepts_echo :
    (SignInRequest.Sized ⟨0x100000008, 7, "secret"⟩ ∧
      Packet.decode (SignInRequest.encode ⟨0x100000008, 7, "secret"⟩) = .ok ⟨8, 7, 0, "", none⟩) ∧
    (Packet.Sized ⟨1, 2, -5, "no", some [0xAA]⟩ ∧
      SignInRequest.decode (Packet.encode ⟨1, 2, -5, "no", some [0xAA]⟩) = .ok ⟨1, 2, ""⟩) ∧
    ((new {}).run requestSent).state = .awaitingResponse ∧
      ∃ login connection frame, lastRequest? {} requestSent = some (connection, frame) ∧
        ((new {}).run requestSent).SignsIn login frame ∧
        ((new {}).run requestSent).SignsIn login (SignInRequest.encode ⟨8, 7, "secret"⟩) := by
  obtain ⟨hrequest, hpacket, hecho⟩ := echo_accepts
  have hdevice : SignInRequest.Sized ⟨0x100000008, 7, "secret"⟩ := by
    rw [SignInRequest.Sized]
    decide +kernel
  have hfull : Packet.Sized ⟨1, 2, -5, "no", some [0xAA]⟩ := ⟨by decide +kernel, by decide⟩
  have hwaits : ((new {}).run requestSent).state = .awaitingResponse := by decide +kernel
  obtain ⟨login, connection, clock, hlatest, -, hlast, hforms⟩ := hecho {} requestSent hwaits
  have hlogin : latestLogin? ((new {}).milestones requestSent) =
      some ⟨⟨"ws://gateway", 7, 8, "secret"⟩, ⟨1, .ofSeconds 5⟩⟩ := by decide +kernel
  obtain rfl := Option.some.inj (hlatest.symm.trans hlogin)
  have hsized : SignInRequest.Sized ⟨8, 7, "secret"⟩ := by
    rw [SignInRequest.Sized]
    decide +kernel
  refine ⟨⟨hdevice, hrequest _ hdevice⟩, ⟨hfull, hpacket _ hfull⟩, hwaits, _, connection, _, hlast,
    hforms hsized {} clock, ?_⟩
  exact hforms hsized { wrapInEnvelope := false } clock

end Session

end GatewayLogin
