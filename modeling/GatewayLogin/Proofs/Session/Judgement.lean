/-
Judgement: how the bytes of a response decide a login.

A response accepts or rejects by its code alone, and the code is the low half of one word among its
fields.  `Frame.Accepts` and `Frame.Rejects` say this of the bytes, without mention of a packet, and
a session that waits for a response follows them.  Main statement: `Session.frame_decides_login`.
-/
import Mathlib.Algebra.Group.Nat.Defs
import GatewayLogin.Proofs.Packet.Fields
import GatewayLogin.Proofs.Session.Awaited

namespace GatewayLogin

namespace Frame

/-- The bytes accept a login: they are a sequence of fields, and the last word under the tag of the
code, if there is one, is zero in its low half. -/
def Accepts (frame : Frame) : Prop :=
  ∃ fields, Field.Sequence fields frame ∧
    ∀ word, Field.last? Packet.codeTag fields = some (.varint word) → word.toNat % 2 ^ 32 = 0

/-- The bytes reject a login with a code: the low half of that word, read with a sign, or minus one
if they are no sequence of fields at all. -/
inductive Rejects (frame : Frame) : Int32 → Prop where
  | coded {fields : List Field} {word : UInt64} {code : Int32}
      (h : Field.Sequence fields frame)
      (hlast : Field.last? Packet.codeTag fields = some (.varint word))
      (hnonzero : word.toNat % 2 ^ 32 ≠ 0) (hcode : code.toInt = Int.bmod word.toNat (2 ^ 32)) :
      Rejects frame code
  | unreadable (h : ¬ ∃ fields, Field.Sequence fields frame) : Rejects frame (-1)

variable {frame : Frame} {code : Int32}

theorem accepts_iff : Accepts frame ↔ (Packet.receive frame).code = 0 := by
  rcases Packet.receive_cases frame with ⟨fields, hfields, hreceive⟩ | ⟨hnone, hreceive⟩
  · rw [hreceive]
    constructor
    · rintro ⟨others, hothers, hzero⟩
      obtain rfl := hothers.unique hfields
      exact Packet.ofFields_code_eq_zero_iff.mpr hzero
    · intro hcode
      exact ⟨fields, hfields, Packet.ofFields_code_eq_zero_iff.mp hcode⟩
  · rw [hreceive]
    constructor
    · rintro ⟨fields, hfields, -⟩
      exact absurd ⟨fields, hfields⟩ hnone
    · intro hcode
      exact absurd hcode (by decide)

theorem rejects_iff : Rejects frame code ↔ (Packet.receive frame).code = code ∧ code ≠ 0 := by
  rcases Packet.receive_cases frame with ⟨fields, hfields, hreceive⟩ | ⟨hnone, hreceive⟩
  · rw [hreceive]
    constructor
    · intro hrejects
      cases hrejects with
      | @coded others word _ hothers hlast hnonzero hcode =>
          obtain rfl := hothers.unique hfields
          have hvalue : Packet.codeOfWord word = code := by
            rw [← Int32.toInt_inj, Packet.codeOfWord_toInt, hcode]
          rw [Packet.ofFields_code_of_last? hlast, hvalue]
          refine ⟨rfl, fun hzero => hnonzero ?_⟩
          rwa [← Packet.codeOfWord_eq_zero_iff, hvalue]
      | unreadable hnone => exact absurd ⟨fields, hfields⟩ hnone
    · rintro ⟨rfl, hnonzero⟩
      rcases Packet.ofFields_code_cases fields with ⟨-, hcode⟩ | ⟨word, hlast, hcode⟩
      · exact absurd hcode hnonzero
      · rw [hcode] at hnonzero ⊢
        exact .coded hfields hlast (mt Packet.codeOfWord_eq_zero_iff.mpr hnonzero)
          (Packet.codeOfWord_toInt word)
  · rw [hreceive]
    constructor
    · intro hrejects
      cases hrejects with
      | coded hfields => exact absurd ⟨_, hfields⟩ hnone
      | unreadable => exact ⟨rfl, by decide⟩
    · rintro ⟨rfl, -⟩
      exact .unreadable hnone

theorem accepts_or_rejects (frame : Frame) : Accepts frame ∨ ∃ code, Rejects frame code := by
  by_cases hzero : (Packet.receive frame).code = 0
  · exact .inl (accepts_iff.mpr hzero)
  · exact .inr ⟨_, rejects_iff.mpr ⟨rfl, hzero⟩⟩

end Frame

namespace Session

variable {s : Session} {phase : Phase}

theorem At.waiting_of_state (h : s.At phase) (hwaits : s.state = .awaitingResponse) :
    ∃ login connection, phase = .waiting login connection := by
  rw [h.state] at hwaits
  cases phase with
  | waiting login connection => exact ⟨login, connection, rfl⟩
  | _ => cases hwaits

/-- The session as it is but for the count of the bytes that came in. -/
def withoutBytesReceived (s : Session) : Session :=
  { s with metrics := { s.metrics with bytesReceived := 0 } }

/-- Of a packet, the code and the message are all that a session acts on. -/
theorem frameReceived_congr (s : Session) {frame other : Frame}
    (hcode : (Packet.receive frame).code = (Packet.receive other).code)
    (hmessage : (Packet.receive frame).message = (Packet.receive other).message) :
    (s.frameReceived frame).session.withoutBytesReceived =
        (s.frameReceived other).session.withoutBytesReceived ∧
      Effect.notifications (s.frameReceived frame).effects =
        Effect.notifications (s.frameReceived other).effects ∧
      Effect.calls (s.frameReceived frame).effects =
        Effect.calls (s.frameReceived other).effects := by
  have hsuccess : (Packet.receive frame).isSuccess = (Packet.receive other).isSuccess := by
    rw [Packet.isSuccess, Packet.isSuccess, hcode]
  have hunreadable :
      (Packet.receive frame).isParseError = (Packet.receive other).isParseError := by
    rw [Packet.isParseError, Packet.isParseError, hcode, hmessage]
  by_cases hwaits : s.state = .awaitingResponse
  · simp only [frameReceived, hwaits, ne_eq, not_true_eq_false, if_false, hsuccess, hunreadable,
      hcode, hmessage]
    cases (Packet.receive other).isSuccess <;> cases (Packet.receive other).isParseError <;>
      simp [withoutBytesReceived, Metrics.frameReceived, Metrics.decodeFault, Metrics.loginAccepted,
        Metrics.loginRejected]
  · simp only [frameReceived, if_pos hwaits]
    exact ⟨rfl, rfl, rfl⟩

/-- While a session waits for a response, the bytes of a frame decide: the login is accepted exactly
by those that accept it and rejected with a code exactly by those that reject it with this code, and
there are no others.  Apart from the count of bytes, two frames whose packets have one code and one
message do the same. -/
theorem frame_decides_login (settings : ClientSettings) (before : List Operation)
    (hwaits : ((new settings).run before).state = .awaitingResponse) :
    let step := ((new settings).run before).frameReceived
    (∀ frame,
      ((step frame).session.state = .connected ∧ (step frame).session.identity.isSome ↔
          Frame.Accepts frame) ∧
        (∀ code, (step frame).session.state = .failed (.rejected code) ↔
          Frame.Rejects frame code) ∧
        (Frame.Accepts frame ∨ ∃ code, Frame.Rejects frame code)) ∧
    ∀ frame other, (Packet.receive frame).code = (Packet.receive other).code →
      (Packet.receive frame).message = (Packet.receive other).message →
      (step frame).session.withoutBytesReceived = (step other).session.withoutBytesReceived ∧
        Effect.notifications (step frame).effects = Effect.notifications (step other).effects ∧
        Effect.calls (step frame).effects = Effect.calls (step other).effects := by
  intro step
  obtain ⟨phase, hat, -⟩ := run_at settings before
  obtain ⟨login, connection, rfl⟩ := hat.waiting_of_state hwaits
  constructor
  · intro frame
    obtain ⟨-, hnext⟩ := hat.frameReceived frame
    refine ⟨?_, fun code => ?_, Frame.accepts_or_rejects frame⟩
    · rw [Frame.accepts_iff, ← Packet.isSuccess_iff, hnext.state, hnext.identity]
      cases (Packet.receive frame).isSuccess <;> simp [Phase.state, Phase.identity?]
    · rw [Frame.rejects_iff, hnext.state]
      by_cases hzero : (Packet.receive frame).code = 0
      · rw [if_pos (Packet.isSuccess_iff.mpr hzero), hzero]
        constructor
        · intro hstate
          cases hstate
        · rintro ⟨rfl, hnonzero⟩
          exact absurd rfl hnonzero
      · rw [if_neg (mt Packet.isSuccess_iff.mp hzero)]
        constructor
        · intro hstate
          cases hstate
          exact ⟨rfl, hzero⟩
        · rintro ⟨rfl, -⟩
          rfl
  · intro frame other hcode hmessage
    exact frameReceived_congr _ hcode hmessage

/-- A session whose request has been sent. -/
def requestSent : List Operation := [
  .startLogin ⟨"ws://gateway", 7, 8, "secret"⟩,
  .transportOpened ⟨1, .ofSeconds 5⟩ 1,
  .sendSignIn 1700000000000 fun _ => .ok ()]

/-- A word of 2 to the 32 accepts, as does a code under another layout; the word of minus five
rejects with it; and bytes that are not fields do the same as the packet that stands for them. -/
theorem frames_decide_requestSent :
    let step := ((new {}).run requestSent).frameReceived
    ((new {}).run requestSent).state = .awaitingResponse ∧
      (step [0x18, 0x80, 0x80, 0x80, 0x80, 0x10]).session.state = .connected ∧
      (step [0x1A, 0x01, 0x05]).session.state = .connected ∧
      (step [0x18, 0xFB, 0xFF, 0xFF, 0xFF, 0x0F]).session.state = .failed (.rejected (-5)) ∧
      (step [0xFF]).session.withoutBytesReceived =
        (step Packet.parseError.encode).session.withoutBytesReceived := by
  have hwaits : ((new {}).run requestSent).state = .awaitingResponse := by decide +kernel
  obtain ⟨hdecides, hsame⟩ := frame_decides_login {} requestSent hwaits
  have hlarge : Field.Sequence [⟨3, .varint (2 ^ 32)⟩] [0x18, 0x80, 0x80, 0x80, 0x80, 0x10] :=
    Field.readAll_sound (by cbv)
  have hblock : Field.Sequence [⟨3, .block [5]⟩] [0x1A, 0x01, 0x05] :=
    Field.readAll_sound (by cbv)
  have hcoded : Field.Sequence [⟨3, .varint 0xFFFFFFFB⟩] [0x18, 0xFB, 0xFF, 0xFF, 0xFF, 0x0F] :=
    Field.readAll_sound (by cbv)
  refine ⟨hwaits, ?_, ?_, ?_, ?_⟩
  · exact ((hdecides _).1.mpr ⟨_, hlarge, fun word hlast => by cases hlast; decide⟩).1
  · exact ((hdecides _).1.mpr ⟨_, hblock, fun word hlast => by cases hlast⟩).1
  · exact ((hdecides _).2.1 (-5)).mpr (.coded hcoded rfl (by decide) (by decide))
  · exact (hsame _ _ (by decide +kernel) (by decide +kernel)).1

end Session

end GatewayLogin
