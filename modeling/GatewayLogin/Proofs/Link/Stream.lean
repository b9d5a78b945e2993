/-
What a link over a byte stream tells, and what it writes.

The reader of a stream hands out one item after another (`Framing.HandsOut`): it judges what it
holds until it needs more, and what is left at the end of the stream as the end.  A loop over these
items tells what the link tells (`StreamLink.readLoop_eq_inbound`), and that is decided by the bytes
alone.  Main statement: `StreamLink.tells_and_writes_frames`.
-/
import GatewayLogin.Link.Stream
import GatewayLogin.Proofs.Framing.RoundTrip
import GatewayLogin.Proofs.Framing.Tail

namespace GatewayLogin

/-- The items that a reader hands out that holds some bytes and is yet to receive some chunks.  What
it would hand out behind a fault is left open. -/
inductive Framing.HandsOut (framing : Framing) :
    Bytes → List Bytes → List (Except Fault Frame) → Prop where
  | frame {held body rest : Bytes} {chunks : List Bytes} {items : List (Except Fault Frame)}
      (h : framing.decode held = (.frame body, rest))
      (hlater : HandsOut framing rest chunks items) :
      HandsOut framing held chunks (.ok body :: items)
  | fault {held left : Bytes} {chunks : List Bytes} {fault : Fault}
      (items : List (Except Fault Frame)) (h : framing.decode held = (.fault fault, left)) :
      HandsOut framing held chunks (.error fault :: items)
  | arrives {held left chunk : Bytes} {chunks : List Bytes} {items : List (Except Fault Frame)}
      (h : framing.decode held = (.more, left))
      (hlater : HandsOut framing (left ++ chunk) chunks items) :
      HandsOut framing held (chunk :: chunks) items
  | faultAtEnd {held left rest : Bytes} {fault : Fault} (items : List (Except Fault Frame))
      (h : framing.decode held = (.more, left))
      (hend : framing.decodeAtEnd left = (.fault fault, rest)) :
      HandsOut framing held [] (.error fault :: items)
  | done {held left rest : Bytes} (h : framing.decode held = (.more, left))
      (hend : framing.decodeAtEnd left = (.more, rest)) :
      HandsOut framing held [] []

namespace StreamLink

open Framing

variable {framing : Framing}

/-- What is told of the items that are handed out: frames up to the first fault, and the close. -/
def readLoop : List (Except Fault Frame) → List LinkEvent
  | [] => [.closed none]
  | .ok frame :: rest => .message frame :: readLoop rest
  | .error fault :: _ => [.errored fault.message, .closed none]

/-- What is told of frames, a fault that may follow, and the close. -/
def tale (frames : List Frame) (fault? : Option Fault) : List LinkEvent :=
  frames.map .message ++ fault?.toList.map (fun fault => .errored fault.message) ++ [.closed none]

theorem inbound_eq (framing : Framing) (chunks : List Bytes) :
    inbound framing chunks =
      tale (framing.drain chunks.flatten).frames (framing.drain chunks.flatten).fault? := by
  have hending (drained : Drained) : endingError drained =
      drained.fault?.toList.map fun fault => .errored fault.message := by
    rw [endingError, Drained.fault?]
    cases drained.ending with
    | fault fault => rfl
    | overflow => rfl
    | more =>
        by_cases hleft : drained.left.isEmpty = true
        · simp only [hleft, if_true]
          rfl
        · simp only [hleft, Bool.false_eq_true, if_false]
          rfl
  rw [inbound, feedAll_eq, hending, tale]

theorem decodeAtEnd_of_more {held : Bytes} (h : framing.decode held = (.more, held)) :
    framing.decodeAtEnd held = (if held.isEmpty then .more else .fault (.io leftOver), held) := by
  simp only [decodeAtEnd, h]

/-- The loop tells what is decided by the bytes that are held and those that are yet to come. -/
theorem readLoop_eq {held : Bytes} {chunks : List Bytes} {items : List (Except Fault Frame)}
    (h : framing.HandsOut held chunks items) :
    readLoop items =
      tale (framing.drain (held ++ chunks.flatten)).frames
        (framing.drain (held ++ chunks.flatten)).fault? := by
  induction h with
  | frame hframe _ ih =>
      rw [drain_of_frame (decode_frame_append hframe _), readLoop, ih]
      rfl
  | fault items hfault =>
      rw [drain_of_ending (.fault _) (decode_fault_append hfault _)]
      rfl
  | arrives hmore _ ih =>
      obtain rfl := decode_leaves hmore (by simp)
      rw [ih, List.flatten_cons, List.append_assoc]
  | @faultAtEnd _ held _ fault items hmore hend =>
      obtain rfl := decode_leaves hmore (by simp)
      have hleft : held ≠ [] := by
        rintro rfl
        cases hend
      rw [decodeAtEnd_of_more hmore, if_neg (by simpa using hleft)] at hend
      cases hend
      rw [List.flatten_nil, List.append_nil, drain_of_ending .more hmore,
        Drained.fault?_of_more [] hleft]
      rfl
  | @done _ held _ hmore hend =>
      obtain rfl := decode_leaves hmore (by simp)
      have hleft : held = [] := by
        by_contra hne
        rw [decodeAtEnd_of_more hmore, if_neg (by simpa using hne)] at hend
        cases hend
      rw [List.flatten_nil, List.append_nil, drain_of_ending .more hmore, hleft]
      rfl

theorem readLoop_eq_inbound {chunks : List Bytes} {items : List (Except Fault Frame)}
    (h : framing.HandsOut [] chunks items) : readLoop items = inbound framing chunks := by
  rw [readLoop_eq h, inbound_eq, List.nil_append]

/-- From any bytes a reader goes on to the end if it does where it needs more. -/
theorem handsOut_of_more (hroom : framing.maxFrameSize.toNat ≤ 2 ^ 64 - 1 - 10)
    {chunks : List Bytes}
    (hmore : ∀ held, framing.decode held = (.more, held) →
      ∃ items, framing.HandsOut held chunks items)
    (held : Bytes) : ∃ items, framing.HandsOut held chunks items := by
  induction held using cutting_induction framing with
  | frame held body rest hframe ih =>
      obtain ⟨items, hitems⟩ := ih
      exact ⟨_, .frame hframe hitems⟩
  | ending held ending h =>
      cases ending with
      | more => exact hmore held h
      | fault fault => exact ⟨_, .fault [] h⟩
      | overflow => exact absurd h (decode_ne_overflow hroom held held)

/-- A reader hands something out for every stream, however it arrives. -/
theorem handsOut_exists (hroom : framing.maxFrameSize.toNat ≤ 2 ^ 64 - 1 - 10)
    (chunks : List Bytes) (held : Bytes) : ∃ items, framing.HandsOut held chunks items := by
  induction chunks generalizing held with
  | nil =>
      refine handsOut_of_more hroom (fun held hmore => ?_) held
      have hend := decodeAtEnd_of_more hmore
      by_cases hleft : held.isEmpty
      · rw [if_pos hleft] at hend
        exact ⟨[], .done hmore hend⟩
      · rw [if_neg hleft] at hend
        exact ⟨_, .faultAtEnd [] hmore hend⟩
  | cons chunk rest ih =>
      refine handsOut_of_more hroom (fun held hmore => ?_) held
      obtain ⟨items, hitems⟩ := ih (held ++ chunk)
      exact ⟨items, .arrives hmore hitems⟩

/-- A link tells a tale exactly if the stream that arrives is the frames of which it tells, and
behind them a tail that is the fault of which it tells. -/
theorem inbound_eq_iff (hroom : framing.maxFrameSize.toNat ≤ 2 ^ 64 - 1 - 10) (chunks : List Bytes)
    (events : List LinkEvent) :
    inbound framing chunks = events ↔
      ∃ frames fault? taken left, chunks.flatten = taken ++ left ∧
        framing.Carries frames taken ∧ framing.Tail left fault? ∧ events = tale frames fault? := by
  rw [inbound_eq]
  constructor
  · rintro rfl
    obtain ⟨taken, left, hstream, hcarries, htail⟩ :=
      (drain_iff_carries_tail hroom chunks.flatten _ _).mp ⟨rfl, rfl⟩
    exact ⟨_, _, taken, left, hstream, hcarries, htail, rfl⟩
  · rintro ⟨frames, fault?, taken, left, hstream, hcarries, htail, rfl⟩
    obtain ⟨hframes, hfault⟩ :=
      (drain_iff_carries_tail hroom chunks.flatten frames fault?).mpr
        ⟨taken, left, hstream, hcarries, htail⟩
    rw [hframes, hfault]

/-- Whether a command is a frame that is not too long. -/
def passes (framing : Framing) : Outbound → Bool
  | .frame frame => frame.length ≤ framing.maxFrameSize.toNat
  | .close => false

def frames : Outbound → List Frame
  | .frame frame => [frame]
  | .close => []

/-- The frames before the first close or the first frame that is too long. -/
def passing (framing : Framing) (commands : List Outbound) : List Frame :=
  (commands.takeWhile (passes framing)).flatMap frames

/-- The fault of the first command that does not pass, if that is a frame. -/
def refusal? (framing : Framing) (commands : List Outbound) : Option Fault :=
  match commands.dropWhile (passes framing) with
  | .frame frame :: _ => some (.oversizedFrame frame.length)
  | _ => none

theorem outbound_eq (framing : Framing) (commands : List Outbound) :
    outbound framing commands =
      ((passing framing commands).flatMap Block.encode,
        (refusal? framing commands).toList.map fun fault => .errored fault.message) := by
  induction commands with
  | nil => rfl
  | cons command rest ih =>
      cases command with
      | close => rfl
      | frame frame =>
          by_cases hfits : frame.length ≤ framing.maxFrameSize.toNat
          · have hpasses : passes framing (.frame frame) = true := decide_eq_true hfits
            have hencoded : framing.encode frame [] = (.ok (), Block.encode frame) :=
              if_neg (Nat.not_lt.mpr hfits)
            simp only [outbound, hencoded, ih, passing, refusal?, List.takeWhile_cons,
              List.dropWhile_cons, hpasses, if_true, List.flatMap_cons, frames]
            rfl
          · have hpasses : passes framing (.frame frame) = false := decide_eq_false hfits
            have hrefused : framing.encode frame [] = (.error (.oversizedFrame frame.length), []) :=
              if_pos (Nat.lt_of_not_le hfits)
            simp only [outbound, hrefused, passing, refusal?, List.takeWhile_cons,
              List.dropWhile_cons, hpasses, Bool.false_eq_true, if_false]
            rfl

/-- Under a maximum of at most 16 MiB: for every stream that a peer sends before it closes, in
whatever chunks, a reader hands out items, and the loop over them tells what the link tells.  That
is a message for each frame of the stream, in order, an error if there is a fault behind them, which
is a length that is refused or a frame that is not whole, and the close.  What is written for any
commands is the frames before the first close or the first frame that is too long, each behind its
length, and there is an error exactly if such a frame comes first. -/
theorem tells_and_writes_frames (framing : Framing)
    (hmax : framing.maxFrameSize.toNat ≤ 16 * 1024 * 1024) :
    (∀ chunks : List Bytes,
      (∃ items, framing.HandsOut [] chunks items) ∧
        ∀ items, framing.HandsOut [] chunks items → readLoop items = inbound framing chunks) ∧
    (∀ (chunks : List Bytes) (events : List LinkEvent),
      inbound framing chunks = events ↔
        ∃ frames fault? taken left, chunks.flatten = taken ++ left ∧
          framing.Carries frames taken ∧ framing.Tail left fault? ∧ events = tale frames fault?) ∧
    ∀ commands : List Outbound,
      outbound framing commands =
        ((passing framing commands).flatMap Block.encode,
          (refusal? framing commands).toList.map fun fault => .errored fault.message) := by
  have hroom : framing.maxFrameSize.toNat ≤ 2 ^ 64 - 1 - 10 := by omega
  refine ⟨fun chunks => ⟨handsOut_exists hroom chunks [], fun items => readLoop_eq_inbound⟩, ?_, ?_⟩
  · intro chunks events
    exact inbound_eq_iff hroom chunks events
  · intro commands
    exact outbound_eq framing commands

/-- A frame that arrives in two chunks, and then a length above the maximum, or a frame of which the
peer sends only a part; and two frames to be written, of which the second is too long. -/
theorem tells_and_writes_at_maximum :
    let framing : Framing := ⟨4⟩
    framing.maxFrameSize.toNat ≤ 16 * 1024 * 1024 ∧
      inbound framing [[0x02, 0xAA], [0xBB, 0x85], [0x00, 0x01]] =
        [.message [0xAA, 0xBB], .errored "Frame too large: 5 bytes", .closed none] ∧
      inbound framing [[0x02, 0xAA], [0xBB, 0x02], [0xCC]] =
        [.message [0xAA, 0xBB], .errored "I/O error: bytes remaining on stream", .closed none] ∧
      outbound framing [.frame [0xAA], .frame [1, 2, 3, 4, 5], .frame [0xBB], .close] =
        ([0x01, 0xAA], [.errored "Frame too large: 5 bytes"]) := by
  intro framing
  have hmax : framing.maxFrameSize.toNat ≤ 16 * 1024 * 1024 := by decide
  have htwo : Varint.Form [0x02] 2 := ⟨.last (b := 0x02) (by decide), by decide⟩
  have hfive : Varint.Form [0x85, 0x00] 5 :=
    ⟨.more (b := 0x85) (by decide) (.last (b := 0x00) (by decide)), by decide⟩
  have hcarries : framing.Carries [[0xAA, 0xBB]] [0x02, 0xAA, 0xBB] :=
    @Carries.cons framing [0x02] [0xAA, 0xBB] [] 2 [] htwo rfl (by decide) .nil
  have hlong : framing.Tail [0x85, 0x00, 0x01] (some (.oversizedFrame 5)) :=
    @Tail.oversized framing [0x85, 0x00] [0x01] 5 hfive (by decide)
  have hshort : framing.Tail [0x02, 0xCC] (some (.io leftOver)) :=
    @Tail.insideBody framing [0x02] [0xCC] 2 htwo (by decide) (by decide)
  obtain ⟨-, htold, hwritten⟩ := tells_and_writes_frames framing hmax
  refine ⟨hmax, ?_, ?_, ?_⟩
  · exact (htold _ _).mpr ⟨[[0xAA, 0xBB]], some (.oversizedFrame 5), [0x02, 0xAA, 0xBB],
      [0x85, 0x00, 0x01], rfl, hcarries, hlong, by decide +kernel⟩
  · exact (htold _ _).mpr ⟨[[0xAA, 0xBB]], some (.io leftOver), [0x02, 0xAA, 0xBB],
      [0x02, 0xCC], rfl, hcarries, hshort, by decide +kernel⟩
  · rw [hwritten]
    decide +kernel

end StreamLink

end GatewayLogin
