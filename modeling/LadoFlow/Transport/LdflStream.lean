import LadoFlow.Protocol.FrameDecoder
import LadoFlow.Transport.Loopback

/-!
# LDFL frames over packet queues

The boundary between a raw LDFL byte stream and the two packet queues of a link. The mux reads
the control queue and the media queue in two separate critical sections, so the two guarded reads
and the choice between the held packets are definitions of their own.
-/

namespace LadoFlow.Transport

open LadoFlow.Protocol Framework

/-- Invalid LDFL framing or queue state at a byte-stream transport boundary. -/
inductive LdflStreamError where
  | decode (error : ProtocolError)
  | partialPacket
  | trailingBytes
  | wrongChannel (kind : MessageType) (actual expected : Channel)
  | duplicateSequence (sequence : UInt64)
  | queueDisconnected (channel : Channel)
  deriving DecidableEq, Repr

def channelForMessage : MessageType → Channel
  | .videoFrame => .media
  | _ => .control

def packetFromFrame (frame : Frame) : Packet :=
  if channelForMessage frame.header.kind = .media then .media frame.encode
  else .control frame.encode

/-- Validate one packet and return its global LDFL sequence number. -/
def ldflPacketSequence (packet : Packet) : Except LdflStreamError UInt64 :=
  match Frame.decodePrefix packet.payload with
  | .error error => .error (.decode error)
  | .ok (.needMoreData _) => .error .partialPacket
  | .ok (.complete frame consumed) =>
    if consumed ≠ packet.len then .error .trailingBytes
    else
    let expected := channelForMessage frame.header.kind
    if packet.channel ≠ expected then
      .error (.wrongChannel frame.header.kind packet.channel expected)
    else .ok frame.header.sequence

@[simp] theorem packetFromFrame_payload (frame : Frame) :
    (packetFromFrame frame).payload = frame.encode := by
  rw [packetFromFrame]
  split <;> rfl

@[simp] theorem packetFromFrame_channel (frame : Frame) :
    (packetFromFrame frame).channel = channelForMessage frame.header.kind := by
  rw [packetFromFrame]
  split
  · rename_i hmedia
    exact hmedia.symm
  · rename_i hmedia
    cases h : channelForMessage frame.header.kind with
    | control => rfl
    | media => exact absurd h hmedia

@[simp] theorem packetFromFrame_key (frame : Frame) :
    (packetFromFrame frame).supersessionKey = none := by
  rw [packetFromFrame]
  split <;> rfl

/-- A packet without a key that carries one frame on its own channel is the packet of the frame. -/
theorem eq_packetFromFrame {packet : Packet} {frame : Frame}
    (hkey : packet.supersessionKey = none) (hpayload : packet.payload = frame.encode)
    (hchannel : packet.channel = channelForMessage frame.header.kind) :
    packet = packetFromFrame frame := by
  rw [← packetFromFrame_channel] at hchannel
  rw [← packetFromFrame_payload] at hpayload
  rw [← packetFromFrame_key frame] at hkey
  cases packet
  cases hpacket : packetFromFrame frame
  rw [hpacket] at hkey hpayload hchannel
  simp only at hkey hpayload hchannel
  rw [hkey, hpayload, hchannel]

/-- The packet of a frame carries the sequence of the frame. -/
theorem ldflPacketSequence_packetFromFrame (frame : Frame) :
    ldflPacketSequence (packetFromFrame frame) = .ok frame.header.sequence := by
  have hdecode := frame.decodePrefix_encode []
  rw [List.append_nil] at hdecode
  simp [ldflPacketSequence, Packet.len, hdecode]

/-- Both packets carry a sequence and the first one is smaller. -/
def Precedes (first second : Packet) : Prop :=
  ∃ a ∈ (ldflPacketSequence first).toOption, ∃ b ∈ (ldflPacketSequence second).toOption, a < b

instance (first second : Packet) : Decidable (Precedes first second) :=
  inferInstanceAs (Decidable (∃ a ∈ _, ∃ b ∈ _, a < b))

theorem precedes_iff {first second : Packet} :
    Precedes first second ↔ ∃ a b, ldflPacketSequence first = .ok a ∧
      ldflPacketSequence second = .ok b ∧ a < b := by
  rw [Precedes]
  cases ldflPacketSequence first <;> cases ldflPacketSequence second <;>
    simp [Except.toOption]

theorem Precedes.trans {first second third : Packet} (h : Precedes first second)
    (h' : Precedes second third) : Precedes first third := by
  obtain ⟨a, b, ha, hb, hab⟩ := precedes_iff.mp h
  obtain ⟨b', c, hb', hc, hbc⟩ := precedes_iff.mp h'
  cases hb.symm.trans hb'
  exact precedes_iff.mpr ⟨a, c, ha, hc, UInt64.lt_trans hab hbc⟩

structure LdflPacketDecoder where
  decoder : FrameDecoder

namespace LdflPacketDecoder

def new : LdflPacketDecoder := ⟨.new⟩

def push (decoder : LdflPacketDecoder) (bytes : Bytes) :
    LdflPacketDecoder × Except LdflStreamError (List Packet) :=
  match decoder.decoder.push bytes with
  | (inner, .ok frames) => (⟨inner⟩, .ok (frames.map packetFromFrame))
  | (inner, .error error) => (⟨inner⟩, .error (.decode error))

end LdflPacketDecoder

/-- The packets read ahead from the two queues. -/
structure LdflPacketMux where
  control : Option Packet
  media : Option Packet
  deriving DecidableEq, Repr

namespace LdflPacketMux

def default : LdflPacketMux := ⟨none, none⟩

def slot (mux : LdflPacketMux) : Channel → Option Packet
  | .control => mux.control
  | .media => mux.media

def setSlot (mux : LdflPacketMux) (packet : Option Packet) : Channel → LdflPacketMux
  | .control => { mux with control := packet }
  | .media => { mux with media := packet }

@[simp] theorem slot_setSlot (mux : LdflPacketMux) (packet : Option Packet) (channel : Channel) :
    (mux.setSlot packet channel).slot channel = packet := by
  cases channel <;> rfl

theorem slot_setSlot_ne (mux : LdflPacketMux) (packet : Option Packet) {channel other : Channel}
    (h : other ≠ channel) : (mux.setSlot packet channel).slot other = mux.slot other := by
  cases channel <;> cases other <;> first | rfl | exact absurd rfl h

/-- `if self.slot.is_none() { self.slot = endpoint.try_receive(channel)?; }` -/
def receive (mux : LdflPacketMux) (link : Link) (side : Side) (channel : Channel) :
    Except LdflStreamError Unit × LdflPacketMux × Link :=
  if (mux.slot channel).isNone then
    match link.tryReceive side channel with
    | (.ok packet, link) => (.ok (), mux.setSlot packet channel, link)
    | (.error _, link) => (.error (.queueDisconnected channel), mux, link)
  else (.ok (), mux, link)

/-- The choice between the held packets. -/
def select (mux : LdflPacketMux) : Except LdflStreamError (Option Packet) × LdflPacketMux :=
  match mux.control, mux.media with
  | some control, some media =>
    match ldflPacketSequence control with
    | .error error => (.error error, mux)
    | .ok controlSequence =>
    match ldflPacketSequence media with
    | .error error => (.error error, mux)
    | .ok mediaSequence =>
    if controlSequence = mediaSequence then (.error (.duplicateSequence controlSequence), mux)
    else if controlSequence < mediaSequence then (.ok (some control), { mux with control := none })
    else (.ok (some media), { mux with media := none })
  | some control, none =>
    match ldflPacketSequence control with
    | .error error => (.error error, mux)
    | .ok _ => (.ok (some control), { mux with control := none })
  | none, some media =>
    match ldflPacketSequence media with
    | .error error => (.error error, mux)
    | .ok _ => (.ok (some media), { mux with media := none })
  | none, none => (.ok none, mux)

/-- The choice fails and changes nothing, has nothing to choose from, or returns a held frame that
precedes the other held one. -/
theorem select_cases (mux : LdflPacketMux) :
    (∃ error, mux.select = (.error error, mux)) ∨
    ((∀ channel, mux.slot channel = none) ∧ mux.select = (.ok none, mux)) ∨
    ∃ channel packet sequence, mux.slot channel = some packet ∧
      ldflPacketSequence packet = .ok sequence ∧
      (∀ other, other ≠ channel → ∀ held ∈ mux.slot other, Precedes packet held) ∧
      mux.select = (.ok (some packet), mux.setSlot none channel) := by
  obtain ⟨control, media⟩ := mux
  cases control with
  | none =>
    cases media with
    | none =>
      refine .inr (.inl ⟨?_, rfl⟩)
      intro channel
      cases channel <;> rfl
    | some media =>
      cases hm : ldflPacketSequence media with
      | error error => exact .inl ⟨error, by simp only [select, hm]⟩
      | ok mediaSequence =>
        refine .inr (.inr ⟨.media, media, mediaSequence, rfl, hm, ?_, by
          simp only [select, hm, setSlot]⟩)
        intro other hother held hheld
        cases other with
        | control => cases hheld
        | media => exact absurd rfl hother
  | some control =>
    cases media with
    | none =>
      cases hc : ldflPacketSequence control with
      | error error => exact .inl ⟨error, by simp only [select, hc]⟩
      | ok controlSequence =>
        refine .inr (.inr ⟨.control, control, controlSequence, rfl, hc, ?_, by
          simp only [select, hc, setSlot]⟩)
        intro other hother held hheld
        cases other with
        | control => exact absurd rfl hother
        | media => cases hheld
    | some media =>
      cases hc : ldflPacketSequence control with
      | error error => exact .inl ⟨error, by simp only [select, hc]⟩
      | ok controlSequence =>
      cases hm : ldflPacketSequence media with
      | error error => exact .inl ⟨error, by simp only [select, hc, hm]⟩
      | ok mediaSequence =>
      simp only [select, hc, hm]
      by_cases heq : controlSequence = mediaSequence
      · exact .inl ⟨_, if_pos heq⟩
      by_cases hlt : controlSequence < mediaSequence
      · refine .inr (.inr ⟨.control, control, controlSequence, rfl, hc, ?_, by
          rw [if_neg heq, if_pos hlt]; rfl⟩)
        intro other hother held hheld
        cases other with
        | control => exact absurd rfl hother
        | media =>
          cases hheld
          exact precedes_iff.mpr ⟨_, _, hc, hm, hlt⟩
      · refine .inr (.inr ⟨.media, media, mediaSequence, rfl, hm, ?_, by
          rw [if_neg heq, if_neg hlt]; rfl⟩)
        intro other hother held hheld
        cases other with
        | control =>
          cases hheld
          have hle := UInt64.not_lt.mp hlt
          exact precedes_iff.mpr ⟨_, _, hm, hc, UInt64.lt_of_le_of_ne hle (Ne.symm heq)⟩
        | media => exact absurd rfl hother

def next (mux : LdflPacketMux) (link : Link) (side : Side) :
    Except LdflStreamError (Option Packet) × LdflPacketMux × Link :=
  match mux.receive link side .control with
  | (.error error, mux, link) => (.error error, mux, link)
  | (.ok (), mux, link) =>
  match mux.receive link side .media with
  | (.error error, mux, link) => (.error error, mux, link)
  | (.ok (), mux, link) =>
  let (result, mux) := mux.select
  (result, mux, link)

end LdflPacketMux

end LadoFlow.Transport
