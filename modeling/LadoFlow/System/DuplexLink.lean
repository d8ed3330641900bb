import LadoFlow.Android.UsbIoSessionLaw
import LadoFlow.Transport.TcpFifo

/-!
# The host's worker and the phone's session on one connection

The TCP worker of the host and the I/O session of the phone, each reading what the other has written. Every
frame that one side hands on was sent by the other, in the order of its writing, whatever the pieces of the
streams, the schedule and the failures of either side.
-/

namespace LadoFlow.System

open Framework Protocol Transport Android

structure DuplexLink where
  host : TcpHistory
  phone : UsbIoSession

inductive DuplexTurn where
  | host (turn : TcpTurn)
  | phone (step : UsbIoStep)

namespace DuplexLink

def start : DuplexLink := ⟨.start, .start⟩

/-- A stream gives the bytes of the other side in order; it may fail or end at any time. -/
def step (s : DuplexLink) : DuplexTurn → Option DuplexLink
  | .host turn =>
    if ∀ bytes ∈ turn.bytes, s.host.ledger.consumed ++ bytes <+: unsigned s.phone.log.bytesWritten then
      (s.host.step turn).map fun host => { s with host }
    else none
  | .phone step =>
    if ∀ bytes ∈ step.bytes, unsigned (s.phone.log.bytesRead ++ bytes) <+: s.host.ledger.sent then
      (s.phone.next step).map fun phone => { s with phone }
    else none

def machine : Framework.Machine DuplexLink DuplexTurn := ⟨step⟩

/-- The host's application sends packets without keys. -/
def SendsUnkeyed (s : DuplexLink) : DuplexTurn → Prop
  | .host turn => s.host.SendsUnkeyed turn
  | .phone _ => True

/-- Both sides keep to their streams, and each has read the start of what the other has written. -/
structure Carried (s : DuplexLink) : Prop where
  sends : s.host.Sends
  reads : s.host.Reads
  phone : s.phone.Inv
  toPhone : unsigned s.phone.log.bytesRead <+: s.host.ledger.sent
  toHost : s.host.ledger.consumed <+: unsigned s.phone.log.bytesWritten

theorem carried_start : start.Carried where
  sends := TcpPacketTransport.sends_start
  reads := TcpPacketTransport.reads_start
  phone := UsbIoSession.inv_start
  toPhone := List.nil_prefix
  toHost := List.nil_prefix

theorem carried_step {s t : DuplexLink} {turn : DuplexTurn} (h : s.Carried) (hguard : s.SendsUnkeyed turn)
    (hstep : s.step turn = some t) : t.Carried := by
  cases turn with
  | host turn =>
    obtain ⟨hwire, hstep⟩ := Option.ite_none_right_eq_some.mp hstep
    obtain ⟨host, hhost, rfl⟩ := Option.map_eq_some_iff.mp hstep
    obtain ⟨event, hturned, hledger⟩ := TcpHistory.step_turned hhost
    obtain ⟨hsent, hconsumed⟩ := hturned.stream s.host.ledger
    rw [← hledger] at hsent hconsumed
    obtain ⟨frames, -, hstream⟩ := h.phone.writes.stream
    refine ⟨TcpHistory.sends_step h.sends hguard hhost, TcpHistory.reads_step h.reads ?_ hhost, h.phone,
      h.toPhone.trans hsent, ?_⟩
    · cases turn with
      | read result =>
        intro bytes hbytes
        obtain ⟨more, hmore⟩ := (hwire bytes hbytes).trans hstream
        exact ⟨frames, more, hmore⟩
      | _ => trivial
    · rcases hconsumed with hsame | ⟨bytes, hbytes, hmore⟩
      · dsimp only
        rw [hsame]
        exact h.toHost
      · dsimp only
        rw [hmore]
        exact hwire bytes hbytes
  | phone step =>
    obtain ⟨hwire, hstep⟩ := Option.ite_none_right_eq_some.mp hstep
    obtain ⟨phone, hphone, rfl⟩ := Option.map_eq_some_iff.mp hstep
    obtain ⟨hwritten, hread⟩ := UsbIoSession.log_step hphone
    refine ⟨h.sends, h.reads, UsbIoSession.inv_step h.phone hphone, ?_, h.toHost.trans (hwritten.map _)⟩
    rcases hread with hsame | ⟨bytes, hbytes, hmore⟩
    · dsimp only
      rw [hsame]
      exact h.toPhone
    · dsimp only
      rw [hmore]
      exact hwire bytes hbytes

section Runs

instance (s : DuplexLink) : (turn : DuplexTurn) → Decidable (s.SendsUnkeyed turn)
  | .host (.trySend packet) => inferInstanceAs (Decidable (packet.supersessionKey = none))
  | .host (.tryReceive _) | .host .shutdown | .host .checkCancel | .host .drainInbound | .host .next
  | .host (.writePending _) | .host (.read _) | .phone _ => .isTrue trivial

/-- The host's ping is written in two parts, the phone answers with a pong. -/
private def pingPong : List DuplexTurn :=
  [.trySend (packetFromFrame (.empty .ping 7)), .checkCancel, .drainInbound, .next, .next, .next,
    .writePending (.ok 10), .read .wouldBlock].map .host ++
  [.read (.count (signed ((Frame.empty .ping 7).encode.take 10)))].map .phone ++
  [.checkCancel, .drainInbound, .writePending (.ok 14), .read .wouldBlock].map .host ++
  [.read (.count (signed ((Frame.empty .ping 7).encode.drop 10))), .deliver, .receive,
    .sendControl (FrameCodec.ofFrame (.empty .pong 3)), .take, .write none].map .phone ++
  [.checkCancel, .drainInbound, .next, .next, .next, .read (.ok (Frame.empty .pong 3).encode), .checkCancel,
    .drainInbound, .tryReceive .control].map .host

end Runs

end DuplexLink

end LadoFlow.System
