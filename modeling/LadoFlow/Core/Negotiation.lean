import LadoFlow.Protocol.Message

/-!
# Negotiation

Selection of the highest shared protocol version and intersection of the endpoint limits.
-/

namespace LadoFlow.Core

open LadoFlow.Protocol Framework

/-- Capability limits and masks supported by both endpoints. -/
structure NegotiatedCapabilities where
  maxWidth : UInt16
  maxHeight : UInt16
  maxRefreshMillihz : UInt32
  maxBitrateKbps : UInt32
  codecBits : UInt16
  inputBits : UInt16
  featureBits : UInt32
  deriving DecidableEq, Repr

/-- Result of a successful hello and capability exchange. -/
structure NegotiatedSession where
  protocolVersion : UInt16
  capabilities : NegotiatedCapabilities
  deriving DecidableEq, Repr

inductive NegotiationError where
  | matchingRoles
  | noProtocolOverlap
  | noCommonCodec
  deriving DecidableEq, Repr

/-- Scalar limits take the lower endpoint maximum, masks take the bitwise intersection. -/
def intersect (localCapabilities remoteCapabilities : Capabilities) : NegotiatedCapabilities where
  maxWidth := min localCapabilities.maxWidth remoteCapabilities.maxWidth
  maxHeight := min localCapabilities.maxHeight remoteCapabilities.maxHeight
  maxRefreshMillihz := min localCapabilities.maxRefreshMillihz remoteCapabilities.maxRefreshMillihz
  maxBitrateKbps := min localCapabilities.maxBitrateKbps remoteCapabilities.maxBitrateKbps
  codecBits := localCapabilities.codecs.bits &&& remoteCapabilities.codecs.bits
  inputBits := localCapabilities.input.bits &&& remoteCapabilities.input.bits
  featureBits := localCapabilities.features.bits &&& remoteCapabilities.features.bits

theorem le_min_uint16 {a b c : UInt16} : a ≤ min b c ↔ a ≤ b ∧ a ≤ c := by
  change a ≤ (if b ≤ c then b else c) ↔ _
  simp only [UInt16.le_iff_toNat_le]
  split <;> omega

theorem le_min_uint32 {a b c : UInt32} : a ≤ min b c ↔ a ≤ b ∧ a ≤ c := by
  change a ≤ (if b ≤ c then b else c) ↔ _
  simp only [UInt32.le_iff_toNat_le]
  split <;> omega

def negotiate (localHello : Hello) (localCapabilities : Capabilities) (remoteHello : Hello)
    (remoteCapabilities : Capabilities) : Except NegotiationError NegotiatedSession :=
  if localHello.role = remoteHello.role then .error .matchingRoles
  else
  let lowestSharedVersion := max localHello.minProtocol remoteHello.minProtocol
  let highestSharedVersion := min localHello.maxProtocol remoteHello.maxProtocol
  if lowestSharedVersion > highestSharedVersion then .error .noProtocolOverlap
  else
  let codecBits := localCapabilities.codecs.bits &&& remoteCapabilities.codecs.bits
  if codecBits = 0 then .error .noCommonCodec
  else .ok
    { protocolVersion := highestSharedVersion
      capabilities := intersect localCapabilities remoteCapabilities }

theorem negotiate_eq_ok {localHello remoteHello : Hello}
    {localCapabilities remoteCapabilities : Capabilities} {session : NegotiatedSession} :
    negotiate localHello localCapabilities remoteHello remoteCapabilities = .ok session ↔
      localHello.role ≠ remoteHello.role ∧
      max localHello.minProtocol remoteHello.minProtocol ≤
        min localHello.maxProtocol remoteHello.maxProtocol ∧
      localCapabilities.codecs.bits &&& remoteCapabilities.codecs.bits ≠ 0 ∧
      session = ⟨min localHello.maxProtocol remoteHello.maxProtocol,
        intersect localCapabilities remoteCapabilities⟩ := by
  simp only [negotiate, ite_error_eq_ok, gt_iff_lt, UInt16.not_lt, Except.ok.injEq, ne_eq,
    eq_comm (a := session)]

end LadoFlow.Core
