import LadoFlow.Host.LoopbackWorker
import LadoFlow.Transport.LinkHistory

/-!
# Loopback accounting

The reconstructed depth is the length of the queue until a frame replaces a queued one while two key
frames wait. The worker then forgets the older key frame and does not count its presentation.
-/

namespace LadoFlow.Host

open LadoFlow.Protocol LadoFlow.Core LadoFlow.Media LadoFlow.Transport Framework

section Packets

def isKeyPacket (packet : Packet) : Bool := packet.supersessionKey.isNone

/-- The sequence of a packet that holds a video frame. -/
def sequenceOf (packet : Packet) : UInt64 := (presentedSequence packet).getD 0

/-- A media packet of the worker. -/
structure Carries (packet : Packet) : Prop where
  presented : presentedSequence packet = some (sequenceOf packet)
  channel : packet.channel = .media
  key : packet.supersessionKey = none ∨ packet.supersessionKey = some mediaStreamKey

variable {frame : MediaFrame} {packet : Packet}

/-- The packet of a frame says its sequence and its kind, and its frame takes time. -/
theorem protocolPacket_ok (h : protocolPacket frame = .ok packet) :
    Carries packet ∧ sequenceOf packet = frame.metadata.sequence ∧
      isKeyPacket packet = decide (frame.metadata.kind = .key) ∧
      frame.metadata.duration.nanos / 1000 ≠ 0 := by
  obtain ⟨duration, hduration, h⟩ := bind_eq_ok.mp h
  obtain ⟨wireMetadata, hmetadata, h⟩ := bind_eq_ok.mp h
  obtain ⟨videoFrame, hvideo, h⟩ := bind_eq_ok.mp h
  obtain ⟨wireFrame, hframe, h⟩ := bind_eq_ok.mp h
  have hmetadata := liftProtocol_eq_ok.mp hmetadata
  have hvideo := liftProtocol_eq_ok.mp hvideo
  have hframe := liftProtocol_eq_ok.mp hframe
  obtain ⟨built, hbuilt, -, hdecode⟩ := Frame.decodePayload_fromPayload VideoFrame.canonical
    (Payload.constructible .videoFrame videoFrame)
    (if frame.metadata.kind = .key then FrameFlags.keyframe else FrameFlags.none)
    frame.metadata.sequence
  cases hframe.symm.trans hbuilt
  have hid : videoFrame.metadata.frameId = frame.metadata.sequence := by
    rw [(VideoFrame.new_eq_ok.mp hvideo).1, (VideoFrameMetadata.new_eq_ok.mp hmetadata).1]
  have hprefix := wireFrame.decodePrefix_encode []
  rw [List.append_nil] at hprefix
  have hpresented : ∀ whole : Packet, whole.payload = wireFrame.encode →
      presentedSequence whole = some frame.metadata.sequence := by
    intro whole hpayload
    rw [presentedSequence, Packet.len, hpayload, hprefix]
    simp only [ne_eq, not_true_eq_false, if_false, hdecode, hid]
  have hpositive : frame.metadata.duration.nanos / 1000 ≠ 0 := by
    intro hzero
    have hvalid := (VideoFrameMetadata.new_eq_ok.mp hmetadata).2.2.2
    rw [durationMicrosU32, hzero] at hduration
    cases hduration
    have hvalidated := wireMetadata.valid
    rw [hvalid] at hvalidated
    cases hvalidated
  by_cases hkey : frame.metadata.kind = .key
  · rw [if_pos hkey] at h
    cases h
    have hwhole := hpresented (.media wireFrame.encode) rfl
    refine ⟨⟨?_, rfl, .inl rfl⟩, ?_, by simp [isKeyPacket, Packet.media, hkey], hpositive⟩
    · rw [sequenceOf, hwhole, Option.getD_some]
    · rw [sequenceOf, hwhole, Option.getD_some]
  · rw [if_neg hkey] at h
    cases h
    have hwhole := hpresented (.replaceableMedia mediaStreamKey wireFrame.encode) rfl
    refine ⟨⟨?_, rfl, .inr rfl⟩, ?_, by simp [isKeyPacket, Packet.replaceableMedia, hkey],
      hpositive⟩
    · rw [sequenceOf, hwhole, Option.getD_some]
    · rw [sequenceOf, hwhole, Option.getD_some]

/-- A delta frame makes every queued delta frame obsolete, and a key frame none. -/
theorem supersedes_iff (h : Carries packet) {queued : Packet} (hqueued : Carries queued) :
    BoundedQueue.supersedes packet queued = (!isKeyPacket packet && !isKeyPacket queued) := by
  rw [BoundedQueue.supersedes, isKeyPacket, isKeyPacket]
  cases h.key with
  | inl hkey => simp [hkey]
  | inr hkey =>
    cases hqueued.key with
    | inl hother => simp [hkey, hother]
    | inr hother => simp [hkey, hother]

end Packets

namespace SharedState

variable (state : SharedState)

/-- The video counters are the same. -/
structure SameVideo (before after : SharedState) : Prop where
  queueDepth : after.queueDepth = before.queueDepth
  framesProduced : after.framesProduced = before.framesProduced
  framesPresented : after.framesPresented = before.framesPresented
  framesSuperseded : after.framesSuperseded = before.framesSuperseded

theorem countDropped_sameVideo (count : Nat) : SameVideo state (state.countDropped count) :=
  ⟨rfl, rfl, rfl, rfl⟩

theorem recordLatency_sameVideo (latency : Duration) :
    SameVideo state (state.recordLatency latency) := by
  rw [recordLatency]
  split
  · exact ⟨rfl, rfl, rfl, rfl⟩
  · exact ⟨rfl, rfl, rfl, rfl⟩

/-- An active session observes every sequence. -/
theorem observePresented_true (sequence : UInt64) :
    ∃ session, state.observePresented sequence = (true, { state with session }) := by
  rw [observePresented]
  split
  · exact ⟨state.session, rfl⟩
  · rename_i session hsession
    by_cases hactive : session.phase = .active
    · rw [if_pos hactive]
      by_cases hfresh : session.highestSequence.any (sequence ≤ ·) = true
      · cases Session.observeSequence_stale hactive hfresh with
        | inl hduplicate => exact ⟨some session, by rw [hduplicate]⟩
        | inr hstale =>
          obtain ⟨highest, hstale⟩ := hstale
          exact ⟨some session, by rw [hstale]⟩
      · obtain ⟨skipped, haccepted⟩ := Session.observeSequence_fresh hactive hfresh
        exact ⟨_, by rw [haccepted]⟩
    · rw [if_neg hactive]
      exact ⟨state.session, rfl⟩

end SharedState

namespace LoopbackWorker

/-- The queue of frames on their way to the display. -/
def media (worker : LoopbackWorker) : BoundedQueue := worker.link.firstToSecond.media

/-- The link is up, and the media queue keeps its bounds. -/
structure Linked (link : Link) : Prop where
  connected : link.connected = true
  limits : (link.lane .first .media).limits = defaultMediaLimits
  bounded : (link.lane .first .media).Bounded

section Operations

variable {worker : LoopbackWorker} {packet : Packet}

/-- How many queued packets a send of the packet replaces. -/
def replacedBy (worker : LoopbackWorker) (packet : Packet) : Nat :=
  match (worker.link.trySend .first packet).1 with
  | .ok report => report.superseded.packets
  | .error _ => 0

/-- The send times after a send that replaces that many packets. -/
def remember (worker : LoopbackWorker) (sequence : UInt64) (replaced : Nat) (now : Duration) :
    UInt64 → Option Duration := fun queued =>
  if queued = sequence then some now
  else if replaced > 0 then
    if some queued = worker.lastKeySequence then worker.sentAt queued else none
  else worker.sentAt queued

/-- The worker after a send that the link accepts. -/
def afterSend (worker : LoopbackWorker) (link : Link) (sequence : UInt64) (isKey : Bool)
    (replaced : Nat) (now : Duration) : LoopbackWorker :=
  { worker with
    link
    lastKeySequence := if isKey then some sequence else worker.lastKeySequence
    sentAt := worker.remember sequence replaced now
    shared := worker.shared.countSent replaced }

theorem send_cases (hlinked : Linked worker.link) (hchannel : packet.channel = .media)
    (sequence : UInt64) (isKey : Bool) (now : Duration) :
    (worker.send sequence isKey packet now = { worker with shared := worker.shared.countDropped 1 } ∧
      worker.replacedBy packet = 0) ∨
    ∃ link, Linked link ∧
      link.firstToSecond.media.packets = worker.media.survivors packet ++ [packet] ∧
      worker.replacedBy packet = (worker.media.obsolete packet).length ∧
      worker.send sequence isKey packet now =
        worker.afterSend link sequence isKey (worker.replacedBy packet) now := by
  have hsend := @Link.trySend_eq worker.link .first hlinked.connected packet
  rw [hchannel] at hsend
  have hpackets : (worker.link.lane .first .media).limits.maxPackets ≤ usizeMax := by
    rw [hlinked.limits]
    decide
  have hbytes : (worker.link.lane .first .media).limits.maxQueuedBytes ≤ usizeMax := by
    rw [hlinked.limits]
    decide
  have heffect :=
    @BoundedQueue.tryPush_effect _ packet hlinked.bounded hpackets hbytes
  generalize hpush : (worker.link.lane .first .media).tryPush packet = pushed at hsend heffect
  obtain ⟨result, after⟩ := pushed
  have hafter := hlinked.bounded.push heffect
  cases heffect with
  | tooLarge =>
    rw [Link.setLane_lane] at hsend
    exact .inl ⟨by rw [send, hsend], by rw [replacedBy, hsend]⟩
  | full =>
    rw [Link.setLane_lane] at hsend
    exact .inl ⟨by rw [send, hsend], by rw [replacedBy, hsend]⟩
  | queued _ _ _ hlimits hqueue _ =>
    right
    have hreplaced : worker.replacedBy packet = (worker.media.obsolete packet).length := by
      rw [replacedBy, hsend]
      rfl
    refine ⟨worker.link.setLane after .first .media, ⟨?_, ?_, ?_⟩, ?_, hreplaced, ?_⟩
    · rw [Link.setLane_connected]
      exact hlinked.connected
    · rw [Link.lane_setLane_self, hlimits]
      exact hlinked.limits
    · rw [Link.lane_setLane_self]
      exact hafter
    · exact hqueue
    · rw [hreplaced, send, hsend, afterSend]
      simp only [LoopbackWorker.mk.injEq, true_and]
      refine ⟨?_, rfl⟩
      funext queued
      by_cases hmore : (worker.media.obsolete packet).length > 0
      · have hlane : ((worker.link.lane .first .media).obsolete packet).length > 0 := hmore
        simp only [remember, if_pos hmore, if_pos hlane]
      · have hlane : ¬((worker.link.lane .first .media).obsolete packet).length > 0 := hmore
        simp only [remember, if_neg hmore, if_neg hlane]

/-- The display takes the head of the queue. A frame with a known send time counts as presented. -/
theorem presentLatest_cases (hlinked : Linked worker.link) (now : Duration) :
    (worker.mediaQueue = [] ∧ worker.presentLatest now = worker) ∨
    ∃ head link, Linked link ∧ worker.mediaQueue = head :: link.firstToSecond.media.packets ∧
      ∀ sequence, presentedSequence head = some sequence →
        (worker.sentAt sequence = none → worker.presentLatest now = { worker with link }) ∧
        ∀ startedAt, worker.sentAt sequence = some startedAt → ∃ shared,
          SharedState.SameVideo worker.shared.countPresented shared ∧
          worker.presentLatest now = { worker with
            link
            sentAt := fun queued => if queued = sequence then none else worker.sentAt queued
            shared } := by
  have hreceive := @Link.tryReceive_eq worker.link .second .media hlinked.connected
  have hafter : (worker.link.lane .first .media).pop.2.Bounded := hlinked.bounded.pop
  cases BoundedQueue.pop_cases (worker.link.lane .first .media) with
  | inl hempty =>
    obtain ⟨hqueue, hpop⟩ := hempty
    rw [show Side.second.other = .first from rfl, hpop, Link.setLane_lane] at hreceive
    exact .inl ⟨hqueue, by rw [presentLatest, hreceive]⟩
  | inr hhead =>
    obtain ⟨head, queue, hpop, hqueue⟩ := hhead
    have hlimits : queue.limits = defaultMediaLimits := by
      rw [BoundedQueue.pop, hqueue] at hpop
      have hsame := congrArg (fun popped => popped.2.limits) hpop
      exact hsame.symm.trans hlinked.limits
    rw [hpop] at hafter
    rw [show Side.second.other = .first from rfl, hpop] at hreceive
    right
    refine ⟨head, worker.link.setLane queue .first .media, ⟨?_, ?_, ?_⟩, hqueue, ?_⟩
    · rw [Link.setLane_connected]
      exact hlinked.connected
    · rw [Link.lane_setLane_self]
      exact hlimits
    · rw [Link.lane_setLane_self]
      exact hafter
    · intro sequence hpresented
      constructor
      · intro hforgotten
        rw [presentLatest, hreceive]
        simp only [hpresented, hforgotten]
      · intro startedAt hknown
        obtain ⟨session, hobserved⟩ := worker.shared.observePresented_true sequence
        have hsame := SharedState.recordLatency_sameVideo
          ({ worker.shared with session } : SharedState).countPresented (now.saturatingSub startedAt)
        refine ⟨_, ⟨hsame.queueDepth, hsame.framesProduced, hsame.framesPresented,
          hsame.framesSuperseded⟩, ?_⟩
        rw [presentLatest, hreceive]
        simp only [hpresented, hknown, hobserved]

end Operations

/-- `queue_depth` is the length of the queue, and every produced frame is presented, superseded or
queued. -/
structure Exact (worker : LoopbackWorker) : Prop where
  depth : worker.shared.queueDepth = worker.mediaQueue.length
  produced : worker.shared.framesProduced = worker.shared.framesPresented +
    worker.shared.framesSuperseded + worker.shared.queueDepth

/-- The key frames on their way to the display. -/
def queuedKeys (worker : LoopbackWorker) : List Packet := worker.mediaQueue.filter isKeyPacket

/-- The queued frames are older than `bound` and in order, and their send times are known. -/
structure Inv (bound : Nat) (worker : LoopbackWorker) : Prop where
  linked : Linked worker.link
  carries : ∀ packet ∈ worker.mediaQueue, Carries packet
  ordered : worker.mediaQueue.Pairwise fun a b => sequenceOf a < sequenceOf b
  below : ∀ packet ∈ worker.mediaQueue, (sequenceOf packet).toNat < bound
  remembered : ∀ packet ∈ worker.mediaQueue, (worker.sentAt (sequenceOf packet)).isSome = true
  newestKey : ∀ packet ∈ worker.queuedKeys.getLast?,
    worker.lastKeySequence = some (sequenceOf packet)
  exact : worker.Exact
  produced_le : worker.shared.framesProduced ≤ bound

section Invariant

variable {worker : LoopbackWorker} {bound : Nat} {packet : Packet}

theorem survivors_eq (h : ∀ queued ∈ worker.mediaQueue, Carries queued) (hcarries : Carries packet) :
    worker.media.survivors packet =
      if isKeyPacket packet then worker.mediaQueue else worker.queuedKeys := by
  have hfilter : worker.media.survivors packet =
      worker.mediaQueue.filter fun queued => isKeyPacket packet || isKeyPacket queued := by
    apply List.filter_congr
    intro queued hmem
    rw [supersedes_iff hcarries (h queued hmem)]
    cases isKeyPacket packet <;> cases isKeyPacket queued <;> rfl
  rw [hfilter]
  cases isKeyPacket packet with
  | true => simp
  | false => simp [queuedKeys]

/-- What is not replaced survives. -/
theorem replaced_add_survivors (packet : Packet) :
    (worker.media.obsolete packet).length + (worker.media.survivors packet).length =
      worker.mediaQueue.length :=
  (List.length_eq_length_filter_add _).symm

theorem obsolete_key (h : ∀ queued ∈ worker.mediaQueue, Carries queued) (hcarries : Carries packet)
    (hreplaced : 0 < (worker.media.obsolete packet).length) : isKeyPacket packet = false := by
  by_contra hkey
  have hsurvivors := survivors_eq h hcarries
  rw [if_pos (by simpa using hkey)] at hsurvivors
  have hsum := worker.replaced_add_survivors packet
  rw [hsurvivors] at hsum
  omega

/-- A new frame is none of the queued ones. -/
theorem Inv.ne_new (h : Inv bound worker) (hsequence : (sequenceOf packet).toNat = bound)
    {queued : Packet} (hmem : queued ∈ worker.mediaQueue) :
    sequenceOf queued ≠ sequenceOf packet := by
  intro heq
  have hbelow := h.below queued hmem
  rw [heq, hsequence] at hbelow
  exact Nat.lt_irrefl _ hbelow

/-- With at most one key frame in the queue, its send time is the one that a replacement keeps. -/
theorem Inv.remember_isSome (h : Inv bound worker) (hcarries : Carries packet)
    (hsequence : (sequenceOf packet).toNat = bound)
    (hone : 0 < (worker.media.obsolete packet).length → worker.queuedKeys.length ≤ 1)
    (now : Duration) {queued : Packet} (hkept : queued ∈ worker.media.survivors packet) :
    (worker.remember (sequenceOf packet) (worker.media.obsolete packet).length now
      (sequenceOf queued)).isSome = true := by
  have hmem : queued ∈ worker.mediaQueue := (List.mem_filter.mp hkept).1
  rw [remember, if_neg (h.ne_new hsequence hmem)]
  by_cases hmore : (worker.media.obsolete packet).length > 0
  · rw [if_pos hmore]
    have hdelta := obsolete_key h.carries hcarries hmore
    rw [survivors_eq h.carries hcarries, if_neg (by simp [hdelta])] at hkept
    have hsingle : worker.queuedKeys = [queued] := by
      have hlength := hone hmore
      obtain ⟨first, hkeys⟩ := List.length_eq_one_iff.mp
        (Nat.le_antisymm hlength (List.length_pos_of_mem hkept))
      rw [hkeys] at hkept
      rw [hkeys, List.mem_singleton.mp hkept]
    have hlast := h.newestKey queued (by rw [hsingle]; rfl)
    rw [if_pos hlast.symm]
    exact h.remembered queued hmem
  · rw [if_neg hmore]
    exact h.remembered queued hmem

/-- The accounts of an accepted send. -/
theorem Exact.afterSend (h : worker.Exact) {link : Link} {packet : Packet}
    (hqueue : link.firstToSecond.media.packets = worker.media.survivors packet ++ [packet])
    (hbounded : worker.mediaQueue.length ≤ 3) (hroom : worker.shared.framesProduced < u64Max)
    (sequence : UInt64) (isKey : Bool) (now : Duration) :
    (worker.afterSend link sequence isKey (worker.media.obsolete packet).length now).Exact := by
  have hsum := worker.replaced_add_survivors packet
  have hdepth := h.depth
  have hproduced := h.produced
  have hlength : (worker.afterSend link sequence isKey (worker.media.obsolete packet).length
      now).mediaQueue.length = (worker.media.survivors packet).length + 1 := by
    rw [mediaQueue, show (worker.afterSend _ _ _ _ _).link = link from rfl, hqueue,
      List.length_append, List.length_singleton]
  have hqueued : Transport.saturatingAdd
      (worker.shared.queueDepth - (worker.media.obsolete packet).length) 1 =
      (worker.media.survivors packet).length + 1 := by
    rw [Transport.saturatingAdd, usizeMax]
    omega
  have hone : countUp worker.shared.framesProduced 1 = worker.shared.framesProduced + 1 :=
    saturatingSum_eq hroom
  have hsuperseded : countUp worker.shared.framesSuperseded (worker.media.obsolete packet).length =
      worker.shared.framesSuperseded + (worker.media.obsolete packet).length :=
    saturatingSum_eq (by omega)
  constructor
  · rw [hlength]
    exact hqueued
  · show countUp worker.shared.framesProduced 1 = worker.shared.framesPresented +
      countUp worker.shared.framesSuperseded (worker.media.obsolete packet).length +
      Transport.saturatingAdd (worker.shared.queueDepth - _) 1
    rw [hone, hsuperseded, hqueued]
    omega

theorem Inv.length_le (h : Inv bound worker) : worker.mediaQueue.length ≤ 3 := by
  have hle := h.linked.bounded.packets_le
  rw [h.linked.limits] at hle
  exact hle

/-- A send keeps the accounts as long as it replaces nothing, or at most one key frame waits. -/
theorem Inv.send (h : Inv bound worker) (hcarries : Carries packet)
    (hsequence : (sequenceOf packet).toNat = bound) (hroom : bound < u64Max)
    (hone : 0 < worker.replacedBy packet → worker.queuedKeys.length ≤ 1) (now : Duration) :
    Inv (bound + 1) (worker.send (sequenceOf packet) (isKeyPacket packet) packet now) := by
  cases send_cases h.linked hcarries.channel (sequenceOf packet) (isKeyPacket packet) now with
  | inl hrefused =>
    rw [hrefused.1]
    refine ⟨h.linked, h.carries, h.ordered, ?_, h.remembered, h.newestKey, ⟨h.exact.depth,
      h.exact.produced⟩, h.produced_le.trans (Nat.le_succ _)⟩
    intro queued hmem
    exact (h.below queued hmem).trans (Nat.lt_succ_self _)
  | inr hsent =>
    obtain ⟨link, hlinked, hqueue, hreplaced, hsent⟩ := hsent
    rw [hsent]
    rw [hreplaced] at hone ⊢
    have hold : ∀ queued ∈ worker.media.survivors packet, queued ∈ worker.mediaQueue := by
      intro queued hmem
      exact (List.mem_filter.mp hmem).1
    have hmem : ∀ queued ∈ link.firstToSecond.media.packets,
        queued ∈ worker.media.survivors packet ∨ queued = packet := by
      intro queued hqueued
      rw [hqueue] at hqueued
      simpa using hqueued
    have hexact := h.exact.afterSend hqueue h.length_le
      (Nat.lt_of_le_of_lt h.produced_le hroom) (sequenceOf packet) (isKeyPacket packet) now
    refine ⟨hlinked, ?_, ?_, ?_, ?_, ?_, hexact, ?_⟩
    · intro queued hqueued
      cases hmem queued hqueued with
      | inl hkept => exact h.carries queued (hold queued hkept)
      | inr hnew => exact hnew ▸ hcarries
    · show link.firstToSecond.media.packets.Pairwise _
      rw [hqueue, List.pairwise_append]
      refine ⟨h.ordered.filter _, List.pairwise_singleton _ _, ?_⟩
      intro queued hkept other hother
      rw [List.mem_singleton.mp hother, UInt64.lt_iff_toNat_lt, hsequence]
      exact h.below queued (hold queued hkept)
    · intro queued hqueued
      cases hmem queued hqueued with
      | inl hkept => exact (h.below queued (hold queued hkept)).trans (Nat.lt_succ_self _)
      | inr hnew =>
        rw [hnew, hsequence]
        exact Nat.lt_succ_self _
    · intro queued hqueued
      cases hmem queued hqueued with
      | inl hkept => exact h.remember_isSome hcarries hsequence hone now hkept
      | inr hnew =>
        rw [hnew]
        simp [LoopbackWorker.afterSend, remember]
    · intro last hlast
      have hkeys : queuedKeys (worker.afterSend link (sequenceOf packet) (isKeyPacket packet)
          (worker.media.obsolete packet).length now) =
          (worker.media.survivors packet ++ [packet]).filter isKeyPacket := by
        rw [← hqueue]
        rfl
      rw [hkeys, List.filter_append] at hlast
      show (if isKeyPacket packet = true then _ else _) = _
      cases hkey : isKeyPacket packet with
      | true =>
        have hnew : last = packet := by simpa [hkey, eq_comm] using hlast
        rw [if_pos rfl, hnew]
      | false =>
        rw [if_neg (by simp)]
        apply h.newestKey last
        rw [survivors_eq h.carries hcarries, if_neg (by simp [hkey])] at hlast
        simpa [hkey, queuedKeys] using hlast
    · show countUp worker.shared.framesProduced 1 ≤ bound + 1
      rw [show countUp worker.shared.framesProduced 1 = worker.shared.framesProduced + 1 from
        saturatingSum_eq (Nat.lt_of_le_of_lt h.produced_le hroom)]
      exact Nat.succ_le_succ h.produced_le

/-- The display presents the head of the queue, whose send time is known. -/
theorem Inv.presentLatest (h : Inv bound worker) (hbound : bound ≤ u64Max) (now : Duration) :
    Inv bound (worker.presentLatest now) := by
  cases presentLatest_cases h.linked now with
  | inl hempty =>
    rw [hempty.2]
    exact h
  | inr hhead =>
    obtain ⟨head, link, hlinked, hqueue, hpresent⟩ := hhead
    have hmem : head ∈ worker.mediaQueue := by
      rw [hqueue]
      exact List.mem_cons_self
    have hrest : ∀ queued ∈ link.firstToSecond.media.packets, queued ∈ worker.mediaQueue := by
      intro queued hqueued
      rw [hqueue]
      exact List.mem_cons_of_mem head hqueued
    have hordered := h.ordered
    rw [hqueue, List.pairwise_cons] at hordered
    obtain ⟨startedAt, hknown⟩ := Option.isSome_iff_exists.mp (h.remembered head hmem)
    obtain ⟨shared, hshared, hpresent⟩ :=
      (hpresent _ (h.carries head hmem).presented).2 startedAt hknown
    rw [hpresent]
    have hlength : worker.mediaQueue.length = link.firstToSecond.media.packets.length + 1 := by
      rw [hqueue, List.length_cons]
    have hdepth := h.exact.depth
    have hproduced := h.exact.produced
    have hle := h.produced_le
    have hpresented : countUp worker.shared.framesPresented 1 =
        worker.shared.framesPresented + 1 := saturatingSum_eq (by omega)
    refine ⟨hlinked, ?_, hordered.2, ?_, ?_, ?_, ⟨?_, ?_⟩, ?_⟩
    · intro queued hqueued
      exact h.carries queued (hrest queued hqueued)
    · intro queued hqueued
      exact h.below queued (hrest queued hqueued)
    · intro queued hqueued
      have hne : sequenceOf queued ≠ sequenceOf head :=
        (UInt64.ne_of_lt (hordered.1 queued hqueued)).symm
      show Option.isSome (if sequenceOf queued = sequenceOf head then none else _) = true
      rw [if_neg hne]
      exact h.remembered queued (hrest queued hqueued)
    · intro last hlast
      apply h.newestKey last
      rw [queuedKeys, hqueue, List.filter_cons]
      split
      · have hlater : (link.firstToSecond.media.packets.filter isKeyPacket).getLast? =
            some last := hlast
        rw [List.getLast?_cons, hlater]
        rfl
      · exact hlast
    · show shared.queueDepth = link.firstToSecond.media.packets.length
      rw [hshared.queueDepth]
      show worker.shared.queueDepth - 1 = _
      omega
    · show shared.framesProduced =
        shared.framesPresented + shared.framesSuperseded + shared.queueDepth
      rw [hshared.framesProduced, hshared.framesPresented, hshared.framesSuperseded,
        hshared.queueDepth]
      show worker.shared.framesProduced = countUp worker.shared.framesPresented 1 +
        worker.shared.framesSuperseded + (worker.shared.queueDepth - 1)
      rw [hpresented]
      omega
    · show shared.framesProduced ≤ bound
      rw [hshared.framesProduced]
      exact h.produced_le

/-- The send time of a key frame is lost at a replacement when another key frame follows it. -/
theorem Inv.remember_eq_none (h : Inv bound worker) {first second : Packet} {rest : List Packet}
    (hkeys : worker.queuedKeys = first :: second :: rest)
    (hsequence : (sequenceOf packet).toNat = bound)
    (hreplaced : 0 < (worker.media.obsolete packet).length) (now : Duration) :
    worker.remember (sequenceOf packet) (worker.media.obsolete packet).length now
      (sequenceOf first) = none := by
  have hfirst : first ∈ worker.mediaQueue := by
    have hkey : first ∈ worker.queuedKeys := by
      rw [hkeys]
      exact List.mem_cons_self
    exact (List.mem_filter.mp hkey).1
  have hlast : some (sequenceOf first) ≠ worker.lastKeySequence := by
    have hmem : (second :: rest).getLast (List.cons_ne_nil _ _) ∈ worker.queuedKeys.getLast? := by
      rw [hkeys, List.getLast?_cons_cons, List.getLast?_eq_getLast_of_ne_nil]
      rfl
    have hsorted : worker.queuedKeys.Pairwise fun a b => sequenceOf a < sequenceOf b :=
      h.ordered.filter _
    rw [hkeys, List.pairwise_cons] at hsorted
    have hlt := hsorted.1 _ (List.getLast_mem (List.cons_ne_nil second rest))
    rw [h.newestKey _ hmem]
    intro heq
    exact UInt64.ne_of_lt hlt (Option.some.inj heq)
  rw [remember, if_neg (h.ne_new hsequence hfirst), if_pos hreplaced, if_neg hlast]

/-- The presentation of a frame without a send time is not counted. -/
theorem Exact.not_presentLatest (h : worker.Exact) (hlinked : Linked worker.link) {head : Packet}
    {rest : List Packet} (hqueue : worker.mediaQueue = head :: rest) (hcarries : Carries head)
    (hforgotten : worker.sentAt (sequenceOf head) = none) (now : Duration) :
    ¬(worker.presentLatest now).Exact := by
  cases presentLatest_cases hlinked now with
  | inl hempty =>
    rw [hqueue] at hempty
    cases hempty.1
  | inr hhead =>
    obtain ⟨taken, left, -, hhead, hpresent⟩ := hhead
    have hsame : taken = head := by
      rw [hqueue] at hhead
      exact (List.cons.inj hhead).1.symm
    subst hsame
    rw [(hpresent _ hcarries.presented).1 hforgotten]
    intro hnow
    have hdepth := h.depth
    have hlength : worker.mediaQueue.length = left.firstToSecond.media.packets.length + 1 := by
      rw [hhead, List.length_cons]
    have hshown : worker.shared.queueDepth = left.firstToSecond.media.packets.length := hnow.depth
    omega

/-- A replacement while two key frames wait forgets the older one, which is then presented without
being counted. -/
theorem Inv.forgets (h : Inv bound worker) (hcarries : Carries packet)
    (hsequence : (sequenceOf packet).toNat = bound) (hroom : bound < u64Max)
    (hreplaced : 0 < worker.replacedBy packet) (htwo : 1 < worker.queuedKeys.length)
    (sent presented : Duration) :
    ¬((worker.send (sequenceOf packet) (isKeyPacket packet) packet sent).presentLatest
      presented).Exact := by
  cases send_cases h.linked hcarries.channel (sequenceOf packet) (isKeyPacket packet) sent with
  | inl hrefused =>
    rw [hrefused.2] at hreplaced
    exact absurd hreplaced (Nat.lt_irrefl 0)
  | inr hsent =>
    obtain ⟨link, hlinked, hqueue, hobsolete, hsent⟩ := hsent
    rw [hobsolete] at hreplaced hsent
    rw [hsent]
    have hexact := h.exact.afterSend hqueue h.length_le
      (Nat.lt_of_le_of_lt h.produced_le hroom) (sequenceOf packet) (isKeyPacket packet) sent
    have hdelta := obsolete_key h.carries hcarries hreplaced
    rw [survivors_eq h.carries hcarries, if_neg (by simp [hdelta])] at hqueue
    obtain ⟨first, second, rest, hkeys⟩ : ∃ first second rest,
        worker.queuedKeys = first :: second :: rest := by
      match worker.queuedKeys, htwo with
      | first :: second :: rest, _ => exact ⟨first, second, rest, rfl⟩
    have hfirst : first ∈ worker.mediaQueue := by
      have hkey : first ∈ worker.queuedKeys := by
        rw [hkeys]
        exact List.mem_cons_self
      exact (List.mem_filter.mp hkey).1
    rw [hkeys] at hqueue
    exact hexact.not_presentLatest hlinked hqueue (h.carries first hfirst)
      (h.remember_eq_none hkeys hsequence hreplaced sent) presented

theorem Inv.mono (h : Inv bound worker) {next : Nat} (hle : bound ≤ next) : Inv next worker :=
  { h with
    below := fun queued hmem => (h.below queued hmem).trans_le hle
    produced_le := h.produced_le.trans hle }

/-- The invariant does not look at the pacer, the producer and the other counters. -/
theorem Inv.of_same (h : Inv bound worker) {after : LoopbackWorker}
    (hlink : after.link = worker.link) (hsent : after.sentAt = worker.sentAt)
    (hkey : after.lastKeySequence = worker.lastKeySequence)
    (hshared : SharedState.SameVideo worker.shared after.shared) : Inv bound after := by
  have hqueue : after.mediaQueue = worker.mediaQueue := by rw [mediaQueue, hlink, mediaQueue]
  have hkeys : after.queuedKeys = worker.queuedKeys := by rw [queuedKeys, hqueue, queuedKeys]
  refine ⟨hlink ▸ h.linked, hqueue ▸ h.carries, hqueue ▸ h.ordered, hqueue ▸ h.below, ?_, ?_,
    ⟨?_, ?_⟩, ?_⟩
  · rw [hqueue, hsent]
    exact h.remembered
  · rw [hkeys, hkey]
    exact h.newestKey
  · rw [hshared.queueDepth, hqueue]
    exact h.exact.depth
  · rw [hshared.framesProduced, hshared.framesPresented, hshared.framesSuperseded,
      hshared.queueDepth]
    exact h.exact.produced
  · rw [hshared.framesProduced]
    exact h.produced_le

end Invariant

section Iterations

variable {worker : LoopbackWorker} {bound : Nat}

/-- How many queued packets the frame replaces. -/
def replacedByFrame (worker : LoopbackWorker) (frame : MediaFrame) : Nat :=
  match protocolPacket frame with
  | .ok packet => worker.replacedBy packet
  | .error _ => 0

/-- How many queued packets the iteration replaces. -/
def replaced (worker : LoopbackWorker) (clock : LoopbackClock) : Nat :=
  match worker.pacer.poll clock.polled with
  | (.due tick, pacer) =>
    let worker := { worker with pacer }.skipTo tick
    match worker.producer.nextFrame with
    | (some frame, producer) => { worker with producer }.replacedByFrame frame
    | (none, _) => 0
  | _ => 0

/-- When a frame replaces a queued one, at most one key frame waits. -/
def OneKeyWaits (worker : LoopbackWorker) (clock : LoopbackClock) : Prop :=
  0 < worker.replaced clock → worker.queuedKeys.length ≤ 1

/-- Only a key frame can be at a slot without presentation, and the last frame takes no time. -/
structure Timely (frame : MediaFrame) : Prop where
  delta : frame.metadata.kind ≠ .key → frame.metadata.sequence % 120 ≠ 0
  last : frame.metadata.sequence.toNat = u64Max → frame.metadata.duration.nanos = 0

theorem Inv.deliver (h : Inv bound worker) (hbound : bound ≤ u64Max) {frame : MediaFrame}
    (htimely : Timely frame) (hsequence : frame.metadata.sequence.toNat = bound)
    (clock : LoopbackClock) :
    ((0 < worker.replacedByFrame frame → worker.queuedKeys.length ≤ 1) →
      ∃ next, bound ≤ next ∧ next ≤ u64Max ∧ (bound < u64Max → next ≤ bound + 1) ∧
        Inv next (worker.deliver frame clock)) ∧
    (¬(0 < worker.replacedByFrame frame → worker.queuedKeys.length ≤ 1) →
      ¬(worker.deliver frame clock).Exact) := by
  rw [LoopbackWorker.deliver, replacedByFrame]
  cases hpacket : protocolPacket frame with
  | error error =>
    constructor
    · intro _
      exact ⟨bound, Nat.le_refl _, hbound, fun _ => Nat.le_succ _,
        h.of_same rfl rfl rfl (worker.shared.countDropped_sameVideo 1)⟩
    · intro hmore
      exact absurd (fun hreplaced => absurd hreplaced (Nat.lt_irrefl 0)) hmore
  | ok packet =>
    obtain ⟨hcarries, hsame, hkey, hduration⟩ := protocolPacket_ok hpacket
    have hroom : bound < u64Max := by
      apply Nat.lt_of_le_of_ne hbound
      intro hlast
      apply hduration
      rw [htimely.last (hsequence.trans hlast)]
    have hbounded : (sequenceOf packet).toNat = bound := by rw [hsame, hsequence]
    simp only
    rw [← hsame, ← hkey]
    constructor
    · intro hone
      have hsent := h.send hcarries hbounded hroom hone clock.sent
      refine ⟨bound + 1, Nat.le_succ _, hroom, fun _ => Nat.le_refl _, ?_⟩
      split
      · exact hsent.presentLatest hroom clock.presented
      · exact hsent
    · intro hmore
      simp only [Classical.not_imp, Nat.not_le] at hmore
      have hdue : sequenceOf packet % 120 ≠ 0 := by
        rw [hsame]
        apply htimely.delta
        intro hkind
        have hnone := obsolete_key h.carries hcarries
        cases send_cases h.linked hcarries.channel (sequenceOf packet) (isKeyPacket packet)
          clock.sent with
        | inl hrefused =>
          rw [hrefused.2] at hmore
          exact Nat.lt_irrefl 0 hmore.1
        | inr hsent =>
          obtain ⟨-, -, -, hobsolete, -⟩ := hsent
          rw [hobsolete] at hmore
          rw [hnone hmore.1] at hkey
          simp [hkind] at hkey
      rw [if_pos hdue]
      exact h.forgets hcarries hbounded hroom hmore.1 hmore.2 clock.sent clock.presented

theorem presentLatest_capture (now : Duration) :
    (worker.presentLatest now).producer = worker.producer ∧
      (worker.presentLatest now).pacer = worker.pacer := by
  rw [presentLatest]
  split
  · simp only
    split
    · exact ⟨rfl, rfl⟩
    split
    · exact ⟨rfl, rfl⟩
    split
    · exact ⟨rfl, rfl⟩
    · exact ⟨rfl, rfl⟩
  · exact ⟨rfl, rfl⟩

theorem send_capture (sequence : UInt64) (isKey : Bool) (packet : Packet) (now : Duration) :
    (worker.send sequence isKey packet now).producer = worker.producer ∧
      (worker.send sequence isKey packet now).pacer = worker.pacer := by
  rw [send]
  split
  · exact ⟨rfl, rfl⟩
  · exact ⟨rfl, rfl⟩

/-- Delivery leaves the producer and the pacer as they are. -/
theorem deliver_capture (frame : MediaFrame) (clock : LoopbackClock) :
    (worker.deliver frame clock).producer = worker.producer ∧
      (worker.deliver frame clock).pacer = worker.pacer := by
  rw [deliver]
  split
  · exact ⟨rfl, rfl⟩
  · simp only
    split
    · rw [(presentLatest_capture _).1, (presentLatest_capture _).2]
      exact send_capture _ _ _ _
    · exact send_capture _ _ _ _

/-- Key frames come every second slot, or every second one without presentation. -/
structure Running (worker : LoopbackWorker) : Prop where
  interval : worker.producer.config.keyframeInterval = 60 ∨
    worker.producer.config.keyframeInterval = 120
  ledger : ∃ bound ≤ u64Max, Inv bound worker ∧
    ∀ next, worker.producer.nextSequence = some next → bound ≤ next.toNat

theorem frame_timely {producer : SyntheticFrameProducer}
    (h : producer.config.keyframeInterval = 60 ∨ producer.config.keyframeInterval = 120)
    (sequence : UInt64) : Timely (producer.frame sequence) where
  delta := by
    intro hkind hzero
    apply hkind
    show (if sequence % producer.config.keyframeInterval = 0 then FrameKind.key else .delta) = .key
    have hmultiple : sequence.toNat % 120 = 0 := by
      have hnat := congrArg UInt64.toNat hzero
      rwa [UInt64.toNat_mod] at hnat
    apply if_pos
    apply UInt64.toNat_inj.mp
    cases h with
    | inl hinterval =>
      rw [hinterval, UInt64.toNat_mod]
      show sequence.toNat % 60 = 0
      omega
    | inr hinterval =>
      rw [hinterval, UInt64.toNat_mod]
      exact hmultiple
  last := by
    intro hlast
    have hsequence : sequence.toNat = u64Max := hlast
    have hsame : saturatingSum u64Max sequence.toNat 1 = sequence.toNat := by
      rw [hsequence, saturatingSum]
      decide
    show (FrameRate.frameDuration _ sequence.toNat).nanos = 0
    rw [FrameRate.frameDuration, hsame]
    exact Nat.sub_self _

/-- Skipping moves the producer forward only. -/
theorem Running.skipTo (h : Running worker) (tick : PacingTick) : Running (worker.skipTo tick) := by
  obtain ⟨bound, hbound, hinv, hnext⟩ := h.ledger
  rw [LoopbackWorker.skipTo]
  split
  · have hcases : ((worker.producer.advanceToSequence (UInt64.ofNat tick.index)).2.config =
          worker.producer.config) ∧
        ∀ next, (worker.producer.advanceToSequence (UInt64.ofNat tick.index)).2.nextSequence =
          some next → bound ≤ next.toNat := by
      rw [SyntheticFrameProducer.advanceToSequence]
      split
      · exact ⟨rfl, hnext⟩
      · rename_i current hcurrent
        split
        · exact ⟨rfl, hnext⟩
        · rename_i hforward
          refine ⟨rfl, ?_⟩
          intro next hsome
          cases hsome
          have hlater : current < UInt64.ofNat tick.index := UInt64.not_le.mp hforward
          exact (hnext current hcurrent).trans (UInt64.le_iff_toNat_le.mp (UInt64.le_of_lt hlater))
    refine ⟨?_, bound, hbound, ?_, hcases.2⟩
    · show (SyntheticFrameProducer.advanceToSequence _ _).2.config.keyframeInterval = _ ∨ _
      rw [hcases.1]
      exact h.interval
    · exact hinv.of_same rfl rfl rfl (worker.shared.countDropped_sameVideo _)
  · exact h

/-- An iteration is exact just when at most one key frame waits at a replacement. -/
theorem Running.iterate (h : Running worker) (clock : LoopbackClock) :
    (worker.OneKeyWaits clock → ∀ t, worker.iterate clock = some t → Running t ∧ t.Exact) ∧
    (¬worker.OneKeyWaits clock → ∃ t, worker.iterate clock = some t ∧ ¬t.Exact) := by
  rw [OneKeyWaits, replaced, LoopbackWorker.iterate]
  generalize worker.pacer.poll clock.polled = polled
  obtain ⟨decision, pacer⟩ := polled
  obtain ⟨bound, hbound, hinv, hnext⟩ := h.ledger
  cases decision with
  | exhausted => simp
  | waitUntil deadline =>
    constructor
    · intro _ t ht
      cases ht
      exact ⟨h, hinv.exact⟩
    · intro hmore
      exact absurd (fun hreplaced => absurd hreplaced (Nat.lt_irrefl 0)) hmore
  | due tick =>
    have hkept : Running { worker with pacer } := by
      refine ⟨h.interval, bound, hbound, ?_, hnext⟩
      exact hinv.of_same rfl rfl rfl ⟨rfl, rfl, rfl, rfl⟩
    have hskipped := hkept.skipTo tick
    have hkeys : ({ worker with pacer }.skipTo tick).queuedKeys = worker.queuedKeys := by
      rw [LoopbackWorker.skipTo]
      split
      · rfl
      · rfl
    simp only
    rw [← hkeys]
    generalize LoopbackWorker.skipTo _ tick = skipped at hskipped ⊢
    obtain ⟨bound, hbound, hinv, hnext⟩ := hskipped.ledger
    rw [SyntheticFrameProducer.nextFrame]
    cases hsequence : skipped.producer.nextSequence with
    | none => simp
    | some sequence =>
      simp only
      have hmax : sequence.toNat ≤ u64Max := Nat.le_sub_one_of_lt sequence.toNat_lt
      have hbefore : Inv sequence.toNat { skipped with
          producer := { skipped.producer with
            nextSequence := Session.checkedSucc64 sequence } } :=
        (hinv.mono (hnext sequence hsequence)).of_same rfl rfl rfl ⟨rfl, rfl, rfl, rfl⟩
      have hdeliver := hbefore.deliver hmax (frame_timely hskipped.interval sequence) rfl clock
      constructor
      · intro hone t ht
        cases ht
        obtain ⟨next, -, hle, hstep, hafter⟩ := hdeliver.1 hone
        refine ⟨⟨?_, next, hle, hafter, ?_⟩, hafter.exact⟩
        · rw [(deliver_capture _ clock).1]
          exact hskipped.interval
        · intro following hfollowing
          rw [(deliver_capture _ clock).1] at hfollowing
          have hadd := Session.checkedSucc64_eq_some hfollowing
          have hlt := following.toNat_lt
          rw [hadd]
          apply hstep
          rw [u64Max]
          omega
      · intro hmore
        exact ⟨_, rfl, hdeliver.2 hmore⟩

/-- A validated configuration starts a worker with an empty queue. -/
theorem exists_running {config : LoopbackConfig} (hvalid : config.validate = .ok config)
    (session : Session) (now : Duration) : ∃ worker,
      LoopbackWorker.new config (.resetForStart config session now) = some worker ∧
      Running worker := by
  simp only [LoopbackConfig.validate, ite_error_eq_ok, not_or] at hvalid
  obtain ⟨⟨hwidth, hheight⟩, hfps, -⟩ := hvalid
  rw [not_and_or, not_not, not_not] at hfps
  have hrate : ∃ frameRate, FrameRate.fromHz config.fps.toUInt32 = .ok frameRate := by
    cases hfps with
    | inl hfps => exact ⟨_, by rw [hfps]; rfl⟩
    | inr hfps => exact ⟨_, by rw [hfps]; rfl⟩
  obtain ⟨frameRate, hrate⟩ := hrate
  have hdimensions : ∃ dimensions,
      FrameDimensions.new config.width.toUInt32 config.height.toUInt32 = .ok dimensions := by
    have hnonzero : ∀ value : UInt16, value ≠ 0 → value.toUInt32 ≠ 0 := by
      intro value hne hzero
      apply hne
      have hnat := congrArg UInt32.toNat hzero
      rw [UInt16.toNat_toUInt32] at hnat
      exact UInt16.toNat_inj.mp hnat
    rw [FrameDimensions.new, dif_neg (hnonzero _ hwidth), dif_neg (hnonzero _ hheight)]
    exact ⟨_, rfl⟩
  obtain ⟨dimensions, hdimensions⟩ := hdimensions
  have hsynthetic : ∃ synthetic, SyntheticConfig.new ⟨dimensions, frameRate⟩ (4 * 1024)
        (config.fps.toUInt64 * 2) = .ok synthetic ∧
      (synthetic.keyframeInterval = 60 ∨ synthetic.keyframeInterval = 120) := by
    cases hfps with
    | inl hfps =>
      rw [hfps]
      exact ⟨_, rfl, .inl rfl⟩
    | inr hfps =>
      rw [hfps]
      exact ⟨_, rfl, .inr rfl⟩
  obtain ⟨synthetic, hsynthetic, hinterval⟩ := hsynthetic
  have hnew : LoopbackWorker.new config (.resetForStart config session now) = some
      { link := .new .default
        producer := .new (synthetic.withSeed 0x4c44464c)
        pacer := .new frameRate (.ofNanos 0)
        sentAt := fun _ => none
        lastKeySequence := none
        shared := .resetForStart config session now } := by
    rw [LoopbackWorker.new, hrate, hdimensions]
    show (SyntheticConfig.new _ _ _).toOption.bind _ = _
    rw [hsynthetic]
    rfl
  refine ⟨_, hnew, hinterval, 0, Nat.zero_le _, ?_, ?_⟩
  · exact
      { linked := ⟨rfl, rfl, BoundedQueue.bounded_new defaultMediaLimits⟩
        carries := fun _ hmem => absurd hmem List.not_mem_nil
        ordered := List.Pairwise.nil
        below := fun _ hmem => absurd hmem List.not_mem_nil
        remembered := fun _ hmem => absurd hmem List.not_mem_nil
        newestKey := fun _ hmem => absurd hmem (by simp [queuedKeys, mediaQueue, Link.new,
          Direction.new, BoundedQueue.new])
        exact := ⟨rfl, rfl⟩
        produced_le := Nat.le_refl 0 }
  · intro next _
    exact Nat.zero_le _

/-- The accounts are exact after every iteration of exactly the runs in which at most one key frame
waits whenever a frame replaces a queued one. -/
theorem loopback_exact {config : LoopbackConfig} (hvalid : config.validate = .ok config)
    (session : Session) (now : Duration) : ∃ worker,
      LoopbackWorker.new config (.resetForStart config session now) = some worker ∧
      ∀ clocks, machine.Admits (fun s clock => ∀ t, s.iterate clock = some t → t.Exact)
          worker clocks ↔ machine.Admits OneKeyWaits worker clocks := by
  obtain ⟨worker, hnew, hrunning⟩ := exists_running hvalid session now
  have hiff : ∀ s clock, Running s →
      ((∀ t, s.iterate clock = some t → t.Exact) ↔ s.OneKeyWaits clock) := by
    intro s clock h
    obtain ⟨hkeeps, hbreaks⟩ := h.iterate clock
    constructor
    · intro hexact
      by_contra hmore
      obtain ⟨t, ht, hinexact⟩ := hbreaks hmore
      exact hinexact (hexact t ht)
    · intro hone t ht
      exact (hkeeps hone t ht).2
  refine ⟨worker, hnew, ?_⟩
  intro clocks
  apply machine.admits_congr Running hiff ?_ hrunning
  intro s clock t h hexact ht
  exact ((h.iterate clock).1 ((hiff s clock h).mp hexact) t ht).1

end Iterations

section Runs

/-- The clock within a slot of the 60 Hz timeline. -/
def slot (index : Nat) : LoopbackClock :=
  let now := Duration.ofNanos (index * 10 ^ 9 / 60 + 1)
  ⟨now, now, now⟩

theorem fullHd_valid : LoopbackConfig.validate ⟨1920, 1080, 60⟩ = .ok ⟨1920, 1080, 60⟩ := rfl

/-- The worker for full HD at 60 Hz. -/
def fullHd : Option LoopbackWorker :=
  LoopbackWorker.new ⟨1920, 1080, 60⟩ (.resetForStart ⟨1920, 1080, 60⟩ .new (.ofNanos 0))

/-- Polls that skip from one key frame to the next. -/
def lateSlots : List LoopbackClock := [0, 120, 121, 240, 241].map slot

theorem loopback_exact_fullHd : ∃ worker, fullHd = some worker ∧
    ∀ clocks, machine.Admits (fun s clock => ∀ t, s.iterate clock = some t → t.Exact)
        worker clocks ↔ machine.Admits OneKeyWaits worker clocks :=
  loopback_exact fullHd_valid .new (.ofNanos 0)

/-- The fifth frame replaces a queued one while two key frames wait. -/
theorem loopback_overcounts : ∃ worker t, fullHd = some worker ∧
    machine.run worker lateSlots = some t ∧
    t.mediaQueue.length = 2 ∧ t.shared.queueDepth = 3 := by
  have hreached : fullHd.any (fun worker => (machine.run worker lateSlots).any fun t =>
      decide (t.mediaQueue.length = 2 ∧ t.shared.queueDepth = 3)) = true := by
    decide +kernel
  obtain ⟨worker, hworker, hreached⟩ := (Option.any_eq_true _ _).mp hreached
  obtain ⟨t, hrun, ht⟩ := (Option.any_eq_true _ _).mp hreached
  obtain ⟨hlength, hdepth⟩ := of_decide_eq_true ht
  exact ⟨worker, t, hworker, hrun, hlength, hdepth⟩

end Runs

end LoopbackWorker

end LadoFlow.Host
