import LadoFlow.Framework.Machine
import LadoFlow.Framework.Merge
import LadoFlow.Transport.LdflStream

/-!
# Order of the outbound stream

One producer sends packets with increasing sequences while a transport worker repeats
`LdflPacketMux.next`. The lock is taken once per send and once per read, so the producer can act
between the two reads of the worker.
-/

namespace LadoFlow.Transport

open LadoFlow.Protocol Framework

/-- Where the worker stands inside `next`. -/
inductive MuxPoint where
  | beforeControl
  | beforeMedia
  | beforeSelect
  deriving DecidableEq, Repr

/-- The link and the worker, with the packets emitted and the largest sequence accepted so far. -/
structure MuxState where
  link : Link
  mux : LdflPacketMux
  point : MuxPoint
  emitted : List Packet
  lastSent : Option UInt64
  deriving DecidableEq

inductive MuxAction where
  | send (packet : Packet)
  | readControl
  | readMedia
  | select
  deriving DecidableEq

namespace MuxState

def init (config : LoopbackConfig) : MuxState :=
  ⟨.new config, .default, .beforeControl, [], none⟩

/-- The producer's `try_send` of a packet above everything it sent before. -/
def send (s : MuxState) (packet : Packet) : Option MuxState :=
  match ldflPacketSequence packet with
  | .error _ => none
  | .ok sequence =>
    if s.lastSent.all (· < sequence) then
      match s.link.trySend .first packet with
      | (.ok _, link) => some { s with link, lastSent := some sequence }
      | (.error _, link) => some { s with link }
    else none

/-- One guarded read of `next`; an error makes `next` return. -/
def read (s : MuxState) (channel : Channel) (following : MuxPoint) : MuxState :=
  match s.mux.receive s.link .second channel with
  | (.ok (), mux, link) => { s with mux, link, point := following }
  | (.error _, mux, link) => { s with mux, link, point := .beforeControl }

/-- The end of `next`, which emits the packet it returns. -/
def select (s : MuxState) : MuxState :=
  match s.mux.select with
  | (.ok (some packet), mux) =>
    { s with mux, point := .beforeControl, emitted := s.emitted ++ [packet] }
  | (_, mux) => { s with mux, point := .beforeControl }

def step (s : MuxState) : MuxAction → Option MuxState
  | .send packet => s.send packet
  | .readControl => if s.point = .beforeControl then some (s.read .control .beforeMedia) else none
  | .readMedia => if s.point = .beforeMedia then some (s.read .media .beforeSelect) else none
  | .select => if s.point = .beforeSelect then some s.select else none

def machine : Machine MuxState MuxAction := ⟨step⟩

/-- The packets of the outbound queue. -/
def queued (s : MuxState) (channel : Channel) : List Packet :=
  ((s.link.incoming .second).queue channel).packets

/-- The held packet followed by the queued ones. -/
def line (s : MuxState) (channel : Channel) : List Packet :=
  (s.mux.slot channel).toList ++ s.queued channel

/-- The media read does not overtake the control queue: when it reads with nothing held, the
packet it takes is older than the first control packet. -/
def RaceFree (s : MuxState) : MuxAction → Prop
  | .readMedia => s.mux.control = none → s.mux.media = none →
    ∀ control ∈ (s.queued .control).head?, ∀ media ∈ (s.queued .media).head?,
      Precedes media control
  | _ => True

instance (s : MuxState) (action : MuxAction) : Decidable (s.RaceFree action) :=
  match action with
  | .readMedia => inferInstanceAs (Decidable (_ → _ → ∀ control ∈ _, ∀ media ∈ _, _))
  | .send _ | .readControl | .select => isTrue trivial

/-- A read moves the front of the line into the slot and leaves everything else alone. -/
structure ReadEffect (s : MuxState) (channel : Channel) (t : MuxState) : Prop where
  connected : t.link.connected = true
  emitted : t.emitted = s.emitted
  lastSent : t.lastSent = s.lastSent
  slot : t.mux.slot channel = (s.line channel).head?
  queued : t.queued channel = (s.line channel).tail
  other_slot : ∀ other, other ≠ channel → t.mux.slot other = s.mux.slot other
  other_queued : ∀ other, other ≠ channel → t.queued other = s.queued other

theorem read_effect {s : MuxState} (hconn : s.link.connected = true) (channel : Channel)
    (following : MuxPoint) :
    ReadEffect s channel (s.read channel following) ∧
      (s.read channel following).point = following := by
  rw [read, LdflPacketMux.receive]
  cases hslot : s.mux.slot channel with
  | some held =>
    refine ⟨⟨hconn, rfl, rfl, ?_, ?_, fun _ _ => rfl, fun _ _ => rfl⟩, rfl⟩
    · rw [line, hslot]
      exact hslot
    · rw [line, hslot]
      rfl
  | none =>
    have hline : s.line channel = s.queued channel := by rw [line, hslot]; rfl
    simp only [Option.isNone_none, if_true]
    rcases Link.tryReceive_cases hconn .second channel with
      ⟨hempty, h⟩ | ⟨packet, link', h, hconn', hpackets, hother⟩
    · rw [h]
      have hnil : s.line channel = [] := hline.trans hempty
      refine ⟨⟨hconn, rfl, rfl, ?_, ?_, fun other hne => ?_, fun _ _ => rfl⟩, rfl⟩
      · rw [hnil]
        exact LdflPacketMux.slot_setSlot _ _ _
      · rw [hnil]
        exact hempty
      · exact LdflPacketMux.slot_setSlot_ne _ _ hne
    · rw [h]
      have hcons := hline.trans hpackets
      refine ⟨⟨hconn', rfl, rfl, ?_, ?_, fun other hne => ?_, fun other hne => ?_⟩, rfl⟩
      · rw [hcons]
        exact LdflPacketMux.slot_setSlot _ _ _
      · rw [hcons]
        rfl
      · exact LdflPacketMux.slot_setSlot_ne _ _ hne
      · exact congrArg BoundedQueue.packets (hother other hne)

theorem ReadEffect.line_eq {s t : MuxState} {channel : Channel} (h : ReadEffect s channel t)
    (other : Channel) : t.line other = s.line other := by
  by_cases hother : other = channel
  · subst hother
    rw [line, h.slot, h.queued]
    cases s.line other <;> rfl
  · rw [line, line, h.other_slot other hother, h.other_queued other hother]

/-- A send fails without effect or appends to one queue, possibly after dropping superseded
packets. -/
inductive SendEffect (s : MuxState) (packet : Packet) : MuxState → Prop where
  | failed : SendEffect s packet s
  | accepted (sequence : UInt64) (kept : List Packet) (t : MuxState)
      (hsequence : ldflPacketSequence packet = .ok sequence)
      (hlast : s.lastSent.all (· < sequence) = true)
      (hkept : kept.Sublist (s.queued packet.channel))
      (hconn : t.link.connected = true)
      (hqueued : t.queued packet.channel = kept ++ [packet])
      (hother : ∀ other, other ≠ packet.channel → t.queued other = s.queued other)
      (hrest : t = { s with link := t.link, lastSent := some sequence }) : SendEffect s packet t

theorem send_effect {s t : MuxState} {packet : Packet} (hconn : s.link.connected = true)
    (h : s.send packet = some t) : SendEffect s packet t := by
  rw [send] at h
  cases hsequence : ldflPacketSequence packet with
  | error error => simp [hsequence] at h
  | ok sequence =>
    simp only [hsequence] at h
    split at h
    · rename_i hlast
      rcases Link.trySend_cases hconn .first packet with
        ⟨error, hsend⟩ | ⟨report, link', hsend, hconn', hpackets, hother⟩
      · rw [hsend] at h
        cases h
        exact .failed
      · rw [hsend] at h
        cases h
        exact .accepted sequence _ _ hsequence hlast List.filter_sublist hconn' hpackets
          (fun other hne => congrArg BoundedQueue.packets (hother other hne)) rfl
    · cases h

/-- What holds of the link and the worker in every race-free run. -/
structure Ordered (s : MuxState) : Prop where
  connected : s.link.connected = true
  merge : MergeOrdered Precedes s.emitted (s.line .control) (s.line .media)
  sent : ∀ packet, packet ∈ s.emitted ∨ packet ∈ s.line .control ∨ packet ∈ s.line .media →
    ∃ sequence, ldflPacketSequence packet = .ok sequence ∧ ∃ last ∈ s.lastSent, sequence ≤ last
  media_alone : s.point ≠ .beforeControl → s.mux.control = none →
    ∀ media ∈ s.mux.media, ∀ control ∈ s.queued .control, Precedes media control
  control_alone : s.point = .beforeSelect → s.mux.media = none →
    ∀ control ∈ s.mux.control, ∀ media ∈ s.queued .media, Precedes control media

theorem ordered_init (config : LoopbackConfig) : Ordered (init config) where
  connected := rfl
  merge := ⟨List.Pairwise.nil, List.Pairwise.nil, nofun⟩
  sent := by rintro packet (h | h | h) <;> cases h
  media_alone := nofun
  control_alone := nofun

/-- A packet that the producer may send is above every packet it sent before. -/
theorem Ordered.precedes_new {s : MuxState} (h : Ordered s) {packet : Packet} {sequence : UInt64}
    (hsequence : ldflPacketSequence packet = .ok sequence)
    (hlast : s.lastSent.all (· < sequence) = true) (other : Packet)
    (hother : other ∈ s.emitted ∨ other ∈ s.line .control ∨ other ∈ s.line .media) :
    Precedes other packet := by
  obtain ⟨a, ha, last, hl, hle⟩ := h.sent other hother
  rw [Option.mem_def] at hl
  rw [hl] at hlast
  have hlt : last < sequence := by simpa using hlast
  exact precedes_iff.mpr ⟨a, sequence, ha, hsequence, UInt64.lt_of_le_of_lt hle hlt⟩

theorem mem_line_of_slot {s : MuxState} {channel : Channel} {packet : Packet}
    (h : packet ∈ s.mux.slot channel) : packet ∈ s.line channel :=
  List.mem_append_left _ (Option.mem_toList.mpr h)

theorem Ordered.send {s t : MuxState} {packet : Packet} (h : Ordered s)
    (he : SendEffect s packet t) : Ordered t := by
  cases he with
  | failed => exact h
  | accepted sequence kept t hsequence hlast hkept hconn hqueued hother hrest =>
    have hnew := h.precedes_new hsequence hlast
    have hmux : t.mux = s.mux := by rw [hrest]
    have hpoint : t.point = s.point := by rw [hrest]
    have hemitted : t.emitted = s.emitted := by rw [hrest]
    have hlastSent : t.lastSent = some sequence := by rw [hrest]
    have hline : t.line packet.channel =
        ((s.mux.slot packet.channel).toList ++ kept) ++ [packet] := by
      rw [line, hmux, hqueued, List.append_assoc]
    have hsub : ((s.mux.slot packet.channel).toList ++ kept).Sublist (s.line packet.channel) :=
      hkept.append_left _
    have hlineOther : ∀ other, other ≠ packet.channel → t.line other = s.line other := by
      intro other hne
      rw [line, line, hmux, hother other hne]
    have hmem : ∀ other x, x ∈ t.line other → x = packet ∨ x ∈ s.line other := by
      intro other x hx
      by_cases hc : other = packet.channel
      · subst hc
        rw [hline] at hx
        rcases List.mem_append.mp hx with hx | hx
        · exact .inr (hsub.subset hx)
        · exact .inl (List.mem_singleton.mp hx)
      · rw [hlineOther other hc] at hx
        exact .inr hx
    have hqueue : ∀ other x, x ∈ t.queued other → x = packet ∨ x ∈ s.queued other := by
      intro other x hx
      by_cases hc : other = packet.channel
      · subst hc
        rw [hqueued] at hx
        rcases List.mem_append.mp hx with hx | hx
        · exact .inr (hkept.subset hx)
        · exact .inl (List.mem_singleton.mp hx)
      · rw [hother other hc] at hx
        exact .inr hx
    refine ⟨hconn, ?_, ?_, ?_, ?_⟩
    · rw [hemitted]
      cases hc : packet.channel with
      | control =>
        rw [hc] at hline hsub
        rw [hline, hlineOther .media (by rw [hc]; exact nofun)]
        exact h.merge.push_left hsub hnew
      | media =>
        rw [hc] at hline hsub
        rw [hline, hlineOther .control (by rw [hc]; exact nofun)]
        exact (h.merge.symm.push_left hsub fun y hy => hnew y (by tauto)).symm
    · intro x hx
      rw [hemitted] at hx
      rw [hlastSent]
      have hcases : x = packet ∨ x ∈ s.emitted ∨ x ∈ s.line .control ∨ x ∈ s.line .media := by
        rcases hx with hx | hx | hx
        · exact .inr (.inl hx)
        · exact (hmem _ x hx).imp_right fun hx => .inr (.inl hx)
        · exact (hmem _ x hx).imp_right fun hx => .inr (.inr hx)
      rcases hcases with rfl | hx
      · exact ⟨sequence, hsequence, sequence, rfl, UInt64.le_refl _⟩
      · obtain ⟨a, b, ha, hb, hab⟩ := precedes_iff.mp (hnew x hx)
        cases hsequence.symm.trans hb
        exact ⟨a, ha, sequence, rfl, UInt64.le_of_lt hab⟩
    · rw [hpoint, hmux]
      intro hp hcontrol media hmedia control hcq
      rcases hqueue _ control hcq with rfl | hcq
      · exact hnew media (.inr (.inr (mem_line_of_slot hmedia)))
      · exact h.media_alone hp hcontrol media hmedia control hcq
    · rw [hpoint, hmux]
      intro hp hmedia control hcontrol media hmq
      rcases hqueue _ media hmq with rfl | hmq
      · exact hnew control (.inr (.inl (mem_line_of_slot hcontrol)))
      · exact h.control_alone hp hmedia control hcontrol media hmq

/-- A read keeps the merge: the held packet only moves from the queue to the slot. -/
theorem Ordered.read_lines {s t : MuxState} {channel : Channel} (h : Ordered s)
    (he : ReadEffect s channel t) :
    MergeOrdered Precedes t.emitted (t.line .control) (t.line .media) ∧
    ∀ packet, packet ∈ t.emitted ∨ packet ∈ t.line .control ∨ packet ∈ t.line .media →
      ∃ sequence, ldflPacketSequence packet = .ok sequence ∧
        ∃ last ∈ t.lastSent, sequence ≤ last := by
  rw [he.line_eq, he.line_eq, he.emitted, he.lastSent]
  exact ⟨h.merge, h.sent⟩

theorem Ordered.readControl {s t : MuxState} (h : Ordered s) (he : ReadEffect s .control t)
    (hpoint : t.point = .beforeMedia) : Ordered t := by
  obtain ⟨hmerge, hsent⟩ := h.read_lines he
  refine ⟨he.connected, hmerge, hsent, fun _ hnone media _ control hcontrol => ?_, ?_⟩
  · -- an empty slot after the read means that the control queue was empty
    have hslot : (s.line .control).head? = none := he.slot.symm.trans hnone
    rw [he.queued, List.head?_eq_none_iff.mp hslot] at hcontrol
    cases hcontrol
  · rw [hpoint]
    exact nofun

theorem Ordered.readMedia {s t : MuxState} (h : Ordered s) (he : ReadEffect s .media t)
    (hbefore : s.point = .beforeMedia) (hguard : RaceFree s .readMedia) : Ordered t := by
  obtain ⟨hmerge, hsent⟩ := h.read_lines he
  have hcontrolSlot : t.mux.control = s.mux.control := he.other_slot .control nofun
  have hcontrolQueue := he.other_queued .control nofun
  refine ⟨he.connected, hmerge, hsent, fun _ hnone media hmedia control hcontrol => ?_,
    fun _ hnone control _ media hmedia => ?_⟩
  · rw [hcontrolSlot] at hnone
    rw [hcontrolQueue] at hcontrol
    cases hheld : s.mux.media with
    | some held =>
      have hline : s.line .media = held :: s.queued .media := by
        rw [line, LdflPacketMux.slot, hheld]
        rfl
      have hslot : t.mux.media = some held := he.slot.trans (by rw [hline]; rfl)
      obtain rfl : media = held := Option.some.inj (hmedia.symm.trans hslot)
      exact h.media_alone (by rw [hbefore]; exact nofun) hnone media hheld control hcontrol
    | none =>
      have hline : s.line .media = s.queued .media := by
        rw [line, LdflPacketMux.slot, hheld]
        rfl
      have hhead : media ∈ (s.queued .media).head? := by rw [← hline, ← he.slot]; exact hmedia
      cases hq : s.queued .control with
      | nil =>
        rw [hq] at hcontrol
        cases hcontrol
      | cons first rest =>
        have hfirst := hguard hnone hheld first (by rw [hq]; rfl) media hhead
        rw [hq] at hcontrol
        rcases List.mem_cons.mp hcontrol with rfl | hrest
        · exact hfirst
        · have hcline : s.line .control = first :: rest := by
            rw [line, LdflPacketMux.slot, hnone]
            exact hq
          exact hfirst.trans ((hcline ▸ h.merge).head_lt control hrest)
  · have hslot : (s.line .media).head? = none := he.slot.symm.trans hnone
    rw [he.queued, List.head?_eq_none_iff.mp hslot] at hmedia
    cases hmedia

/-- The state after `next` returned the packet held in a slot. -/
def emit (s : MuxState) (channel : Channel) (packet : Packet) : MuxState :=
  { s with
    mux := s.mux.setSlot none channel
    point := .beforeControl
    emitted := s.emitted ++ [packet] }

theorem Ordered.below_other {s : MuxState} (h : Ordered s) (hpoint : s.point = .beforeSelect)
    {channel : Channel} {packet : Packet} (hslot : s.mux.slot channel = some packet)
    (hheld : ∀ other, other ≠ channel → ∀ held ∈ s.mux.slot other, Precedes packet held)
    {other : Channel} (hne : other ≠ channel) : ∀ y ∈ s.line other, Precedes packet y := by
  intro y hy
  rw [line] at hy
  cases hother : s.mux.slot other with
  | some held =>
    have hfirst := hheld other hne held hother
    rw [hother] at hy
    rcases List.mem_cons.mp hy with rfl | hy
    · exact hfirst
    · have hline : s.line other = held :: s.queued other := by rw [line, hother]; rfl
      cases other with
      | control => exact hfirst.trans ((hline ▸ h.merge).head_lt y hy)
      | media => exact hfirst.trans ((hline ▸ h.merge).symm.head_lt y hy)
  | none =>
    rw [hother] at hy
    cases other with
    | control =>
      cases channel with
      | control => exact absurd rfl hne
      | media => exact h.media_alone (by rw [hpoint]; exact nofun) hother packet hslot y hy
    | media =>
      cases channel with
      | control => exact h.control_alone hpoint hother packet hslot y hy
      | media => exact absurd rfl hne

theorem Ordered.emit {s : MuxState} (h : Ordered s) {channel : Channel} {packet : Packet}
    (hslot : s.mux.slot channel = some packet)
    (hbelow : ∀ other, other ≠ channel → ∀ y ∈ s.line other, Precedes packet y) :
    Ordered (s.emit channel packet) := by
  have hline : s.line channel = packet :: (s.emit channel packet).line channel := by
    rw [line, line, MuxState.emit, hslot, LdflPacketMux.slot_setSlot]
    rfl
  have hother : ∀ other, other ≠ channel → (s.emit channel packet).line other = s.line other := by
    intro other hne
    rw [line, line, MuxState.emit, LdflPacketMux.slot_setSlot_ne _ _ hne]
    rfl
  have hmem : ∀ other x, x ∈ (s.emit channel packet).line other → x ∈ s.line other := by
    intro other x hx
    by_cases hc : other = channel
    · subst hc
      rw [hline]
      exact List.mem_cons_of_mem _ hx
    · rwa [hother other hc] at hx
  refine ⟨h.connected, ?_, ?_, nofun, nofun⟩
  · cases channel with
    | control =>
      rw [hother .media nofun]
      exact (hline ▸ h.merge).take_left (hbelow .media nofun)
    | media =>
      rw [hother .control nofun]
      exact ((hline ▸ h.merge).symm.take_left (hbelow .control nofun)).symm
  · rintro x (hx | hx | hx)
    · rcases List.mem_append.mp hx with hx | hx
      · exact h.sent x (.inl hx)
      · rw [List.mem_singleton] at hx
        subst hx
        have hx := mem_line_of_slot hslot
        cases channel with
        | control => exact h.sent x (.inr (.inl hx))
        | media => exact h.sent x (.inr (.inr hx))
    · exact h.sent x (.inr (.inl (hmem _ x hx)))
    · exact h.sent x (.inr (.inr (hmem _ x hx)))

theorem Ordered.select {s : MuxState} (h : Ordered s) (hpoint : s.point = .beforeSelect) :
    Ordered s.select := by
  have hkeep : Ordered { s with point := .beforeControl } :=
    ⟨h.connected, h.merge, h.sent, nofun, nofun⟩
  rw [MuxState.select]
  rcases s.mux.select_cases with ⟨error, hselect⟩ | ⟨hempty, hselect⟩ |
    ⟨channel, packet, sequence, hslot, -, hheld, hselect⟩
  · rw [hselect]
    exact hkeep
  · rw [hselect]
    exact hkeep
  · rw [hselect]
    exact h.emit hslot fun other hne => h.below_other hpoint hslot hheld hne

theorem Ordered.step {s t : MuxState} {action : MuxAction} (h : Ordered s)
    (hguard : RaceFree s action) (hstep : s.step action = some t) : Ordered t := by
  cases action with
  | send packet => exact h.send (send_effect h.connected hstep)
  | readControl =>
    obtain ⟨-, ⟨⟩⟩ := Option.ite_none_right_eq_some.mp hstep
    obtain ⟨he, hpoint⟩ := read_effect h.connected .control .beforeMedia
    exact h.readControl he hpoint
  | readMedia =>
    obtain ⟨hpoint, ⟨⟩⟩ := Option.ite_none_right_eq_some.mp hstep
    exact h.readMedia (read_effect h.connected .media .beforeSelect).1 hpoint hguard
  | select =>
    obtain ⟨hpoint, ⟨⟩⟩ := Option.ite_none_right_eq_some.mp hstep
    exact h.select hpoint

/-- The three steps of the worker in a row are one call of `next`. -/
theorem run_next {s : MuxState} (hpoint : s.point = .beforeControl) {result : Option Packet}
    {mux : LdflPacketMux} {link : Link}
    (hnext : s.mux.next s.link .second = (.ok result, mux, link)) :
    machine.run s [.readControl, .readMedia, .select] =
      some { s with mux, link, emitted := s.emitted ++ result.toList } := by
  rw [LdflPacketMux.next] at hnext
  split at hnext
  · cases hnext
  rename_i mux₁ link₁ hcontrol
  split at hnext
  · cases hnext
  rename_i mux₂ link₂ hmedia
  simp only [Prod.mk.injEq] at hnext
  obtain ⟨hresult, rfl, rfl⟩ := hnext
  simp only [Machine.run, machine, step, hpoint, if_true, read, hcontrol, hmedia, select]
  cases hselect : mux₂.select with
  | mk outcome mux₃ =>
    rw [hselect] at hresult
    subst hresult
    cases result <;> simp [← hpoint]

/-- Every packet carries a sequence, and the sequences increase strictly. -/
def Increasing (packets : List Packet) : Prop :=
  ∃ sequences, packets.mapM ldflPacketSequence = .ok sequences ∧ sequences.Pairwise (· < ·)

theorem increasing_of_pairwise {packets : List Packet} (hpair : packets.Pairwise Precedes)
    (hvalid : ∀ packet ∈ packets, ∃ sequence, ldflPacketSequence packet = .ok sequence) :
    Increasing packets := by
  induction packets with
  | nil => exact ⟨[], rfl, .nil⟩
  | cons packet packets ih =>
    obtain ⟨hfirst, hrest⟩ := List.pairwise_cons.mp hpair
    obtain ⟨sequence, hsequence⟩ := hvalid packet List.mem_cons_self
    obtain ⟨sequences, hmap, hinc⟩ := ih hrest fun p hp => hvalid p (List.mem_cons_of_mem _ hp)
    refine ⟨sequence :: sequences, ?_, List.pairwise_cons.mpr ⟨fun other hother => ?_, hinc⟩⟩
    · rw [List.mapM_cons, hsequence, hmap]
      rfl
    · obtain ⟨later, hlater, heq⟩ := mem_of_mapM_eq_ok hmap hother
      obtain ⟨a, b, ha, hb, hab⟩ := precedes_iff.mp (hfirst later hlater)
      cases hsequence.symm.trans ha
      cases heq.symm.trans hb
      exact hab

/-- In every run whose media reads do not overtake the control queue, the emitted sequences
increase strictly. -/
theorem emitted_increasing (config : LoopbackConfig) (actions : List MuxAction) (s : MuxState)
    (hfree : machine.Admits RaceFree (init config) actions)
    (hrun : machine.run (init config) actions = some s) : Increasing s.emitted := by
  have h : Ordered s := machine.run_invariant_of_admits RaceFree Ordered
    (fun _ _ _ h hguard hstep => h.step hguard hstep) (ordered_init config) hfree hrun
  refine increasing_of_pairwise h.merge.done_ordered fun packet hpacket => ?_
  obtain ⟨sequence, hsequence, -⟩ := h.sent packet (.inl hpacket)
  exact ⟨sequence, hsequence⟩

private def pongFrame (sequence : UInt64) : Frame := .empty .pong sequence

private def videoFrame (sequence : UInt64) : Frame := .empty .videoFrame sequence

private def heldActions : List MuxAction :=
  [.send (packetFromFrame (pongFrame 3)), .readControl, .send (packetFromFrame (videoFrame 4)),
    .readMedia, .select, .readControl, .readMedia, .select]

private def racingActions : List MuxAction :=
  [.readControl, .send (packetFromFrame (pongFrame 3)), .send (packetFromFrame (videoFrame 4)),
    .readMedia, .select, .readControl, .readMedia, .select]

/-- A race-free run that emits a control packet and a media packet. -/
theorem emitted_increasing_held :
    ∃ s, machine.run (init .default) heldActions = some s ∧ s.emitted.length = 2 ∧
      Increasing s.emitted :=
  ⟨_, rfl, rfl, emitted_increasing .default heldActions _ (by decide +kernel) rfl⟩

/-- Two sends between the two reads of the worker: the media packet overtakes. -/
theorem emitted_increasing_race :
    ¬ ∀ (config : LoopbackConfig) (actions : List MuxAction) (s : MuxState),
      machine.run (init config) actions = some s → Increasing s.emitted := by
  intro h
  obtain ⟨sequences, hmap, hinc⟩ := h .default racingActions _ rfl
  have hrace : sequences = [4, 3] := Except.ok.inj (hmap.symm.trans (by decide +kernel))
  subst hrace
  exact absurd hinc (by decide)

end MuxState

end LadoFlow.Transport
