import Rquic.Conn.Change

set_option autoImplicit false

/-!
# Received packets are runs

The packet loop of the engine parses a frame, hands it to its handler and goes on with the rest. Seen
from outside it is a run of frames, each in the state that the frames before it left.

* `ConnEvent.isReceipt`: the events that a packet of the peer causes.
* **`recvUdp_run`**: a UDP datagram is a run of such events.
-/

namespace Rquic

/-- The event belongs to a packet of the peer. -/
def ConnEvent.isReceipt : ConnEvent → Bool
  | .frame .. | .processed _ | .error _ | .immediateClose => true
  | _ => false

/-- A run of the events of received packets. -/
def ReceiptRun (c c' : Conn) : Prop := ∃ evs : List ConnEvent, (∀ ev ∈ evs, ev.isReceipt) ∧ c' = c.run evs

theorem ReceiptRun.refl (c : Conn) : ReceiptRun c c := ⟨[], nofun, rfl⟩

theorem ReceiptRun.trans {c c' c'' : Conn} (h : ReceiptRun c c') (h' : ReceiptRun c' c'') :
    ReceiptRun c c'' := by
  obtain ⟨evs, hevs, rfl⟩ := h
  obtain ⟨evs', hevs', rfl⟩ := h'
  refine ⟨evs ++ evs', fun ev hev => ?_, (c.run_append evs evs').symm⟩
  rcases List.mem_append.1 hev with h | h
  · exact hevs ev h
  · exact hevs' ev h

theorem ReceiptRun.single (c : Conn) (ev : ConnEvent) (hev : ev.isReceipt = true) :
    ReceiptRun c (c.step ev) := ⟨[ev], by simpa using hev, rfl⟩

theorem HandshakeMono.refusesPacket {c c' : Conn} (h : HandshakeMono c c') {pkt : PacketIn}
    (hpkt : refusesPacket c pkt = false) : refusesPacket c' pkt = false := by
  unfold Rquic.refusesPacket at hpkt ⊢
  rw [h.connType]
  rcases Bool.and_eq_false_iff.1 hpkt with hne | hdone
  · rw [hne, Bool.false_and]
  · cases hc : c.connType with
    | client =>
        rw [hc] at hdone
        dsimp only at hdone ⊢
        rw [h.done (by simpa using hdone), Bool.not_true, Bool.and_false]
    | server =>
        rw [hc] at hdone
        dsimp only at hdone ⊢
        rw [h.sent (by simpa using hdone), Bool.not_true, Bool.and_false]

theorem parseConnCloseFrame_type {b : UInt8} {bs rest : Bytes} {f : Frame}
    (h : parseConnCloseFrame b bs = .ok (f, rest)) : f.type = .connectionClose := by
  unfold parseConnCloseFrame at h
  obtain ⟨a, -, h⟩ := bind_eq_ok h
  split_ifs at h
  · obtain ⟨_, -, h⟩ := bind_eq_ok h
    obtain ⟨_, -, h⟩ := bind_eq_ok h
    obtain ⟨_, -, h⟩ := bind_eq_ok h
    obtain ⟨rfl, -⟩ := Prod.mk.inj (Except.ok.inj h)
    rfl
  · obtain ⟨_, -, h⟩ := bind_eq_ok h
    obtain ⟨_, -, h⟩ := bind_eq_ok h
    obtain ⟨rfl, -⟩ := Prod.mk.inj (Except.ok.inj h)
    rfl

theorem parseFrame_connClose {e v : ℕ} {bs rest rest' : Bytes} {f : Frame}
    (hparse : parseFrame e bs = .ok (f, rest)) (hv : vintRead bs = some (v, rest'))
    (htype : v = 0x1c ∨ v = 0x1d) : f.type = .connectionClose := by
  cases bs with
  | nil => cases hparse
  | cons b bs =>
      rw [parseFrame, hv] at hparse
      obtain rfl | rfl := htype
      · exact parseConnCloseFrame_type hparse
      · exact parseConnCloseFrame_type hparse

/-- A frame that passes `refusesFrame` is taken by the packet loop. -/
theorem takesFrame_of_not_refused {c : Conn} {pkt : PacketIn} {e : ℕ} {bs rest : Bytes} {f : Frame}
    (hpkt : refusesPacket c pkt = false) (hrefuses : refusesFrame c bs = none)
    (hparse : parseFrame e bs = .ok (f, rest)) : c.takesFrame pkt f = true := by
  unfold Conn.takesFrame
  rw [hpkt, Bool.not_false, Bool.true_and, Bool.or_eq_true]
  unfold refusesFrame at hrefuses
  by_cases hclosing : c.connState = .closing
  · rw [if_pos hclosing] at hrefuses
    refine .inr (decide_eq_true ⟨hclosing, ?_⟩)
    split at hrefuses
    · exact parseFrame_connClose hparse (by assumption) (.inl rfl)
    · exact parseFrame_connClose hparse (by assumption) (.inr rfl)
    · cases hrefuses
  · rw [if_neg hclosing] at hrefuses
    split_ifs at hrefuses with hdraining
    refine .inl ?_
    unfold Conn.isClosing
    cases hstate : c.connState <;> rw [hstate] at hclosing hdraining <;>
      simp_all [ConnState.toNat]

theorem processFrames_run (env : FrameEnv) (pkt : PacketIn) {fuel : ℕ} {c : Conn}
    {types : Finset FrameType} {bs : Bytes} (hkeyed : c.Keyed) (hpkt : refusesPacket c pkt = false) :
    ReceiptRun c (processFrames env pkt fuel c types bs).1 := by
  induction fuel generalizing c types bs with
  | zero =>
      cases bs with
      | nil =>
          rw [processFrames]
          split_ifs
          · exact .single c (.error .protocolViolation) rfl
          · exact .refl c
      | cons b bs =>
          rw [processFrames]
          exact .refl c
  | succ fuel ih =>
      cases bs with
      | nil =>
          rw [processFrames]
          split_ifs
          · exact .single c (.error .protocolViolation) rfl
          · exact .refl c
      | cons b bs =>
          rw [processFrames]
          by_cases hvint : vintRead (b :: bs) = none
          · rw [if_pos hvint]
            exact .refl c
          rw [if_neg hvint]
          split
          · -- the packet ends here
            rename_i c₁ hrefuses
            unfold refusesFrame at hrefuses
            split_ifs at hrefuses
            · split at hrefuses
              · cases hrefuses
              · cases hrefuses
              · obtain rfl := Option.some.inj hrefuses
                exact .single c .immediateClose rfl
            · obtain rfl := Option.some.inj hrefuses
              exact .refl c
          · rename_i hrefuses
            split
            · exact .refl c
            · rename_i f rest hparse
              dsimp only
              have htakes := takesFrame_of_not_refused hpkt hrefuses hparse
              have hstep : ReceiptRun c (processFrame env
                  (c.addLog (.recvd pkt.pktNum (pkt.payload.length - (b :: bs).length) f)) pkt
                  (pkt.payload.length - (b :: bs).length) ((b :: bs).length - rest.length) f).1 := by
                have hrun := ReceiptRun.single c (.frame env pkt (pkt.payload.length - (b :: bs).length)
                  ((b :: bs).length - rest.length) ⟨f, parseFrame_fits hparse⟩) rfl
                rw [Conn.step_frame, if_pos htakes] at hrun
                exact hrun
              have hkeyed₁ : Conn.Keyed (c.addLog
                  (.recvd pkt.pktNum (pkt.payload.length - (b :: bs).length) f)) := hkeyed
              have hsteps := processFrame_steps hkeyed₁ env pkt (pkt.payload.length - (b :: bs).length)
                ((b :: bs).length - rest.length) ⟨f, parseFrame_fits hparse⟩
              rcases hp : processFrame env
                  (c.addLog (.recvd pkt.pktNum (pkt.payload.length - (b :: bs).length) f)) pkt
                  (pkt.payload.length - (b :: bs).length) ((b :: bs).length - rest.length) f with ⟨c₁, ret⟩
              rw [hp] at hstep hsteps
              cases ret with
              | error err => exact hstep
              | ok u =>
                  dsimp only
                  split_ifs
                  · exact hstep
                  · exact hstep
                  · refine hstep.trans (ih (hsteps.inv (fun _ _ h => h.keyed) hkeyed₁) ?_)
                    exact hsteps.handshakeMono.refusesPacket hpkt

theorem processPacketSingle_run (env : FrameEnv) {c : Conn} (hkeyed : c.Keyed) (pkt : PacketIn) :
    ReceiptRun c (processPacketSingle env c pkt).1 := by
  unfold processPacketSingle
  split_ifs with hpkt
  · exact .refl c
  · exact processFrames_run env pkt hkeyed (by simpa using hpkt)

theorem run_keyed {c : Conn} (hkeyed : c.Keyed) (evs : List ConnEvent) : (c.run evs).Keyed :=
  Conn.run_inv (P := Conn.Keyed) (fun _ ev h => step_keyed h ev) hkeyed evs

theorem ReceiptRun.keyed {c c' : Conn} (h : ReceiptRun c c') (hkeyed : c.Keyed) : c'.Keyed := by
  obtain ⟨evs, -, rfl⟩ := h
  exact run_keyed hkeyed evs

theorem processPacket_run (env : FrameEnv) {c : Conn} (hkeyed : c.Keyed) (pkts : List PacketIn) :
    ReceiptRun c (processPacket env c pkts).1 := by
  induction pkts generalizing c with
  | nil => exact .refl c
  | cons pkt pkts ih =>
      rw [processPacket]
      have hsingle := processPacketSingle_run env hkeyed pkt
      rcases hp : processPacketSingle env c pkt with ⟨c₁, ret⟩
      rw [hp] at hsingle
      cases ret with
      | ok u =>
          have hprocessed := hsingle.trans (.single c₁ (.processed pkt) rfl)
          exact hprocessed.trans (ih (hprocessed.keyed hkeyed))
      | error e =>
          dsimp only
          split_ifs <;> exact hsingle

/-- **A UDP datagram is a run of the frames of its packets.** -/
theorem recvUdp_run (env : FrameEnv) {c : Conn} (hkeyed : c.Keyed) (pkts : List PacketIn) :
    ReceiptRun c (recvUdp env c pkts) := by
  have hrun := processPacket_run env hkeyed pkts
  unfold recvUdp
  rcases hp : processPacket env c pkts with ⟨c₁, ret⟩
  rw [hp] at hrun
  cases ret with
  | ok u => exact hrun
  | error e => exact hrun.trans (.single c₁ (.error .frameEncodingError) rfl)

end Rquic
