import Rquic.SendQueue.Places
import Rquic.SendQueue.SentWire

set_option autoImplicit false

/-!
# Bursts

Where the socket takes several packets at once, a path buffer is sent in bursts. The packets of a burst are
checked and numbered one after the other, given to the socket together, and booked as sent afterwards.

* `prepareBurst`: the loop of `rqc_path_send_burst_packets`.
* `commitSent`, `sendBurst`, `sendBatch`: what follows, and the loop over the bursts.
* `ship`: a packet leaves. What is done to other packets may be done before or after that.
* **`prepareBurst_ship`**: a packet may leave before those behind it are prepared.
* **`foldl_commitSent_writeSocket`**: a burst that is written and then booked leaves packet by packet.
-/

namespace Rquic

/-! ## The loops -/

/-- `RQC_MAX_SEND_MSG_ONCE`. -/
def maxSendMsgOnce : ℕ := 32

/-- What the congestion window and the pacer say about a packet, where the packets of the burst in front of it
have so many bytes. -/
abbrev BurstCheck := PktId → ℕ → Bool

/-- A round of `rqc_path_send_packets_batch`: the checks, the time, and how many of the prepared packets the
socket takes; an error counts as none. -/
structure BurstRound where
  allows : BurstCheck
  now : ℕ
  taken : ℕ → ℕ

/-- The loop of `rqc_path_send_burst_packets`: the packets that were prepared, at most so many. -/
def prepareBurst (allows : BurstCheck) (t : SendType) (now : ℕ) :
    ℕ → ℕ → List PktId → SendQueue → List PktId × SendQueue
  | _, _, [], s => ([], s)
  | 0, _, _ :: _, s => ([], s)
  | room + 1, total, id :: ids, s =>
    match indirectlyAckOrDropPo s id with
    | some s' => prepareBurst allows t now (room + 1) total ids s'
    | none =>
      if allows id total then
        let r := prepareBurst allows t now room (total + (s.pkts id).poBuf.length) ids
          (setNextPn (markRetrans s t id) id now)
        (id :: r.1, r.2)
      else ([], markRetrans s t id)

/-- What `rqc_on_packets_send_burst` does to a packet that was sent. -/
def commitSent (s : SendQueue) (id : PktId) (srtt now : ℕ) : SendQueue :=
  insertUnacked (pathSendBufferRemove (onPacketSent s id srtt now) id) id

/-- `rqc_path_send_burst_packets` with `rqc_on_packets_send_burst`, and how many packets were sent. The packets
that are booked are the first of the path buffer. -/
def sendBurst (s : SendQueue) (t : SendType) (srtt : ℕ) (round : BurstRound) : SendQueue × ℕ :=
  let r := prepareBurst round.allows t round.now maxSendMsgOnce 0 (s.lists (.scheduleBuf t)) s
  let sent := round.taken r.1.length
  (((r.2.lists (.scheduleBuf t)).take sent).foldl (fun s id => commitSent s id srtt round.now)
    ((r.1.take sent).foldl writeSocket r.2), sent)

/-- The loop of `rqc_path_send_packets_batch`. -/
def sendBatch (t : SendType) (srtt : ℕ) : List BurstRound → SendQueue → SendQueue
  | [], s => s
  | round :: rounds, s =>
    if s.lists (.scheduleBuf t) = [] then s
    else
      let r := sendBurst s t srtt round
      if r.2 = maxSendMsgOnce then sendBatch t srtt rounds r.1 else r.1

/-! ## A packet leaves -/

/-- A numbered packet goes to the socket and is booked. -/
def ship (s : SendQueue) (id : PktId) (srtt now : ℕ) : SendQueue := commitSent (writeSocket s id) id srtt now

theorem ship_setNextPn (s : SendQueue) (id : PktId) (srtt now : ℕ) :
    ship (setNextPn s id now) id srtt now = transmit s id srtt now := rfl

/-- The packet once it is booked. -/
def PacketOut.shipped (po : PacketOut) : PacketOut :=
  if isAckEliciting po.poFrameTypes then po.onSent.leavePathBuf.enterUnackList else po.onSent.leavePathBuf

variable {s s' : SendQueue} {b c : PktId} {srtt now : ℕ} {t : SendType}

theorem commitSent_eq (s : SendQueue) (b : PktId) (srtt now : ℕ) :
    commitSent s b srtt now = { s with
      pkts := Function.update s.pkts b (s.pkts b).shipped
      lists := if isAckEliciting (s.pkts b).poFrameTypes then
          ((s.unlink b).pushTail .unackedPackets b).lists else (s.unlink b).lists
      largestSent := max s.largestSent (s.pkts b).pktNum
      ackSentRecord :=
        if 0 < (s.pkts b).poLargestAck then
          ackSentRecordAdd s.ackSentRecord ⟨(s.pkts b).pktNum, (s.pkts b).poLargestAck⟩ srtt now
        else s.ackSentRecord } := by
  by_cases hack : isAckEliciting (s.pkts b).poFrameTypes
  · simp [commitSent, insertUnacked, pathSendBufferRemove, onPacketSent, SendQueue.modify, SendQueue.set,
      SendQueue.unlink, SendQueue.pushTail, PacketOut.shipped, hack, PacketOut.leavePathBuf]
  · simp [commitSent, insertUnacked, pathSendBufferRemove, onPacketSent, SendQueue.modify, SendQueue.set,
      SendQueue.unlink, PacketOut.shipped, hack, PacketOut.leavePathBuf]

theorem ship_pkts_of_ne (s : SendQueue) (srtt now : ℕ) (h : c ≠ b) : (ship s b srtt now).pkts c = s.pkts c := by
  rw [ship, commitSent_eq]
  exact Function.update_of_ne h ..

/-! ### What goes on beside it -/

theorem ship_modify (s : SendQueue) (srtt now : ℕ) (f : PacketOut → PacketOut) (h : c ≠ b) :
    (ship s b srtt now).modify c f = ship (s.modify c f) b srtt now := by
  have hb : (s.modify c f).pkts b = s.pkts b := SendQueue.modify_pkts_of_ne s f h.symm
  have hc := ship_pkts_of_ne s srtt now h
  have hw : writeSocket (s.modify c f) b = (writeSocket s b).modify c f := by
    rw [writeSocket, hb]
    rfl
  have hb' : ((writeSocket s b).modify c f).pkts b = s.pkts b := hb
  rw [SendQueue.modify, hc, ship, ship, hw, commitSent_eq, commitSent_eq, hb']
  unfold SendQueue.modify SendQueue.set
  dsimp only
  rw [Function.update_comm h]
  rfl

theorem ship_unlink (s : SendQueue) (srtt now : ℕ) (h : c ≠ b) :
    (ship s b srtt now).unlink c = ship (s.unlink c) b srtt now := by
  rw [ship, ship, commitSent_eq, commitSent_eq]
  unfold SendQueue.unlink
  congr 1
  funext p
  by_cases hack : isAckEliciting (s.pkts b).poFrameTypes
  · by_cases hp : p = .unackedPackets
    · simp [writeSocket, hack, SendQueue.pushTail, hp, h.symm, List.filter_filter, Bool.and_comm]
    · simp [writeSocket, hack, SendQueue.pushTail, hp, List.filter_filter, Bool.and_comm]
  · simp [writeSocket, hack, List.filter_filter, Bool.and_comm]

theorem ship_setNextPn_of_ne (s : SendQueue) (srtt now : ℕ) (h : c ≠ b) :
    setNextPn (ship s b srtt now) c now = ship (setNextPn s c now) b srtt now := by
  have hn : (ship s b srtt now).packetNumber = s.packetNumber := by rw [ship, commitSent_eq]; rfl
  rw [setNextPn, hn, ship_modify s srtt now _ h, ship, ship, commitSent_eq, commitSent_eq]
  rfl

theorem ship_markRetrans (s : SendQueue) (srtt now : ℕ) (t : SendType) (h : c ≠ b) :
    markRetrans (ship s b srtt now) t c = ship (markRetrans s t c) b srtt now := by
  unfold markRetrans
  split_ifs
  · exact ship_modify s srtt now _ h
  · rfl

theorem ship_leaveList (s : SendQueue) (srtt now : ℕ) (path : Bool) (h : c ≠ b) :
    leaveList (ship s b srtt now) c path = ship (leaveList s c path) b srtt now := by
  unfold leaveList pathSendBufferRemove removeUnacked
  rw [ship_pkts_of_ne s srtt now h, ship_unlink s srtt now h]
  split_ifs
  · exact ship_modify _ srtt now _ h
  · exact ship_modify _ srtt now _ h

theorem ship_releaseOrigin (s : SendQueue) (srtt now : ℕ) (h : c ≠ b) :
    releaseOrigin (ship s b srtt now) c = ship (releaseOrigin s c) b srtt now := by
  unfold releaseOrigin removeUnacked
  rw [ship_pkts_of_ne s srtt now h, ship_modify s srtt now _ h]
  split_ifs
  · rw [ship_modify _ srtt now _ h, ship_unlink _ srtt now h, ship_modify _ srtt now _ h]
  · rfl

theorem ship_maybeRemoveUnacked (s : SendQueue) (srtt now : ℕ) (path : Bool) (h : c ≠ b)
    (horigin : (s.pkts c).poOrigin ≠ some b) :
    maybeRemoveUnacked (ship s b srtt now) c path = ship (maybeRemoveUnacked s c path) b srtt now := by
  unfold maybeRemoveUnacked
  rw [ship_pkts_of_ne s srtt now h]
  cases ho : (s.pkts c).poOrigin with
  | none =>
      dsimp only
      split_ifs
      · rfl
      · exact ship_leaveList s srtt now path h
  | some origin =>
      have hne : origin ≠ b := fun heq => horigin (heq ▸ ho)
      dsimp only
      rw [ship_leaveList s srtt now path h, ship_releaseOrigin _ srtt now hne]

theorem ship_onPacketAcked (s : SendQueue) (srtt now : ℕ) (h : c ≠ b)
    (horigin : (s.pkts c).poOrigin ≠ some b) :
    onPacketAcked (ship s b srtt now) c = ship (onPacketAcked s c) b srtt now := by
  unfold onPacketAcked
  rw [ship_pkts_of_ne s srtt now h, ship_modify s srtt now _ h]
  cases ho : (s.pkts c).poOrigin with
  | none => rfl
  | some origin =>
      have hne : origin ≠ b := fun heq => horigin (heq ▸ ho)
      exact ship_modify _ srtt now _ hne

theorem ship_originAcked (s : SendQueue) (srtt now : ℕ) (h : c ≠ b)
    (horigin : (s.pkts c).poOrigin ≠ some b) :
    originAcked (ship s b srtt now) c = originAcked s c := by
  unfold originAcked
  rw [ship_pkts_of_ne s srtt now h]
  cases ho : (s.pkts c).poOrigin with
  | none => rfl
  | some origin =>
      have hne : origin ≠ b := fun heq => horigin (heq ▸ ho)
      dsimp only
      rw [ship_pkts_of_ne s srtt now hne]

theorem ship_indirectlyAckOrDropPo (s : SendQueue) (srtt now : ℕ) (h : c ≠ b)
    (horigin : (s.pkts c).poOrigin ≠ some b) :
    indirectlyAckOrDropPo (ship s b srtt now) c =
      (indirectlyAckOrDropPo s c).map fun s' => ship s' b srtt now := by
  have hacked : ((onPacketAcked s c).pkts c).poOrigin ≠ some b := by
    rwa [(onPacketAcked_arranges s c).origin c]
  unfold indirectlyAckOrDropPo
  rw [ship_pkts_of_ne s srtt now h, ship_originAcked s srtt now h horigin]
  split_ifs
  · rw [ship_onPacketAcked s srtt now h horigin, ship_maybeRemoveUnacked _ srtt now true h hacked]
    rfl
  · rw [ship_maybeRemoveUnacked s srtt now true h horigin]
    rfl
  · rfl

/-- The packets behind one in a burst are not copies of `b` either. -/
theorem Arranges.poOrigin_ne {ids : List PktId} (h : Arranges s s')
    (horigin : ∀ c' ∈ c :: ids, (s.pkts c').poOrigin ≠ some b) :
    ∀ c' ∈ ids, (s'.pkts c').poOrigin ≠ some b := by
  intro c' hc'
  rw [h.origin c']
  exact horigin c' (List.mem_cons_of_mem _ hc')

/-- **A packet may leave before those behind it are prepared.** -/
theorem prepareBurst_ship (allows : BurstCheck) (t : SendType) (srtt now room total : ℕ) {ids : List PktId}
    (s : SendQueue) (hb : b ∉ ids) (horigin : ∀ c ∈ ids, (s.pkts c).poOrigin ≠ some b) :
    prepareBurst allows t now room total ids (ship s b srtt now) =
      ((prepareBurst allows t now room total ids s).1,
        ship (prepareBurst allows t now room total ids s).2 b srtt now) := by
  induction ids generalizing room total s with
  | nil => cases room <;> rfl
  | cons c ids ih =>
      have hc : c ≠ b := fun heq => hb (heq ▸ List.mem_cons_self)
      have hids : b ∉ ids := fun hmem => hb (List.mem_cons_of_mem _ hmem)
      cases room with
      | zero => rfl
      | succ room =>
          rw [prepareBurst, prepareBurst,
            ship_indirectlyAckOrDropPo s srtt now hc (horigin c List.mem_cons_self)]
          cases hs : indirectlyAckOrDropPo s c with
          | some s' => exact ih _ _ s' hids ((indirectlyAckOrDropPo_arranges hs).poOrigin_ne horigin)
          | none =>
              have hmark := markRetrans_arranges s t c
              rw [Option.map_none]
              dsimp only
              rw [ship_markRetrans s srtt now t hc, ship_pkts_of_ne s srtt now hc]
              split_ifs
              · rw [ship_setNextPn_of_ne _ srtt now hc,
                  ih _ _ _ hids ((hmark.trans (setNextPn_arranges _ c now)).poOrigin_ne horigin)]
              · rfl

/-! ### One after the other -/

theorem PacketOut.onSent_pktNum (po : PacketOut) : po.onSent.pktNum = po.pktNum := by
  unfold onSent increaseUnackedStreamRef increaseInflight
  split_ifs <;> rfl

theorem PacketOut.shipped_onWire (po : PacketOut) : po.shipped.onWire = po.onWire := by
  have hsent : po.onSent.onWire = po.onWire := onWire_of_body (body_onSent po) po.onSent_pktNum
  have hleave : ∀ po : PacketOut, po.leavePathBuf.onWire = po.onWire := fun _ => rfl
  have henter : ∀ po : PacketOut, po.enterUnackList.onWire = po.onWire := fun _ => rfl
  unfold shipped
  split_ifs
  · rw [henter, hleave, hsent]
  · rw [hleave, hsent]

/-- Packets may be booked while others still go to the socket. -/
theorem writeSocket_commitSent (s : SendQueue) (b c : PktId) (srtt now : ℕ) :
    writeSocket (commitSent s b srtt now) c = commitSent (writeSocket s c) b srtt now := by
  have hsame : ((commitSent s b srtt now).pkts c).onWire = (s.pkts c).onWire := by
    rw [commitSent_eq]
    by_cases hc : c = b
    · rw [hc]
      dsimp only
      rw [Function.update_self, PacketOut.shipped_onWire]
    · dsimp only
      rw [Function.update_of_ne hc]
  have hwire : (commitSent s b srtt now).wire = s.wire := by rw [commitSent_eq]
  rw [writeSocket, hwire, commitSent_eq (writeSocket s c)]
  change { commitSent s b srtt now with wire := s.wire ++ [((commitSent s b srtt now).pkts c).onWire] } = _
  rw [hsame, commitSent_eq]
  rfl

theorem foldl_writeSocket_commitSent (s : SendQueue) (b : PktId) (srtt now : ℕ) (ids : List PktId) :
    ids.foldl writeSocket (commitSent s b srtt now) = commitSent (ids.foldl writeSocket s) b srtt now := by
  induction ids generalizing s with
  | nil => rfl
  | cons c ids ih => rw [List.foldl_cons, writeSocket_commitSent, ih, List.foldl_cons]

/-- A burst that is written and then booked leaves packet by packet. -/
theorem foldl_commitSent_writeSocket (s : SendQueue) (srtt now : ℕ) (ids : List PktId) :
    ids.foldl (fun s id => commitSent s id srtt now) (ids.foldl writeSocket s) =
      ids.foldl (fun s id => ship s id srtt now) s := by
  induction ids generalizing s with
  | nil => rfl
  | cons b ids ih =>
      rw [List.foldl_cons, List.foldl_cons, List.foldl_cons, ← ih, ship, foldl_writeSocket_commitSent]

end Rquic
