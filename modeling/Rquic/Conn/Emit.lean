import Rquic.Conn.PeerStreams
import Rquic.SendQueue.Content

set_option autoImplicit false

/-!
# What a send emits

The calls that send on a stream, by what they add to the history: the bytes of the STREAM frames, in
order, and where FIN stands.

* `emittedOf`: the bytes of a stream in a history.
* `EmitLog`: every STREAM frame starts where the bytes before it end, and FIN stands at the ends that
  were asked for.
* `Sends`: a call has written the first `n` bytes of its data.
* **`streamSendScalar_sends`**: the scalar send writes the prefix whose length it returns.
* **`streamSendvAtomic_sends`**: the vectored send writes a prefix and keeps the rest, or takes nothing.
* **`streamAtomicDrain_sends`**: the drain writes from the front of the pending bytes.
-/

namespace Rquic

/-! ## The bytes in the history -/

/-- The bytes of the stream in an entry. -/
def LogEntry.bytesOf (id : StreamId) : LogEntry → Bytes
  | .wroteStream id' _ _ data => if id' = id then data else []
  | _ => []

/-- The bytes of the stream in a history. -/
def emittedOf (id : StreamId) (log : List LogEntry) : Bytes := log.flatMap (LogEntry.bytesOf id)

@[simp] theorem emittedOf_nil (id : StreamId) : emittedOf id [] = [] := rfl

@[simp] theorem emittedOf_append (id : StreamId) (log log' : List LogEntry) :
    emittedOf id (log ++ log') = emittedOf id log ++ emittedOf id log' := List.flatMap_append

@[simp] theorem emittedOf_singleton (id : StreamId) (entry : LogEntry) :
    emittedOf id [entry] = entry.bytesOf id := by simp [emittedOf]

/-- The entry stands at position `n`: the frame starts there, and FIN stands where `ends` allows. -/
def LogEntry.Placed (id : StreamId) (ends : ℕ → Prop) (n : ℕ) : LogEntry → Prop
  | .wroteStream id' offset fin data =>
    id' = id → offset = n % 2 ^ 64 ∧ (fin = true → ends (n + data.length))
  | _ => True

/-- All entries stand where the bytes before them end. -/
def EmitLog (id : StreamId) (ends : ℕ → Prop) : ℕ → List LogEntry → Prop
  | _, [] => True
  | n, entry :: log => entry.Placed id ends n ∧ EmitLog id ends (n + (entry.bytesOf id).length) log

theorem EmitLog.append {id : StreamId} {ends : ℕ → Prop} {n : ℕ} {log log' : List LogEntry} :
    EmitLog id ends n (log ++ log') ↔
      EmitLog id ends n log ∧ EmitLog id ends (n + (emittedOf id log).length) log' := by
  induction log generalizing n with
  | nil => simp [EmitLog]
  | cons entry log ih =>
      have hlen : n + (entry.bytesOf id).length + (emittedOf id log).length =
          n + (emittedOf id (entry :: log)).length := by
        simp [emittedOf]
        omega
      simp only [List.cons_append, EmitLog, ih, hlen, and_assoc]

theorem EmitLog.mono_le {id : StreamId} {ends ends' : ℕ → Prop} {n : ℕ} {log : List LogEntry}
    (h : ∀ e, e ≤ n + (emittedOf id log).length → ends e → ends' e) (hlog : EmitLog id ends n log) :
    EmitLog id ends' n log := by
  induction log generalizing n with
  | nil => trivial
  | cons entry log ih =>
      have hlen : (emittedOf id (entry :: log)).length =
          (entry.bytesOf id).length + (emittedOf id log).length := by simp [emittedOf]
      rw [hlen] at h
      refine ⟨?_, ih (fun e he => h e (by omega)) hlog.2⟩
      have hentry := hlog.1
      cases entry with
      | wroteStream id' offset fin data =>
          intro hid
          have hbytes : (LogEntry.bytesOf id (.wroteStream id' offset fin data)).length = data.length := by
            simp [LogEntry.bytesOf, hid]
          rw [hbytes] at h
          exact ⟨(hentry hid).1, fun hfin => h _ (by omega) ((hentry hid).2 hfin)⟩
      | _ => trivial

theorem EmitLog.mono {id : StreamId} {ends ends' : ℕ → Prop} (h : ∀ e, ends e → ends' e) {n : ℕ}
    {log : List LogEntry} (hlog : EmitLog id ends n log) : EmitLog id ends' n log :=
  hlog.mono_le fun e _ => h e

theorem EmitLog.of_silent {id : StreamId} {ends : ℕ → Prop} {log : List LogEntry}
    (h : ∀ offset fin data, .wroteStream id offset fin data ∉ log) (n : ℕ) :
    EmitLog id ends n log := by
  induction log generalizing n with
  | nil => trivial
  | cons entry log ih =>
      have hlog := ih fun offset fin data hmem => h offset fin data (List.mem_cons_of_mem entry hmem)
      cases entry with
      | wroteStream id' offset fin data =>
          refine ⟨fun hid => ?_, hlog _⟩
          rw [hid] at h
          exact absurd List.mem_cons_self (h offset fin data)
      | _ => exact ⟨trivial, hlog _⟩

theorem emittedOf_silent {id : StreamId} {log : List LogEntry}
    (h : ∀ offset fin data, .wroteStream id offset fin data ∉ log) : emittedOf id log = [] := by
  refine List.flatMap_eq_nil_iff.2 fun entry hmem => ?_
  cases entry with
  | wroteStream id' offset fin data =>
      refine if_neg fun hid => ?_
      rw [hid] at hmem
      exact h offset fin data hmem
  | _ => rfl

/-! ## Room for a STREAM frame -/

/-- The room that a STREAM frame with at least one byte needs. -/
def streamFrameRoom : ℕ := 20

/-- A new packet has room for a STREAM frame. -/
def Conn.HasRoom (c : Conn) : Prop :=
  (c.header .shortHeader).length + streamFrameRoom ≤ c.pktOutSize.1

theorem streamFrameIds_length (streamId offset : ℕ) : (streamFrameIds streamId offset).length ≤ 16 := by
  unfold streamFrameIds
  have hid := length_vintBytes_le streamId
  have hoffset := length_vintBytes_le offset
  split_ifs <;> simp <;> omega

theorem newStreamFrame_fits {po : PacketOut} (hroom : streamFrameRoom ≤ po.remainedSize)
    (streamId offset : ℕ) (fin : Bool) (payload : Bytes) :
    ∃ po' n, newStreamFrame po streamId offset fin payload = .ok (po', n) ∧ n ≤ payload.length := by
  have hids := streamFrameIds_length streamId offset
  unfold streamFrameRoom at hroom
  unfold newStreamFrame
  dsimp only
  by_cases hfin : (fin && payload.isEmpty) = true
  · rw [if_pos hfin, if_neg (by split_ifs <;> omega)]
    exact ⟨_, _, rfl, Nat.zero_le _⟩
  · rw [if_neg hfin, if_neg (by omega)]
    exact ⟨_, _, rfl, min_le_left _ _⟩

theorem genStreamFrame_fits {po : PacketOut} (hroom : streamFrameRoom ≤ po.remainedSize)
    (hslots : po.poStreamFrames.length < maxStreamFrameInPo) (streamId offset : ℕ) (fin : Bool)
    (payload : Bytes) :
    ∃ po' n, genStreamFrame po streamId offset fin payload = .ok (po', n) ∧ n ≤ payload.length := by
  unfold genStreamFrame
  rw [if_neg (not_le.2 hslots)]
  split
  · rename_i prev _
    refine ⟨_, _, rfl, ?_⟩
    show (if (fin && payload.isEmpty) = true then 0 else min payload.length po.remainedSize) ≤ _
    split_ifs
    · exact Nat.zero_le _
    · exact min_le_left _ _
  · exact newStreamFrame_fits hroom streamId offset fin payload

theorem writeStreamFrame_fits {params : PktParams}
    (hroom : params.header.length + streamFrameRoom ≤ params.pktOutSize.1) (s : SendQueue)
    (highPri : Bool) (streamId offset : ℕ) (fin : Bool) (payload : Bytes) :
    ∃ s' n, writeStreamFrame s highPri params streamId offset fin payload = .ok (s', n) ∧
      n ≤ payload.length := by
  unfold writeStreamFrame
  split
  · rename_i id hget
    obtain ⟨-, -, hneed, hslots⟩ := getPacketOutForStream_some hget
    have hroom' : streamFrameRoom ≤ (s.pkts id).remainedSize :=
      le_trans (by decide : streamFrameRoom ≤ streamNeed) hneed
    obtain ⟨po, n, hgen, hn⟩ := genStreamFrame_fits hroom' hslots streamId offset fin payload
    rw [hgen]
    exact ⟨_, n, rfl, hn⟩
  · have hnew : params.newPacket =
        .ok (writeNewPacket params.pktType params.pktOutSize.1 params.header) := by
      unfold PktParams.newPacket
      rw [if_neg (by omega)]
    have hroom' : streamFrameRoom ≤
        (writeNewPacket params.pktType params.pktOutSize.1 params.header).remainedSize := by
      unfold PacketOut.remainedSize writeNewPacket
      dsimp only
      have hpos : 0 < streamFrameRoom := by decide
      split_ifs <;> omega
    obtain ⟨po, n, hgen, hn⟩ := genStreamFrame_fits hroom' (Nat.zero_lt_succ _) streamId offset fin payload
    rw [hnew, ok_bind, hgen]
    exact ⟨_, n, rfl, hn⟩

/-! ## The writes of a call -/

/-- A call has written the first `n` bytes of `data`. FIN, if it was written, was asked for and stands
behind the last byte of `data`. -/
structure Sends (c : Conn) (s : Stream) (data : Bytes) (fin : Bool) (n : ℕ) (c' : Conn) (s' : Stream) :
    Prop where
  streamId : s'.streamId = s.streamId
  stateSend : s'.streamStateSend = s.streamStateSend
  connState : c'.connState = c.connState
  header : c'.header = c.header
  pktOutSize : c'.pktOutSize = c.pktOutSize
  written : n ≤ data.length
  log : ∃ l, c'.log = c.log ++ l ∧ emittedOf s.streamId l = data.take n ∧
    ∀ k, s.streamSendOffset = k % 2 ^ 64 →
      EmitLog s.streamId (fun e => fin = true ∧ e = k + data.length) k l
  sendOffset : ∀ k, s.streamSendOffset = k % 2 ^ 64 → s'.streamSendOffset = (k + n) % 2 ^ 64
  finWrite : s'.finWrite = true → s.finWrite = true ∨ fin = true ∧ n = data.length

section Sends

variable {c c' c'' : Conn} {s s' s'' : Stream} {data : Bytes} {fin : Bool} {n n' : ℕ}

theorem Sends.of_silent {l : List LogEntry} (hid : s'.streamId = s.streamId)
    (hstate : s'.streamStateSend = s.streamStateSend) (hconn : c'.connState = c.connState)
    (hheader : c'.header = c.header) (hsize : c'.pktOutSize = c.pktOutSize)
    (hlog : c'.log = c.log ++ l) (hl : ∀ offset fin data, .wroteStream s.streamId offset fin data ∉ l)
    (hoffset : s'.streamSendOffset = s.streamSendOffset) (hfin : s'.finWrite = s.finWrite) :
    Sends c s data fin 0 c' s' where
  streamId := hid
  stateSend := hstate
  connState := hconn
  header := hheader
  pktOutSize := hsize
  written := Nat.zero_le _
  log := ⟨l, hlog, emittedOf_silent hl, fun k _ => .of_silent hl k⟩
  sendOffset := fun _ hk => hoffset.trans hk
  finWrite := fun h => .inl (hfin.symm.trans h)

theorem Sends.refl (c : Conn) (s : Stream) (data : Bytes) (fin : Bool) : Sends c s data fin 0 c s :=
  .of_silent rfl rfl rfl rfl rfl (List.append_nil _).symm
    (fun _ _ _ => List.not_mem_nil) rfl rfl

theorem Sends.touch (h : Sends c s data fin n c' s') (hid : s''.streamId = s'.streamId)
    (hstate : s''.streamStateSend = s'.streamStateSend)
    (hoffset : s''.streamSendOffset = s'.streamSendOffset) (hfin : s''.finWrite = s'.finWrite) :
    Sends c s data fin n c' s'' where
  streamId := hid.trans h.streamId
  stateSend := hstate.trans h.stateSend
  connState := h.connState
  header := h.header
  pktOutSize := h.pktOutSize
  written := h.written
  log := h.log
  sendOffset := fun k hk => hoffset.trans (h.sendOffset k hk)
  finWrite := fun hf => h.finWrite (hfin.symm.trans hf)

/-- Two writes one after the other. The first one, of `data`, is not asked for FIN unless nothing
follows. -/
theorem Sends.append {data' : Bytes} {fin' : Bool} (h : Sends c s data fin' data.length c' s')
    (hfin : fin' = true → fin = true ∧ data' = [])
    (h' : Sends c' s' data' fin n' c'' s'') :
    Sends c s (data ++ data') fin (data.length + n') c'' s'' where
  streamId := h'.streamId.trans h.streamId
  stateSend := h'.stateSend.trans h.stateSend
  connState := h'.connState.trans h.connState
  header := h'.header.trans h.header
  pktOutSize := h'.pktOutSize.trans h.pktOutSize
  written := by
    rw [List.length_append]
    have := h'.written
    omega
  log := by
    obtain ⟨l, hl, hemit, hplaced⟩ := h.log
    obtain ⟨l', hl', hemit', hplaced'⟩ := h'.log
    rw [h.streamId] at hemit' hplaced'
    refine ⟨l ++ l', by rw [hl', hl, List.append_assoc], ?_, fun k hk => ?_⟩
    · rw [emittedOf_append, hemit, hemit', List.take_length, List.take_length_add_append]
    · rw [List.take_length] at hemit
      refine EmitLog.append.2 ⟨(hplaced k hk).mono fun e he => ?_, ?_⟩
      · obtain ⟨hf, rfl⟩ := hfin he.1
        refine ⟨hf, ?_⟩
        rw [List.append_nil]
        exact he.2
      · rw [hemit]
        refine (hplaced' _ (h.sendOffset k hk)).mono fun e he => ⟨he.1, ?_⟩
        rw [he.2, List.length_append]
        omega
  sendOffset := fun k hk => by
    rw [h'.sendOffset _ (h.sendOffset k hk), Nat.add_assoc]
  finWrite := fun hf => by
    rcases h'.finWrite hf with hf' | ⟨hf', hn⟩
    · rcases h.finWrite hf' with hold | ⟨hnew, -⟩
      · exact .inl hold
      · obtain ⟨hasked, rfl⟩ := hfin hnew
        have hle := h'.written
        simp only [List.length_nil, Nat.le_zero] at hle
        exact .inr ⟨hasked, by rw [hle, List.append_nil, Nat.add_zero]⟩
    · exact .inr ⟨hf', by rw [hn, List.length_append]⟩

theorem Sends.goOn (h : Sends c s data fin n c' s') (h' : Sends c' s' (data.drop n) fin n' c'' s'') :
    Sends c s data fin (n + n') c'' s'' where
  streamId := h'.streamId.trans h.streamId
  stateSend := h'.stateSend.trans h.stateSend
  connState := h'.connState.trans h.connState
  header := h'.header.trans h.header
  pktOutSize := h'.pktOutSize.trans h.pktOutSize
  written := by
    have hle := h.written
    have hle' := h'.written
    rw [List.length_drop] at hle'
    omega
  log := by
    obtain ⟨l, hl, hemit, hplaced⟩ := h.log
    obtain ⟨l', hl', hemit', hplaced'⟩ := h'.log
    rw [h.streamId] at hemit' hplaced'
    have hle := h.written
    refine ⟨l ++ l', by rw [hl', hl, List.append_assoc], ?_, fun k hk => ?_⟩
    · rw [emittedOf_append, hemit, hemit', ← List.take_add]
    · refine EmitLog.append.2 ⟨hplaced k hk, ?_⟩
      rw [hemit, List.length_take, min_eq_left hle]
      refine (hplaced' _ (h.sendOffset k hk)).mono fun e he => ⟨he.1, ?_⟩
      rw [he.2, List.length_drop]
      omega
  sendOffset := fun k hk => by
    rw [h'.sendOffset _ (h.sendOffset k hk), Nat.add_assoc]
  finWrite := fun hf => by
    have hle := h.written
    have hle' := h'.written
    rw [List.length_drop] at hle'
    rcases h'.finWrite hf with hf' | ⟨hf', hn⟩
    · rcases h.finWrite hf' with hold | ⟨hnew, hn⟩
      · exact .inl hold
      · exact .inr ⟨hnew, by omega⟩
    · rw [List.length_drop] at hn
      exact .inr ⟨hf', by omega⟩

theorem Sends.extend {fin' : Bool} (h : Sends c s data fin' n c' s') (hn : n < data.length)
    (data' : Bytes) : Sends c s (data ++ data') fin n c' s' where
  streamId := h.streamId
  stateSend := h.stateSend
  connState := h.connState
  header := h.header
  pktOutSize := h.pktOutSize
  written := by
    rw [List.length_append]
    omega
  log := by
    obtain ⟨l, hl, hemit, hplaced⟩ := h.log
    refine ⟨l, hl, by rw [hemit, List.take_append_of_le_length hn.le], fun k hk => ?_⟩
    refine (hplaced k hk).mono_le fun e he hend => ?_
    rw [hemit, List.length_take, min_eq_left hn.le] at he
    have := hend.2
    omega
  sendOffset := h.sendOffset
  finWrite := fun hf => .inl ((h.finWrite hf).resolve_right fun hend => by omega)

theorem Conn.HasRoom.sends (hroom : c.HasRoom) (h : Sends c s data fin n c' s') : c'.HasRoom := by
  unfold Conn.HasRoom
  rw [h.header, h.pktOutSize]
  exact hroom

end Sends

/-! ## The scalar send -/

section Scalar

variable {c : Conn} {s : Stream}

theorem Conn.write_silent (c : Conn) (f : ControlFrame) :
    ∃ l, (c.write f).1.log = c.log ++ l ∧ ∀ id offset fin data, .wroteStream id offset fin data ∉ l := by
  rcases c.write_log f with h | h
  · exact ⟨[], by rw [h, List.append_nil], fun _ _ _ _ => List.not_mem_nil⟩
  · exact ⟨[.wrote f], h, by simp⟩

theorem Sends.write (c : Conn) (s : Stream) (f : ControlFrame) (data : Bytes) (fin : Bool) :
    Sends c s data fin 0 (c.write f).1 s := by
  obtain ⟨l, hl, hsilent⟩ := c.write_silent f
  have hframe := c.write_frame f
  generalize (c.write f).1 = c' at hl hframe
  refine .of_silent rfl rfl ?_ ?_ ?_ hl (hsilent s.streamId) rfl rfl <;> rw [hframe]

theorem streamDoSendFlowCtl_sends (c : Conn) (s : Stream) (data : Bytes) (fin : Bool) :
    Sends c s data fin 0 (streamDoSendFlowCtl c s).1 (streamDoSendFlowCtl c s).2.1 := by
  have hconn : Sends c s data fin 0 (Conn.write { c with dataBlocked := true }
      (.dataBlocked c.connFlowCtl.maxDataCanSend)).1 s := by
    have h := Sends.write { c with dataBlocked := true } s (.dataBlocked c.connFlowCtl.maxDataCanSend)
      data fin
    exact ⟨h.streamId, h.stateSend, h.connState, h.header, h.pktOutSize, h.written, h.log, h.sendOffset,
      h.finWrite⟩
  have hstream : ∀ c' : Conn, Sends c' s data fin 0
      (c'.write (.streamDataBlocked s.streamId s.streamFlowCtl.maxStreamDataCanSend)).1
      { s with dataBlocked := true } := fun c' =>
    (Sends.write c' s _ data fin).touch rfl rfl rfl rfl
  unfold streamDoSendFlowCtl
  simp only
  split_ifs
  · exact hconn.goOn (hstream _)
  · exact hconn
  · exact hstream c
  · exact .refl c s data fin

theorem streamDoSendFlowCtl_ctx (c : Conn) (s : Stream) :
    (streamDoSendFlowCtl c s).2.1.atomicCtx = s.atomicCtx := by
  unfold streamDoSendFlowCtl
  simp only
  split_ifs <;> rfl

theorem raiseFirstWindow_sends (c : Conn) (s : Stream) (maxSrtt : ℕ) (data : Bytes) (fin : Bool) :
    Sends c s data fin 0 (raiseFirstWindow c s maxSrtt).1 (raiseFirstWindow c s maxSrtt).2 := by
  unfold raiseFirstWindow
  simp only
  split_ifs
  · exact (Sends.write c s _ data fin).touch rfl rfl rfl rfl
  · exact (Sends.refl c s data fin).touch rfl rfl rfl rfl
  · exact .refl c s data fin

theorem countSent_sends (c : Conn) (s : Stream) (sndq : SendQueue) (data : Bytes) (fin : Bool) {n : ℕ}
    (hn : n ≤ data.length) :
    Sends c s data fin n
      (countSent (Conn.addLog { c with sndq := sndq }
        (.wroteStream s.streamId s.streamSendOffset (fin && n = data.length) (data.take n))) s n
        (fin && n = data.length)).1
      (countSent (Conn.addLog { c with sndq := sndq }
        (.wroteStream s.streamId s.streamSendOffset (fin && n = data.length) (data.take n))) s n
        (fin && n = data.length)).2 where
  streamId := rfl
  stateSend := rfl
  connState := rfl
  header := rfl
  pktOutSize := rfl
  written := hn
  log := by
    refine ⟨[.wroteStream s.streamId s.streamSendOffset (fin && n = data.length) (data.take n)], rfl, ?_,
      fun k hk => ⟨fun _ => ⟨hk, fun hfin => ?_⟩, trivial⟩⟩
    · simp [LogEntry.bytesOf]
    · obtain ⟨hf, hwhole⟩ := Bool.and_eq_true_iff.1 hfin
      refine ⟨hf, ?_⟩
      rw [of_decide_eq_true hwhole, List.take_length]
  sendOffset := fun k hk => by
    show u64Add s.streamSendOffset n = _
    unfold u64Add
    rw [hk, Nat.mod_add_mod]
  finWrite := fun hf => by
    rcases Bool.or_eq_true_iff.1 hf with hold | hnew
    · exact .inl hold
    · obtain ⟨hfin, hwhole⟩ := Bool.and_eq_true_iff.1 hnew
      exact .inr ⟨hfin, of_decide_eq_true hwhole⟩

theorem writeStreamFrameToPacket_sends (hroom : c.HasRoom) (maxSrtt : ℕ) (fin : Bool) (payload : Bytes) :
    ∃ c' s' n, writeStreamFrameToPacket c s maxSrtt fin payload = (c', s', .ok n) ∧
      Sends c s payload fin n c' s' ∧ s'.atomicCtx = s.atomicCtx := by
  have hraise := raiseFirstWindow_sends c s maxSrtt payload fin
  have hctx : (raiseFirstWindow c s maxSrtt).2.atomicCtx = s.atomicCtx := by
    rw [(raiseFirstWindow_frame c s maxSrtt).2]
  unfold writeStreamFrameToPacket
  rcases hr : raiseFirstWindow c s maxSrtt with ⟨c₁, s₁⟩
  rw [hr] at hraise hctx
  have hroom₁ : (c₁.params .shortHeader).header.length + streamFrameRoom ≤
      (c₁.params .shortHeader).pktOutSize.1 := hroom.sends hraise
  obtain ⟨sndq, n, hwrite, hn⟩ := writeStreamFrame_fits hroom₁ c₁.sndq (s₁.streamPriority = .high)
    s₁.streamId s₁.streamSendOffset fin payload
  dsimp only
  rw [hwrite]
  refine ⟨_, _, n, rfl, ?_, hctx⟩
  have hsent := hraise.goOn (countSent_sends c₁ s₁ sndq payload fin hn)
  rw [Nat.zero_add] at hsent
  exact hsent

/-- The loop never fails, and it is done only when everything is written. -/
theorem sendLoop_sends (maxSrtt : ℕ) (fin : Bool) (data : Bytes) (room : ℕ) (hroom : c.HasRoom)
    (offset : ℕ) :
    ∃ c' s' n loopEnd, sendLoop maxSrtt fin data room c s offset = (c', s', offset + n, loopEnd) ∧
      (∀ e, loopEnd ≠ .failed e) ∧ (loopEnd = .done → data.length ≤ offset + n) ∧
      Sends c s (data.drop offset) fin n c' s' ∧ s'.atomicCtx = s.atomicCtx := by
  induction room generalizing c s offset with
  | zero =>
      rw [sendLoop]
      by_cases hdone : data.length ≤ offset ∧ ¬ (fin = true ∧ data = [])
      · rw [if_pos hdone]
        exact ⟨c, s, 0, .done, rfl, by simp, fun _ => hdone.1, .refl c s _ fin, rfl⟩
      · rw [if_neg hdone]
        have hflow := streamDoSendFlowCtl_sends c s (data.drop offset) fin
        have hctx := streamDoSendFlowCtl_ctx c s
        rcases hf : streamDoSendFlowCtl c s with ⟨c₁, s₁, blocked⟩
        rw [hf] at hflow hctx
        cases blocked <;> exact ⟨c₁, s₁, 0, .again, rfl, by simp, by simp, hflow, hctx⟩
  | succ room ih =>
      rw [sendLoop]
      by_cases hdone : data.length ≤ offset ∧ ¬ (fin = true ∧ data = [])
      · rw [if_pos hdone]
        exact ⟨c, s, 0, .done, rfl, by simp, fun _ => hdone.1, .refl c s _ fin, rfl⟩
      rw [if_neg hdone]
      have hflow := streamDoSendFlowCtl_sends c s (data.drop offset) fin
      have hctx := streamDoSendFlowCtl_ctx c s
      rcases hf : streamDoSendFlowCtl c s with ⟨c₁, s₁, blocked⟩
      rw [hf] at hflow hctx
      cases blocked with
      | true => exact ⟨c₁, s₁, 0, .again, rfl, by simp, by simp, hflow, hctx⟩
      | false =>
          obtain ⟨c₂, s₂, n, hw, hwrite, hctx₂⟩ := writeStreamFrameToPacket_sends
            (s := s₁) (hroom.sends hflow) maxSrtt fin (data.drop offset)
          dsimp only
          rw [hw]
          have hsent := hflow.goOn hwrite
          rw [Nat.zero_add] at hsent
          dsimp only
          split_ifs with honly
          · obtain ⟨hfin, rfl⟩ := honly
            have hn : n = 0 := by
              have hle := hsent.written
              simpa using hle
            subst hn
            exact ⟨c₂, s₂, 0, .done, rfl, by simp, fun _ => Nat.zero_le _, hsent, hctx₂.trans hctx⟩
          · obtain ⟨c₃, s₃, n₃, loopEnd, hloop, hfailed, hall, hrest, hctx₃⟩ :=
              ih (s := s₂) ((hroom.sends hflow).sends hwrite) (offset + n)
            refine ⟨c₃, s₃, n + n₃, loopEnd, by rw [hloop, Nat.add_assoc], hfailed, fun hend => ?_, ?_,
              hctx₃.trans (hctx₂.trans hctx)⟩
            · have hlen := hall hend
              omega
            · rw [← List.drop_drop] at hrest
              exact hsent.goOn hrest

/-- What the scalar send answers: it wrote `n` bytes, or it took nothing. -/
structure ScalarEnd (c : Conn) (s : Stream) (data : Bytes) (fin : Bool) (ret : Except Errno ℕ)
    (n : ℕ) (c' : Conn) (s' : Stream) : Prop where
  sends : Sends c s data fin n c' s'
  atomicCtx : s'.atomicCtx = s.atomicCtx
  ok : ∀ m, ret = .ok m → m = n
  error : ∀ e, ret = .error e → n = 0 ∧ (e = .again ∨ c.isClosing = true ∧ e = .closing ∨
    SendStreamState.resetSent.toNat ≤ s.streamStateSend.toNat ∧ e = .streamReset)
  estab : ∀ m, ret = .ok m → s.finWrite = false → c.isEstablished = true

/-- **The scalar send writes the prefix whose length it returns.** -/
theorem streamSendScalar_sends (hroom : c.isEstablished = true → c.HasRoom) (env : SendEnv)
    (data : Bytes) (fin : Bool) :
    ∃ c' s' ret n, streamSendScalar env c s data fin = (c', s', ret) ∧
      ScalarEnd c s data fin ret n c' s' := by
  have hflags : ∀ b, Sends c s data fin 0 c { s with readyToWrite := b } := fun b =>
    (Sends.refl c s data fin).touch rfl rfl rfl rfl
  unfold streamSendScalar
  by_cases hclosing : c.isClosing = true
  · rw [if_pos hclosing]
    exact ⟨_, _, _, 0, rfl, hflags false, rfl, nofun, fun e he =>
      ⟨rfl, .inr (.inl ⟨hclosing, (Except.error.inj he).symm⟩)⟩, nofun⟩
  rw [if_neg hclosing]
  by_cases hreset : SendStreamState.resetSent.toNat ≤ s.streamStateSend.toNat
  · rw [if_pos hreset]
    exact ⟨_, _, _, 0, rfl, hflags false, rfl, nofun, fun e he =>
      ⟨rfl, .inr (.inr ⟨hreset, (Except.error.inj he).symm⟩)⟩, nofun⟩
  rw [if_neg hreset]
  by_cases hfin : s.finWrite = true
  · rw [if_pos hfin]
    refine ⟨_, _, _, 0, rfl, hflags false, rfl, fun m hm => (Except.ok.inj hm).symm, nofun,
      fun _ _ hnot => ?_⟩
    rw [hfin] at hnot
    cases hnot
  rw [if_neg hfin]
  dsimp only
  by_cases hestab : c.isEstablished = true
  · rw [if_neg (not_not.2 hestab)]
    obtain ⟨c₁, s₁, n, loopEnd, hloop, hfailed, hall, hsends, hctx⟩ :=
      sendLoop_sends (s := { s with readyToWrite := true }) env.maxSrtt fin data env.room
        (hroom hestab) 0
    rw [hloop]
    rw [Nat.zero_add]
    have hsent : Sends c s data fin n c₁ s₁ := by
      have h := (hflags true).goOn hsends
      rw [Nat.zero_add] at h
      exact h
    cases loopEnd with
    | done =>
        exact ⟨_, _, _, n, rfl, hsent.touch rfl rfl rfl rfl, hctx, fun m hm => (Except.ok.inj hm).symm,
          nofun, fun _ _ _ => hestab⟩
    | failed e => exact absurd rfl (hfailed e)
    | again =>
        dsimp only
        by_cases hzero : n = 0
        · rw [if_pos hzero]
          exact ⟨_, _, _, n, rfl, hsent, hctx, nofun, fun e he =>
            ⟨hzero, .inl (Except.error.inj he).symm⟩, nofun⟩
        · rw [if_neg hzero]
          exact ⟨_, _, _, n, rfl, hsent, hctx, fun m hm => (Except.ok.inj hm).symm, nofun,
            fun _ _ _ => hestab⟩
  · rw [if_pos hestab]
    exact ⟨_, _, _, 0, rfl, hflags true, rfl, nofun, fun e he => ⟨rfl, .inl (Except.error.inj he).symm⟩,
      nofun⟩

end Scalar

/-! ## The vectored send -/

/-- How the loop over the buffers ends: all is written, the rest is kept, nothing is taken, or the rest
finds no memory. -/
inductive VecEnd (s : Stream) (data : Bytes) (fin flush mallocOk : Bool) (accepted : ℕ) :
    Except Errno ℕ → ℕ → Stream → Prop where
  | whole (s' : Stream) (hctx : s'.atomicCtx = s.atomicCtx) :
      VecEnd s data fin flush mallocOk accepted (.ok (accepted + data.length)) data.length s'
  | saved (n : ℕ) (s' : Stream) (hn : n < data.length)
      (hctx : s'.atomicCtx = some { buf := data.drop n, fin := fin, flush := flush }) :
      VecEnd s data fin flush mallocOk accepted (.ok (accepted + data.length)) n s'
  | refused (s' : Stream) (haccepted : accepted = 0) (hctx : s'.atomicCtx = s.atomicCtx) :
      VecEnd s data fin flush mallocOk accepted (.error .again) 0 s'
  | noMemory (n : ℕ) (s' : Stream) (hmalloc : mallocOk = false)
      (hctx : s'.atomicCtx = s.atomicCtx.map fun _ => {}) :
      VecEnd s data fin flush mallocOk accepted (.ok (accepted + n)) n s'

theorem VecEnd.behind {s s₁ s' : Stream} {buf data : Bytes} {fin flush mallocOk : Bool}
    {accepted n : ℕ} {ret : Except Errno ℕ} (hctx : s₁.atomicCtx = s.atomicCtx) (hpos : buf ≠ [])
    (h : VecEnd s₁ data fin flush mallocOk (accepted + buf.length) ret n s') :
    VecEnd s (buf ++ data) fin flush mallocOk accepted ret (buf.length + n) s' := by
  have hlen : (buf ++ data).length = buf.length + data.length := List.length_append
  cases h with
  | whole _ hctx' =>
      rw [Nat.add_assoc, ← hlen]
      exact .whole s' (hctx'.trans hctx)
  | saved _ _ hn hctx' =>
      rw [Nat.add_assoc, ← hlen]
      refine .saved _ s' (by omega) ?_
      rw [hctx', List.drop_length_add_append]
  | refused _ hzero _ =>
      have hlength := List.length_pos_iff.2 hpos
      omega
  | noMemory _ _ hmalloc hctx' =>
      rw [Nat.add_assoc]
      refine .noMemory _ s' hmalloc ?_
      rw [hctx', hctx]

/-- The stream may be written to. -/
structure Writable (c : Conn) (s : Stream) : Prop where
  closing : c.isClosing = false
  state : s.streamStateSend.toNat < SendStreamState.resetSent.toNat
  fin : s.finWrite = false

section Vectored

variable {c : Conn} {s : Stream}

theorem atomicSavePending_cases (s : Stream) (remaining : Bytes) (fin flush mallocOk : Bool) :
    mallocOk = false ∧
        atomicSavePending s remaining fin flush mallocOk = (atomicClearPending s, .error .malloc) ∨
      atomicSavePending s remaining fin flush mallocOk = ({ s with
        atomicCtx := some { buf := remaining, fin := fin, flush := flush }
        readyToWrite := true }, .ok ()) := by
  unfold atomicSavePending
  split_ifs with hmalloc
  · exact .inl ⟨hmalloc.2, rfl⟩
  · exact .inr rfl

theorem sendvLoop_rest (env : SendvEnv) (fin flush : Bool) (rest : Bytes) (accepted : ℕ) {fin' : Bool}
    {buf : Bytes} {n : ℕ} {c₁ : Conn} {s₁ : Stream} (hsends : Sends c s buf fin' n c₁ s₁)
    (hctx : s₁.atomicCtx = s.atomicCtx) (hn : n < buf.length) :
    ∃ c' s' ret, (match atomicSavePending s₁ (buf.drop n ++ rest) fin flush env.mallocOk with
        | (s', .error _) => (c₁, s', (.ok (accepted + n) : Except Errno ℕ))
        | (s', .ok _) => (c₁, s', .ok (accepted + buf.length + rest.length))) = (c', s', ret) ∧
      Sends c s (buf ++ rest) fin n c' s' ∧
      VecEnd s (buf ++ rest) fin flush env.mallocOk accepted ret n s' := by
  have hextend : Sends c s (buf ++ rest) fin n c₁ s₁ := hsends.extend hn rest
  have hlen : (buf ++ rest).length = buf.length + rest.length := List.length_append
  rcases atomicSavePending_cases s₁ (buf.drop n ++ rest) fin flush env.mallocOk with ⟨hmem, h⟩ | h
  · rw [h]
    refine ⟨_, _, _, rfl, hextend.touch rfl rfl rfl rfl, .noMemory n _ hmem ?_⟩
    show s₁.atomicCtx.map _ = _
    rw [hctx]
  · rw [h]
    refine ⟨_, _, _, rfl, hextend.touch rfl rfl rfl rfl, ?_⟩
    rw [Nat.add_assoc, ← hlen]
    refine .saved n _ (by omega) ?_
    rw [List.drop_append_of_le_length hn.le]

theorem sendvLoop_sends (env : SendvEnv) (fin flush : Bool) (bufs : List Bytes) (i accepted : ℕ)
    (hroom : c.isEstablished = true → c.HasRoom) (hwritable : Writable c s)
    (hestab : accepted ≠ 0 → c.isEstablished = true) :
    ∃ c' s' ret n, sendvLoop env fin flush bufs i accepted c s = (c', s', ret) ∧
      Sends c s bufs.flatten fin n c' s' ∧
      VecEnd s bufs.flatten fin flush env.mallocOk accepted ret n s' ∧
      (n < bufs.flatten.length → ∀ m, ret = .ok m → c.isEstablished = true) := by
  induction bufs generalizing c s i accepted with
  | nil => exact ⟨c, s, .ok accepted, 0, rfl, .refl c s [] fin, .whole s rfl, by simp⟩
  | cons buf bufs ih =>
      rw [sendvLoop]
      by_cases hnil : buf = []
      · rw [if_pos hnil, hnil, List.flatten_cons, List.nil_append]
        exact ih (i + 1) accepted hroom hwritable hestab
      rw [if_neg hnil, List.flatten_cons]
      have hpos : 0 < buf.length := List.length_pos_iff.2 hnil
      obtain ⟨c₁, s₁, ret, n, hsend, hsends, hctx, hok, herror, hsent⟩ := streamSendScalar_sends (s := s)
        hroom (env.send i) buf (fin && bufs.flatten = [])
      dsimp only
      rw [hsend]
      cases ret with
      | error e =>
          obtain ⟨rfl, hcases⟩ := herror e rfl
          obtain rfl : e = .again := by
            rcases hcases with h | ⟨h, -⟩ | ⟨h, -⟩
            · exact h
            · rw [hwritable.closing] at h
              cases h
            · exact absurd h (not_le.2 hwritable.state)
          dsimp only
          rw [if_neg (not_not.2 rfl)]
          by_cases hzero : accepted = 0
          · rw [if_pos hzero]
            exact ⟨_, _, _, 0, rfl, hsends.extend hpos _, .refused s₁ hzero hctx, fun _ _ => by simp⟩
          · rw [if_neg hzero]
            obtain ⟨c', s', ret, hrest, hsends', hend⟩ := sendvLoop_rest env fin flush bufs.flatten accepted
              hsends hctx hpos
            exact ⟨c', s', ret, 0, hrest, hsends', hend, fun _ _ _ => hestab hzero⟩
      | ok written =>
          obtain rfl := hok written rfl
          have hestab' := hsent written rfl hwritable.fin
          dsimp only
          by_cases hwhole : written = buf.length
          · rw [if_pos hwhole]
            subst hwhole
            by_cases hlast : bufs.flatten = []
            · rw [if_pos hlast, hlast, List.append_nil]
              rw [hlast] at hsends
              simp only [decide_true, Bool.and_true] at hsends
              exact ⟨_, _, _, _, rfl, hsends, .whole s₁ hctx, fun _ _ _ => hestab'⟩
            · rw [if_neg hlast]
              have hnofin : (fin && decide (bufs.flatten = [])) = false := by simp [hlast]
              rw [hnofin] at hsends
              have hwritable₁ : Writable c₁ s₁ := by
                refine ⟨?_, by rw [hsends.stateSend]; exact hwritable.state, ?_⟩
                · unfold Conn.isClosing
                  rw [hsends.connState]
                  exact hwritable.closing
                · by_contra hfin
                  rcases hsends.finWrite (by simpa using hfin) with h | ⟨h, -⟩
                  · rw [hwritable.fin] at h
                    cases h
                  · cases h
              have hestab₁ : c₁.isEstablished = true := by
                unfold Conn.isEstablished at hestab' ⊢
                rw [hsends.connState]
                exact hestab'
              obtain ⟨c', s', ret, n, hloop, hrest, hend, -⟩ := ih (i + 1) (accepted + buf.length)
                (fun _ => (hroom hestab').sends hsends) hwritable₁ fun _ => hestab₁
              exact ⟨c', s', ret, buf.length + n, hloop, hsends.append (by simp) hrest,
                hend.behind hctx hnil, fun _ _ _ => hestab'⟩
          · rw [if_neg hwhole]
            have hlt : written < buf.length := lt_of_le_of_ne hsends.written hwhole
            obtain ⟨c', s', ret, hrest, hsends', hend⟩ := sendvLoop_rest env fin flush bufs.flatten accepted
              hsends hctx hlt
            exact ⟨c', s', ret, written, hrest, hsends', hend, fun _ _ _ => hestab'⟩

/-- What a vectored send has taken of its data: what it wrote and what it keeps, and with memory all or
nothing. -/
structure VecTaken (data : Bytes) (fin mallocOk : Bool) (ret : Except Errno ℕ) (n : ℕ) (s' : Stream) :
    Prop where
  taken : ∀ m, ret = .ok m → m ≤ data.length ∧ data.take m = data.take n ++ s'.pending
  refused : ∀ e, ret = .error e → n = 0 ∧ s'.pending = []
  whole : mallocOk = true → ∀ m, ret = .ok m → data.take m = data ∨ data.take m = []
  kept : s'.pending ≠ [] → ret = .ok data.length ∧ (s'.pendingFin = true → fin = true)

theorem pending_of_hasAtomicPending (h : hasAtomicPending s = false) : s.pending = [] := by
  unfold hasAtomicPending at h
  unfold Stream.pending
  cases hctx : s.atomicCtx with
  | none => rfl
  | some ctx =>
      rw [hctx] at h
      exact List.drop_eq_nil_of_le (not_lt.1 (of_decide_eq_false h))

theorem Stream.pending_congr {s' : Stream} (h : s'.atomicCtx = s.atomicCtx) : s'.pending = s.pending := by
  unfold Stream.pending
  rw [h]

theorem VecEnd.taken {data : Bytes} {fin flush mallocOk : Bool} {ret : Except Errno ℕ} {n : ℕ}
    {s' : Stream} (h : VecEnd s data fin flush mallocOk 0 ret n s') (hn : n ≤ data.length)
    (hpending : s.pending = []) :
    VecTaken data fin mallocOk ret n s' := by
  cases h with
  | whole _ hctx =>
      have hnil : s'.pending = [] := (Stream.pending_congr hctx).trans hpending
      refine ⟨fun m hm => ?_, nofun, fun _ m hm => .inl ?_, fun hne => absurd hnil hne⟩ <;>
        obtain rfl := Except.ok.inj hm
      · rw [Nat.zero_add, hnil, List.append_nil]
        exact ⟨le_rfl, rfl⟩
      · rw [Nat.zero_add, List.take_length]
  | saved _ _ _ hctx =>
      have hrest : s'.pending = data.drop n := by
        unfold Stream.pending
        rw [hctx]
        rfl
      have hfin : s'.pendingFin = fin := by
        unfold Stream.pendingFin
        rw [hctx]
        rfl
      refine ⟨fun m hm => ?_, nofun, fun _ m hm => .inl ?_, fun _ => ⟨by rw [Nat.zero_add], fun h => by
        rw [← hfin]; exact h⟩⟩ <;> obtain rfl := Except.ok.inj hm
      · rw [Nat.zero_add, hrest, List.take_append_drop, List.take_length]
        exact ⟨le_rfl, rfl⟩
      · rw [Nat.zero_add, List.take_length]
  | refused _ _ hctx =>
      have hnil : s'.pending = [] := (Stream.pending_congr hctx).trans hpending
      exact ⟨nofun, fun _ _ => ⟨rfl, hnil⟩, nofun, fun hne => absurd hnil hne⟩
  | noMemory _ _ hmalloc hctx =>
      have hnil : s'.pending = [] := by
        unfold Stream.pending
        rw [hctx]
        cases s.atomicCtx <;> rfl
      refine ⟨fun m hm => ?_, nofun, fun htrue => ?_, fun hne => absurd hnil hne⟩
      · obtain rfl := Except.ok.inj hm
        rw [Nat.zero_add, hnil, List.append_nil]
        exact ⟨hn, rfl⟩
      · rw [hmalloc] at htrue
        cases htrue

/-- **The vectored send takes its data and keeps what it could not write, or takes nothing.** -/
theorem streamSendvAtomic_sends (hroom : c.isEstablished = true → c.HasRoom)
    (hpending : hasAtomicPending s = false) (env : SendvEnv) (iov : List Bytes) (fin flush : Bool) :
    ∃ c' s' ret n, streamSendvAtomic env c s iov fin flush = (c', s', ret) ∧
      Sends c s iov.flatten fin n c' s' ∧ VecTaken iov.flatten fin env.mallocOk ret n s' ∧
      (s'.pending ≠ [] → c.isEstablished = true) := by
  have hnil := pending_of_hasAtomicPending hpending
  have hnothing : ∀ {s' : Stream}, s'.pending = [] → ∀ ret : Except Errno ℕ, (∀ m, ret = .ok m → m = 0) →
      VecTaken iov.flatten fin env.mallocOk ret 0 s' := by
    intro s' hs' ret hret
    refine ⟨fun m hm => ?_, fun _ _ => ⟨rfl, hs'⟩, fun _ m hm => .inr ?_, fun hne => absurd hs' hne⟩
    · rw [hret m hm, hs', List.append_nil]
      exact ⟨Nat.zero_le _, rfl⟩
    · rw [hret m hm, List.take_zero]
  unfold streamSendvAtomic
  rw [if_neg (by rw [hpending]; decide)]
  by_cases hclosing : c.isClosing = true
  · rw [if_pos hclosing]
    refine ⟨_, _, _, 0, rfl, (Sends.refl c s _ fin).touch rfl rfl rfl rfl, hnothing ?_ _ nofun,
      fun hne => absurd hnil hne⟩
    exact hnil
  rw [if_neg hclosing]
  by_cases hreset : SendStreamState.resetSent.toNat ≤ s.streamStateSend.toNat
  · rw [if_pos hreset]
    refine ⟨_, _, _, 0, rfl, (Sends.refl c s _ fin).touch rfl rfl rfl rfl, hnothing ?_ _ nofun,
      fun hne => absurd hnil hne⟩
    exact hnil
  rw [if_neg hreset]
  by_cases hfin : s.finWrite = true
  · rw [if_pos hfin]
    exact ⟨_, _, _, 0, rfl, .refl c s _ fin, hnothing hnil _ fun m hm => (Except.ok.inj hm).symm,
      fun hne => absurd hnil hne⟩
  rw [if_neg hfin]
  by_cases hempty : iov.flatten = []
  · rw [if_pos hempty]
    by_cases hasked : fin = true
    · rw [if_pos hasked]
      obtain ⟨c', s', ret, n, hsend, hsends, hctx, hok, -, -⟩ := streamSendScalar_sends (s := s) hroom
        (env.send 0) [] true
      have hnil' : s'.pending = [] := (Stream.pending_congr hctx).trans hnil
      have hzero : n = 0 := Nat.le_zero.1 hsends.written
      subst hzero
      rw [hempty, hasked] at hnothing ⊢
      exact ⟨c', s', ret, 0, hsend, hsends, hnothing hnil' ret hok, fun hne => absurd hnil' hne⟩
    · rw [if_neg hasked]
      exact ⟨_, _, _, 0, rfl, .refl c s _ fin, hnothing hnil _ fun m hm => (Except.ok.inj hm).symm,
        fun hne => absurd hnil hne⟩
  rw [if_neg hempty]
  set s₀ : Stream := { s with atomicCtx := some (s.atomicCtx.getD {}) } with hs₀
  have hnil₀ : s₀.pending = [] := by
    rw [hs₀]
    unfold Stream.pending at hnil ⊢
    cases hctx : s.atomicCtx with
    | none => rfl
    | some ctx =>
        rw [hctx] at hnil
        exact hnil
  have hwritable : Writable c s₀ :=
    ⟨Bool.eq_false_of_not_eq_true hclosing, not_le.1 hreset, Bool.eq_false_of_not_eq_true hfin⟩
  obtain ⟨c', s', ret, n, hloop, hsends, hend, hestab⟩ := sendvLoop_sends env fin flush iov 0 0 hroom
    hwritable fun hne => absurd rfl hne
  have hsent : Sends c s iov.flatten fin n c' s' := by
    have hfirst : Sends c s iov.flatten fin 0 c s₀ := (Sends.refl c s _ fin).touch rfl rfl rfl rfl
    have h := hfirst.goOn hsends
    rw [Nat.zero_add] at h
    exact h
  have htaken := hend.taken hsent.written hnil₀
  refine ⟨c', s', ret, n, hloop, hsent, htaken, fun hne => ?_⟩
  obtain ⟨hret, -⟩ := htaken.kept hne
  refine hestab (lt_of_le_of_ne hsends.written fun hall => hne ?_) _ hret
  have hsplit := (htaken.taken _ hret).2
  rw [hall, List.take_length] at hsplit
  exact List.self_eq_append_right.1 hsplit

/-- **The drain writes from the front of the pending bytes**, or drops them when the stream cannot be
written to any more. -/
theorem streamAtomicDrain_sends (hroom : c.isEstablished = true → c.HasRoom) (env : SendEnv) :
    ∃ c' s' ret n, streamAtomicDrain env c s = (c', s', ret) ∧
      Sends c s s.pending s.pendingFin n c' s' ∧
      (s'.pending = s.pending.drop n ∧ (s'.pending ≠ [] → s'.pendingFin = s.pendingFin) ∨
        c.isClosing = true ∨ SendStreamState.resetSent.toNat ≤ s.streamStateSend.toNat) := by
  unfold streamAtomicDrain
  split
  · exact ⟨c, s, _, 0, rfl, .refl c s _ _, .inl ⟨rfl, fun _ => rfl⟩⟩
  rename_i ctx hctx
  have hpending : s.pending = ctx.buf.drop ctx.pendingOffset := by
    unfold Stream.pending
    rw [hctx]
  have hfin : s.pendingFin = ctx.fin := by
    unfold Stream.pendingFin
    rw [hctx]
    rfl
  by_cases hle : ctx.buf.length ≤ ctx.pendingOffset
  · rw [if_pos hle]
    exact ⟨c, s, _, 0, rfl, .refl c s _ _, .inl ⟨rfl, fun _ => rfl⟩⟩
  rw [if_neg hle]
  obtain ⟨c₁, s₁, ret, n, hsend, hsends, hctx₁, hok, herror, -⟩ := streamSendScalar_sends (s := s) hroom
    env (ctx.buf.drop ctx.pendingOffset) ctx.fin
  rw [← hpending, ← hfin] at hsends hsend
  rw [hpending, hfin] at hsend
  rw [hsend]
  have hsame : s₁.pending = s.pending := Stream.pending_congr hctx₁
  have hsameFin : s₁.pendingFin = s.pendingFin := by
    unfold Stream.pendingFin
    rw [hctx₁]
  cases ret with
  | error e =>
      obtain ⟨rfl, hcases⟩ := herror e rfl
      dsimp only
      rcases hcases with rfl | ⟨hclosing, rfl⟩ | ⟨hreset, rfl⟩
      · rw [if_pos rfl]
        exact ⟨_, _, _, 0, rfl, hsends.touch rfl rfl rfl rfl, .inl ⟨hsame, fun _ => hsameFin⟩⟩
      · rw [if_neg (by decide), if_pos (by decide)]
        exact ⟨_, _, _, 0, rfl, hsends.touch rfl rfl rfl rfl, .inr (.inl hclosing)⟩
      · rw [if_neg (by decide), if_pos (by decide)]
        exact ⟨_, _, _, 0, rfl, hsends.touch rfl rfl rfl rfl, .inr (.inr hreset)⟩
  | ok written =>
      obtain rfl := hok written rfl
      dsimp only
      by_cases hzero : written = 0
      · rw [if_pos hzero]
        subst hzero
        exact ⟨_, _, _, 0, rfl, hsends.touch rfl rfl rfl rfl, .inl ⟨hsame, fun _ => hsameFin⟩⟩
      rw [if_neg hzero]
      by_cases hmore : ctx.pendingOffset + written < ctx.buf.length
      · rw [if_pos hmore]
        refine ⟨_, _, _, written, rfl, hsends.touch rfl rfl rfl rfl, .inl ⟨?_, fun _ => hfin.symm⟩⟩
        rw [hpending, List.drop_drop]
        rfl
      · rw [if_neg hmore]
        have hall : s.pending.drop written = [] := by
          rw [hpending, List.drop_drop]
          exact List.drop_eq_nil_of_le (not_lt.1 hmore)
        have hclear : (atomicClearPending s₁).pending = [] := by
          unfold Stream.pending atomicClearPending
          dsimp only
          cases s₁.atomicCtx <;> rfl
        exact ⟨_, _, _, written, rfl, hsends.touch rfl rfl rfl rfl,
          .inl ⟨hclear.trans hall.symm, fun hne => absurd hclear hne⟩⟩

end Vectored

end Rquic
