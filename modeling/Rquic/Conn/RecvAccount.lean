import Rquic.Conn.RecvWindow

set_option autoImplicit false

/-!
# The account of received data

Every stream that was opened has a size: its final size once it is reset, and the highest offset received
before. The counters of the connection are the sums of the sizes, as long as no data goes to a stream that
the application discards, and no RESET_STREAM goes beyond the limit of the connection: neither is checked.

* `Extent`, `Conn.extent`: the size of a stream, by the frames that reached it.
* `Conn.RecvAccounted`: the counters are the sums of the sizes, within the limit.
* `Conn.Accounts`: the frames that are counted.
* `Accounted`: the ledger holds the sizes.
* **`run_recvAccounted`**: in every run of such frames the counters are right.
-/

namespace Rquic

/-! ## The size of a stream -/

/-- The size of a stream, and whether it is final. -/
structure Extent where
  size : ℕ := 0
  final : Bool := false
  deriving DecidableEq, Repr

/-- A frame that reaches the stream `id` extends it, unless it is reset. -/
def LogEntry.extend (id : StreamId) (x : Extent) : LogEntry → Extent
  | .gotData id' n => if id' = id ∧ x.final = false then ⟨max x.size n, false⟩ else x
  | .gotReset id' n => if id' = id ∧ x.final = false then ⟨n, true⟩ else x
  | _ => x

namespace Conn

/-- The size of a stream: the highest offset that a STREAM frame reached, or the final size that a
RESET_STREAM frame gave. -/
def extent (c : Conn) (id : StreamId) : Extent := c.log.foldl (LogEntry.extend id) {}

/-- What of the stream was read: all of it, once it is reset. -/
def readSize (c : Conn) (id : StreamId) : ℕ :=
  if (c.extent id).final then (c.extent id).size
  else (c.lastState id).elim 0 fun s => s.streamDataIn.nextReadOffset

/-- The counters of received data are right: they are the sums over all streams that were opened, without
wrapping around, and they keep to the limit. -/
structure RecvAccounted (c : Conn) : Prop where
  dataRecved : c.connFlowCtl.dataRecved = ∑ id ∈ c.openedIds, (c.extent id).size
  dataRead : c.connFlowCtl.dataRead = ∑ id ∈ c.openedIds, c.readSize id
  le : c.connFlowCtl.dataRead ≤ c.connFlowCtl.dataRecved
  within : c.connFlowCtl.dataRecved ≤ c.connFlowCtl.maxDataCanRecv

/-! ## The condition -/

/-- The highest offset received on a stream that is there. -/
def maxRecvOffset (c : Conn) (id : StreamId) : ℕ := (c.streams id).elim 0 Stream.streamMaxRecvOffset

/-- The application discards the stream, or will when a frame opens it. -/
def discards (c : Conn) (accept : Bool) (id : StreamId) : Bool :=
  (c.streams id).elim (!accept) Stream.discarded

/-- A frame reaches a receiving half that is not reset. -/
def reachesRecv (c : Conn) (id : StreamId) : Prop :=
  match c.streams id with
  | some s => s.Receives
  | none => c.OpensPeer id

theorem reachesRecv_iff (c : Conn) (id : StreamId) :
    c.reachesRecv id ↔ (c.streams id).elim (c.OpensPeer id) Stream.Receives := by
  unfold reachesRecv
  cases c.streams id <;> rfl

instance (c : Conn) (id : StreamId) : Decidable (c.reachesRecv id) :=
  decidable_of_iff ((c.streams id).isSome = true ∧ (c.streams id).all (fun s => decide s.Receives) = true ∨
      (c.streams id).isSome = false ∧ c.OpensPeer id) (by
    rw [reachesRecv_iff]
    cases c.streams id <;> simp)

/-- The frame is counted: its data does not go to a discarded stream, and with its final size the
connection keeps to its limit. -/
def accountsFrame (c : Conn) (accept : Bool) : Frame → Prop
  | .stream id offset _ data => c.reachesRecv id → c.discards accept id = true →
      offset + data.length ≤ c.maxRecvOffset id
  | .resetStream id _ finalSize => c.reachesRecv id →
      c.connFlowCtl.dataRecved + finalSize ≤ c.connFlowCtl.maxDataCanRecv + c.maxRecvOffset id
  | _ => True

/-- The frame that arrives is counted. -/
def Accounts (c : Conn) : ConnEvent → Prop
  | .frame env pkt _ _ f => c.takesFrame pkt f.1 = true → c.accountsFrame env.accept f.1
  | _ => True

instance (c : Conn) (accept : Bool) : ∀ f, Decidable (c.accountsFrame accept f)
  | .stream id offset _ data => inferInstanceAs (Decidable (c.reachesRecv id →
      c.discards accept id = true → offset + data.length ≤ c.maxRecvOffset id))
  | .resetStream id _ finalSize => inferInstanceAs (Decidable (c.reachesRecv id →
      c.connFlowCtl.dataRecved + finalSize ≤ c.connFlowCtl.maxDataCanRecv + c.maxRecvOffset id))
  | .padding | .ping | .ack _ | .handshake .. | .stopSending .. | .maxData _ | .maxStreamData ..
  | .maxStreams .. | .dataBlocked _ | .streamDataBlocked .. | .streamsBlocked .. | .pathChallenge _
  | .pathResponse _ | .connectionClose _ | .datagram _ => .isTrue trivial

instance (c : Conn) : ∀ ev, Decidable (c.Accounts ev)
  | .frame env pkt _ _ f => inferInstanceAs (Decidable (c.takesFrame pkt f.1 = true →
      c.accountsFrame env.accept f.1))
  | .handshake | .create .. | .send .. | .sendv .. | .drain .. | .recv .. | .close _ | .destroy _
  | .sendState _ | .processed _ | .error _ | .immediateClose | .engine _ | .header _ => .isTrue trivial

end Conn

section Conditions

variable {c₀ c c' : Conn} {ev : ConnEvent}

/-- The stream that the frame reaches, as the connection had it in front of the event. -/
theorem Conn.Holds.reaches {accept : Bool} {s : Stream} (h : c.Holds accept s) (hrecv : s.Receives) :
    c.reachesRecv s.streamId ∧ c.discards accept s.streamId = s.discarded ∧
      c.maxRecvOffset s.streamId = s.streamMaxRecvOffset := by
  unfold Conn.reachesRecv Conn.discards Conn.maxRecvOffset
  rcases h with ⟨s₀, hs₀, hcore⟩ | ⟨hopens, hnew⟩
  · rw [hs₀]
    refine ⟨?_, (congrArg Stream.discarded hcore :).symm, (congrArg Stream.streamMaxRecvOffset hcore :).symm⟩
    have hstate : s.streamStateRecv = s₀.streamStateRecv := (congrArg Stream.streamStateRecv hcore :)
    show s₀.Receives
    unfold Stream.Receives at hrecv ⊢
    rw [← hstate]
    exact hrecv
  · rw [hopens.none]
    exact ⟨hopens, (hnew.discarded :).symm, (hnew.maxRecvOffset :).symm⟩

/-- No data that is not counted goes to a discarded stream. -/
theorem Conn.Accounts.deliver (h : c₀.Accounts ev) {s : Stream} {f : StreamFrame} (hrecv : s.Receives)
    (hallow : c₀.allows ev (.deliver s f)) (hdiscarded : s.discarded = true) :
    f.endOffset ≤ s.streamMaxRecvOffset := by
  obtain ⟨env, pkt, pos, frameLen, g, rfl, htakes, hg⟩ :=
    Conn.frame_of_allows hallow nofun nofun nofun nofun nofun
  obtain ⟨heq, hholds⟩ := Frame.allows_deliver hg
  obtain ⟨hreaches, hdis, hmax⟩ := hholds.reaches hrecv
  have hframe := h htakes
  rw [heq] at hframe
  rw [← hmax]
  exact hframe hreaches (hdis.trans hdiscarded)

theorem Conn.Accounts.resetRecv (h : c₀.Accounts ev) {r : ConnRecv} {s : Stream} {n : ℕ}
    (hrecv : s.Receives) (hallow : c₀.allows ev (.resetRecv r s n)) :
    r.connFlowCtl.dataRecved + n ≤ r.connFlowCtl.maxDataCanRecv + s.streamMaxRecvOffset := by
  obtain ⟨env, pkt, pos, frameLen, g, rfl, htakes, hg⟩ :=
    Conn.frame_of_allows hallow nofun nofun nofun nofun nofun
  obtain ⟨⟨errCode, heq⟩, hholds, hrecved, hlimit⟩ := Frame.allows_resetRecv hg
  obtain ⟨hreaches, -, hmax⟩ := hholds.reaches hrecv
  have hframe := h htakes
  rw [heq] at hframe
  rw [hrecved, hlimit, ← hmax]
  exact hframe hreaches

end Conditions

/-! ## Errors stay -/

section Errors

variable {allow : ConnAct → Prop} {c c' : Conn}

/-- **An error that was raised stays.** -/
theorem ConnStep.connErr_kept (h : ConnStep allow c c') (herr : c.connErr.isSome = true) :
    c'.connErr = c.connErr := by
  cases h with
  | write f hf =>
      rw [c.write_frame f]
  | writeReset s errCode hs hstate hallow =>
      rw [c.write_frame (.resetStream s.streamId errCode s.streamSendOffset)]
  | status connState connErr handshakeSent handshakeRecvd handshakeDone dataBlocked connCloseCount
      header alpn selfProtoExt peerProtoExt hkept => exact hkept herr
  | openPassive c' id hpeer hopen =>
      have hhash : ∀ curMaxSid, (insertPassiveStreamHash c curMaxSid id).connErr = c.connErr := by
        intro curMaxSid
        unfold insertPassiveStreamHash
        split_ifs
        · exact raise_connErr_of_isSome (c := { c with passiveStreams := _ }) _ herr
        · rfl
      unfold Rquic.openPassive at hopen
      split_ifs at hopen <;> obtain rfl := Option.some.inj hopen
      · exact hhash _
      · exact hhash _
      · rfl
  | openPeer id accept hpeer hnone hpassive hallow =>
      unfold insertStream
      split <;> rfl
  | openLocal t settings accept ht hlimit hallow =>
      unfold insertStream
      split_ifs <;> (dsimp only; split <;> rfl)
  | deliver s f hs hend hallow =>
      obtain ⟨err, herr'⟩ := Option.isSome_iff_exists.1 herr
      rw [herr']
      exact processStreamFrame_connErr_of_some c.toConnRecv s f herr'
  | resetRecv s finalSize hs hsize hallow =>
      exact processResetStreamFrame_connErr c.toConnRecv s finalSize
  | read s env recvBufSize hs => exact (streamRecv_frame env c.toConnRecv s recvBufSize).2.2.2.2
  | _ => rfl

theorem ConnStep.connErr_none (h : ConnStep allow c c') (herr : c'.connErr = none) :
    c.connErr = none := by
  cases hc : c.connErr with
  | none => rfl
  | some err =>
      have hkept := h.connErr_kept (by rw [hc]; rfl)
      rw [herr, hc] at hkept
      cases hkept

end Errors

/-! ## The ledger of the sizes -/

/-- The ledger holds the sizes of the streams; a stream is reset once its size is final. -/
structure Accounted (c : Conn) (recved read : StreamId → ℕ) : Prop where
  ledger : RecvLedger c recved read
  size : ∀ id, recved id = (c.extent id).size
  final : ∀ id, (c.extent id).final = true → read id = (c.extent id).size
  receives : ∀ id s, c.lastState id = some s → ((c.extent id).final = false ↔ s.Receives)
  unopened : ∀ id ∉ c.openedIds, c.extent id = {}
  within : c.connFlowCtl.dataRecved ≤ c.connFlowCtl.maxDataCanRecv

section Extents

variable {c c' : Conn} {id : StreamId}

theorem extent_kept
    (hlog : ∃ l : List LogEntry, c'.log = c.log ++ l ∧ ∀ entry ∈ l, entry.isRecv = false) :
    c'.extent id = c.extent id := by
  obtain ⟨l, hl, hkept⟩ := hlog
  unfold Conn.extent
  rw [hl, List.foldl_append]
  generalize c.log.foldl (LogEntry.extend id) {} = x
  clear hl
  induction l generalizing x with
  | nil => rfl
  | cons entry l ih =>
      have hentry : entry.extend id x = x := by
        have hnot := hkept entry List.mem_cons_self
        cases entry with
        | gotData => cases hnot
        | gotReset => cases hnot
        | _ => rfl
      rw [List.foldl_cons, hentry]
      exact ih (fun e he => hkept e (List.mem_cons_of_mem _ he)) x

theorem extent_entry {entry : LogEntry} (hlog : c'.log = c.log ++ [entry]) :
    c'.extent id = entry.extend id (c.extent id) := by
  unfold Conn.extent
  rw [hlog, List.foldl_append]
  rfl

/-- A frame for another stream, or for a stream that is reset. -/
theorem LogEntry.extend_of_ne {entry : LogEntry} {x : Extent} {id' : StreamId}
    (hentry : (∃ n, entry = .gotData id' n) ∨ ∃ n, entry = .gotReset id' n)
    (h : id' ≠ id ∨ x.final = true) : entry.extend id x = x := by
  have hnot : ¬ (id' = id ∧ x.final = false) := by
    rintro ⟨heq, hfinal⟩
    rcases h with h | h
    · exact h heq
    · rw [h] at hfinal
      cases hfinal
  rcases hentry with ⟨n, rfl⟩ | ⟨n, rfl⟩ <;> exact if_neg hnot

end Extents

section Account

variable {allow : ConnAct → Prop} {c₀ c c' : Conn} {ev : ConnEvent} {recved read : StreamId → ℕ}

theorem Accounted.readSize_eq (h : Accounted c recved read) (hinv : LifeInv c) (id : StreamId) :
    read id = c.readSize id := by
  unfold Conn.readSize
  by_cases hfinal : (c.extent id).final = true
  · rw [if_pos hfinal]
    exact h.final id hfinal
  rw [if_neg hfinal]
  cases hs : c.lastState id with
  | some s =>
      have hrecv := (h.receives id s hs).1 (Bool.eq_false_of_not_eq_true hfinal)
      exact (h.ledger.live id s hs hrecv).2.2
  | none =>
      refine (h.ledger.unopened id fun hmem => ?_).2
      obtain ⟨s, hs'⟩ := hinv.lastState_of_opened (Conn.mem_openedIds.1 hmem)
      rw [hs] at hs'
      cases hs'

theorem Accounted.accounted (h : Accounted c recved read) (hinv : LifeInv c)
    (hreach : ∀ id, recved id ≤ c.reach id) (hlt : c.reachTotal < 2 ^ 63) : c.RecvAccounted := by
  have hrecved : ∑ id ∈ c.openedIds, recved id < 2 ^ 64 :=
    ((Finset.sum_le_sum fun id _ => hreach id).trans_lt hlt).trans (by decide)
  have hle : ∑ id ∈ c.openedIds, read id ≤ ∑ id ∈ c.openedIds, recved id :=
    Finset.sum_le_sum fun id _ => h.ledger.le id
  have heq := h.ledger.recvedSum.exact hrecved
  have heq' := h.ledger.readSum.exact (hle.trans_lt hrecved)
  refine ⟨?_, ?_, ?_, h.within⟩
  · rw [heq]
    exact Finset.sum_congr rfl fun id _ => h.size id
  · rw [heq']
    exact Finset.sum_congr rfl fun id _ => h.readSize_eq hinv id
  · rw [heq, heq']
    exact hle

theorem Accounted.quiet (h : Accounted c recved read) (hquiet : QuietRecv c c')
    (hsub : c.openedIds ⊆ c'.openedIds)
    (hlimit : c.connFlowCtl.maxDataCanRecv ≤ c'.connFlowCtl.maxDataCanRecv) :
    Accounted c' recved read := by
  have hextent : ∀ id, c'.extent id = c.extent id := fun id => extent_kept hquiet.log
  refine ⟨h.ledger.quiet hquiet hsub, fun id => ?_, fun id => ?_, fun id s' hs' => ?_, fun id hid => ?_, ?_⟩
  · rw [hextent]
    exact h.size id
  · rw [hextent]
    exact h.final id
  · rw [hextent]
    rcases hquiet.states id s' hs' with ⟨s, hs, hsame⟩ | ⟨hid, accept, hnew⟩
    · exact (h.receives id s hs).trans hsame.receives.symm
    · rw [h.unopened id hid]
      refine iff_of_true rfl ?_
      unfold Stream.Receives
      rw [hnew.stateRecv]
      decide
  · rw [hextent]
    exact h.unopened id fun hmem => hid (hsub hmem)
  · rw [hquiet.dataRecved]
    exact h.within.trans hlimit

theorem Accounted.deaf (h : Accounted c recved read) {s : Stream} {entry : LogEntry}
    (hs : c.streams s.streamId = some s) (hreset : ¬ s.Receives)
    (hentry : (∃ n, entry = .gotData s.streamId n) ∨ ∃ n, entry = .gotReset s.streamId n) :
    Accounted (c.addLog entry) recved read := by
  have hlife : entry.isLife = false := by
    rcases hentry with ⟨n, rfl⟩ | ⟨n, rfl⟩ <;> rfl
  have hfinal : (c.extent s.streamId).final = true := by
    have hiff := h.receives _ s (Conn.lastState_of_some hs)
    exact Bool.eq_true_of_not_eq_false fun hnot => hreset (hiff.1 hnot)
  have hextent : ∀ id, (c.addLog entry).extent id = c.extent id := by
    intro id
    have hlog : (c.addLog entry).log = c.log ++ [entry] := rfl
    rw [extent_entry hlog]
    refine LogEntry.extend_of_ne hentry ?_
    by_cases hid : s.streamId = id
    · exact .inr (hid ▸ hfinal)
    · exact .inl hid
  have hkept : (c.addLog entry).life = c.life := Conn.life_of_silent hlife rfl
  refine ⟨h.ledger.deaf hlife, fun id => ?_, fun id => ?_, fun id s' hs' => ?_, fun id hid => ?_, h.within⟩
  · rw [hextent]
    exact h.size id
  · rw [hextent]
    exact h.final id
  · rw [hextent]
    refine h.receives id s' ?_
    rw [← hs', lastState_eq hkept]
    rfl
  · rw [hextent]
    rw [openedIds_of_life hkept] at hid
    exact h.unopened id hid

/-- One stream is changed by a frame, or by a read that leaves its size as it is. -/
theorem Accounted.post (h : Accounted c recved read) (hinv : LifeInv c) {s s' : Stream}
    (hs : c.streams s.streamId = some s) (hlife : c'.life = c.life)
    (hstreams : c'.streams = Function.update c.streams s.streamId (some s')) {m n : ℕ}
    (hledger : RecvLedger c' (Function.update recved s.streamId m) (Function.update read s.streamId n))
    (hextent : ∀ id, id ≠ s.streamId → c'.extent id = c.extent id)
    (hsize : m = (c'.extent s.streamId).size)
    (hfinal : (c'.extent s.streamId).final = true → n = (c'.extent s.streamId).size)
    (hreceives : (c'.extent s.streamId).final = false ↔ s'.Receives)
    (hwithin : c'.connFlowCtl.dataRecved ≤ c'.connFlowCtl.maxDataCanRecv) :
    Accounted c' (Function.update recved s.streamId m) (Function.update read s.streamId n) := by
  refine ⟨hledger, fun id => ?_, fun id hid => ?_, fun id s'' hs'' => ?_, fun id hid => ?_, hwithin⟩
  · by_cases heq : id = s.streamId
    · subst heq
      rw [Function.update_self]
      exact hsize
    · rw [Function.update_of_ne heq, hextent id heq]
      exact h.size id
  · by_cases heq : id = s.streamId
    · subst heq
      rw [Function.update_self]
      exact hfinal hid
    · rw [hextent id heq] at hid
      rw [Function.update_of_ne heq, hextent id heq]
      exact h.final id hid
  · rcases lastState_update hlife hstreams hs'' with ⟨rfl, rfl⟩ | ⟨hne, hold⟩
    · exact hreceives
    · rw [hextent id hne]
      exact h.receives id s'' hold
  · rw [openedIds_of_life hlife] at hid
    have hne : id ≠ s.streamId := by
      rintro rfl
      exact hid (Conn.mem_openedIds.2 (hinv.stored _ s hs))
    rw [hextent id hne]
    exact h.unopened id hid

/-- The account behind a step of an event whose frame is counted. -/
theorem Accounted.step (h : Accounted c recved read) (hmeets : c₀.Accounts ev) (hinv : RecvInv c)
    (hstep : ConnStep (c₀.allows ev) c c') (hlimits : LimitsGrow c c') (herr : c'.connErr = none)
    (hlt : ∑ id ∈ c.openedIds, recved id < 2 ^ 64) :
    ∃ recved' read', Accounted c' recved' read' := by
  cases hstep.recvMove hinv.life with
  | quiet hquiet => exact ⟨_, _, h.quiet hquiet hstep.openedIds_subset hlimits.connLimit⟩
  | deaf s entry hs hreset hentry hc =>
      subst hc
      exact ⟨_, _, h.deaf hs hreset hentry⟩
  | deliver s s' f hs hrecv hallow hstreams hdelivered hlog =>
      obtain ⟨hd, hledger⟩ := h.ledger.deliver hinv.life hs hrecv hstreams hdelivered hlog
      have hmem := Conn.lastState_of_some hs
      have hopen := (h.receives _ s hmem).2 hrecv
      obtain ⟨-, hrecved, -⟩ := h.ledger.live _ s hmem hrecv
      have hself : c'.extent s.streamId = ⟨max (c.extent s.streamId).size f.endOffset, false⟩ := by
        rw [extent_entry hlog]
        exact if_pos ⟨rfl, hopen⟩
      have hnone : ¬ c'.connErr.isSome = true := by
        rw [herr]
        exact Bool.false_ne_true
      have hmax : s'.streamMaxRecvOffset = max s.streamMaxRecvOffset f.endOffset := by
        rcases hd.whole with hwhole | hdiscarded | herror
        · exact hwhole
        · have hle := hmeets.deliver hrecv hallow hdiscarded
          have hgrows := hd.grows
          have hwas := hd.le
          rw [max_eq_left hle] at hwas ⊢
          exact le_antisymm hwas hgrows
        · exact absurd herror hnone
      rw [← Function.update_eq_self s.streamId read] at hledger
      refine ⟨_, _, h.post hinv.life hs (Conn.life_of_silent rfl hlog) hstreams hledger (fun id hid => ?_)
        ?_ ?_ ?_ ?_⟩
      · rw [extent_entry hlog]
        exact LogEntry.extend_of_ne (.inl ⟨_, rfl⟩) (.inl hid.symm)
      · rw [hself, hmax, ← h.size, hrecved]
      · rw [hself]
        exact nofun
      · rw [hself]
        exact iff_of_true rfl hd.receives
      · rcases hd.within with hsame | hwithin | herror
        · have hflow := hd.flowCtl
          rw [hsame, if_neg (lt_irrefl _)] at hflow
          rw [hflow]
          exact h.within
        · exact hwithin
        · exact absurd herror hnone
  | reset s s' finalSize hs hrecv hallow hstreams hreset hflow hlog =>
      have hledger := h.ledger.reset hinv.life hs hrecv hstreams hreset hflow hlog
      have hmem := Conn.lastState_of_some hs
      have hopen := (h.receives _ s hmem).2 hrecv
      obtain ⟨-, hrecved, -⟩ := h.ledger.live _ s hmem hrecv
      have hself : c'.extent s.streamId = ⟨finalSize, true⟩ := by
        rw [extent_entry hlog]
        exact if_pos ⟨rfl, hopen⟩
      refine ⟨_, _, h.post hinv.life hs (Conn.life_of_silent rfl hlog) hstreams hledger (fun id hid => ?_)
        ?_ ?_ ?_ ?_⟩
      · rw [extent_entry hlog]
        exact LogEntry.extend_of_ne (.inr ⟨_, rfl⟩) (.inl hid.symm)
      · rw [hself]
      · rw [hself]
        exact fun _ => rfl
      · rw [hself]
        exact iff_of_false nofun hreset
      · have hkeeps := hmeets.resetRecv hrecv hallow
        have hle : recved s.streamId ≤ c.connFlowCtl.dataRecved := by
          rw [h.ledger.recvedSum.exact hlt]
          exact Finset.single_le_sum (fun id _ => Nat.zero_le (recved id))
            (Conn.mem_openedIds.2 (hinv.life.stored _ s hs))
        have hsized := hlimits.connSized.limit
        rw [hflow] at hsized ⊢
        show u64Add c.connFlowCtl.dataRecved (u64Sub finalSize s.streamMaxRecvOffset) ≤
          c.connFlowCtl.maxDataCanRecv
        change c.connFlowCtl.maxDataCanRecv < 2 ^ 64 at hsized
        have hsum := h.within
        unfold u64Add u64Sub
        omega
  | read s s' hs hrecv hstreams hread hlog =>
      obtain ⟨hr, hledger⟩ := h.ledger.readOn hinv.life hs hrecv hstreams hread hlog
      have hmem := Conn.lastState_of_some hs
      have hopen := (h.receives _ s hmem).2 hrecv
      have hextent : ∀ id, c'.extent id = c.extent id := fun id => extent_kept (logKept_refl hlog)
      have hlife : c'.life = c.life := by
        unfold Conn.life
        rw [hlog]
      rw [← Function.update_eq_self s.streamId recved] at hledger
      refine ⟨_, _, h.post hinv.life hs hlife hstreams hledger (fun id _ => hextent id) ?_ ?_ ?_ ?_⟩
      · rw [hextent]
        exact h.size _
      · rw [hextent, hopen]
        exact nofun
      · rw [hextent]
        exact iff_of_true hopen hr.receives
      · rw [hr.dataRecved]
        exact h.within.trans hlimits.connLimit

end Account

/-! ## Runs -/

/-- The size of a stream is at most what the frames reach. -/
theorem extent_le_reach (c : Conn) (id : StreamId) : (c.extent id).size ≤ c.reach id := by
  have hfold : ∀ (log : List LogEntry) (x : Extent),
      (log.foldl (LogEntry.extend id) x).size ≤ max x.size (largestIn (LogEntry.reach id) log) := by
    intro log
    induction log with
    | nil => exact fun x => le_max_left _ _
    | cons entry log ih =>
        intro x
        have hentry : (entry.extend id x).size ≤ max x.size (entry.reach id) := by
          cases entry with
          | gotData id' n =>
              rw [LogEntry.extend, LogEntry.reach]
              by_cases hid : id' = id
              · rw [if_pos hid]
                split_ifs
                · exact le_rfl
                · exact le_max_left _ _
              · rw [if_neg fun h => hid h.1]
                exact le_max_left _ _
          | gotReset id' n =>
              rw [LogEntry.extend, LogEntry.reach]
              by_cases hid : id' = id
              · rw [if_pos hid]
                split_ifs
                · exact le_max_right _ _
                · exact le_max_left _ _
              · rw [if_neg fun h => hid h.1]
                exact le_max_left _ _
          | _ => exact le_max_left _ _
        rw [List.foldl_cons, largestIn, ← max_assoc]
        exact (ih _).trans (max_le_max hentry le_rfl)
  exact (hfold c.log {}).trans_eq (Nat.zero_max _)

theorem connCreate_accounted (connType : ConnType) (settings : ConnSettings)
    (header : PktType → Bytes) :
    Accounted (connCreate connType settings header) (fun _ => 0) fun _ => 0 where
  ledger := connCreate_recvLedger connType settings header
  size := fun _ => rfl
  final := fun _ h => by cases h
  receives := fun _ _ h => by cases h
  unopened := fun _ _ => rfl
  within := Nat.zero_le _

/-- As long as no error is raised and the peer does not name too much data, the ledger holds the sizes. -/
structure AccountInv (c : Conn) : Prop where
  recv : RecvInv c
  accounted : c.connErr = none → c.reachTotal < 2 ^ 63 → ∃ recved read, Accounted c recved read

theorem AccountInv.step {c₀ c c' : Conn} {ev : ConnEvent} (hmeets : c₀.Accounts ev)
    (hstep : ConnStep (c₀.allows ev) c c') (h : AccountInv c) : AccountInv c' := by
  obtain ⟨hrecv, hgrow⟩ := h.recv.step hstep
  refine ⟨hrecv, fun herr hlt => ?_⟩
  have hlt₀ := hstep.reachTotal_le.trans_lt hlt
  obtain ⟨recved, read, haccounted⟩ := h.accounted (hstep.connErr_none herr) hlt₀
  refine haccounted.step hmeets h.recv hstep (hgrow hlt) herr ?_
  calc ∑ id ∈ c.openedIds, recved id ≤ ∑ id ∈ c.openedIds, c.reach id :=
        Finset.sum_le_sum fun id _ => (haccounted.size id).trans_le (extent_le_reach c id)
    _ < 2 ^ 64 := hlt₀.trans (by decide)

/-- **The counters of received data are right** in every run that raises no error and where the peer names
less than `2 ^ 63` bytes, if no data goes to a stream that the application discards and every RESET_STREAM
keeps to the limit of the connection. -/
theorem run_recvAccounted (connType : ConnType) (settings : ConnSettings) (header : PktType → Bytes)
    (evs : List ConnEvent) (hinit : settings.initRecvWindow < 2 ^ 32)
    (hmeets : RunMeets Conn.Accounts (connCreate connType settings header) evs)
    (herr : ((connCreate connType settings header).run evs).connErr = none)
    (htotal : ((connCreate connType settings header).run evs).reachTotal < 2 ^ 63) :
    ((connCreate connType settings header).run evs).RecvAccounted := by
  have hinv : AccountInv ((connCreate connType settings header).run evs) :=
    RunMeets.steps_inv (fun c₀ ev hev c c' _ hstep h => h.step hev hstep)
      (connCreate_keyed connType settings header)
      ⟨connCreate_recvInv connType header hinit,
        fun _ _ => ⟨_, _, connCreate_accounted connType settings header⟩⟩ hmeets
  obtain ⟨recved, read, haccounted⟩ := hinv.accounted herr htotal
  refine haccounted.accounted hinv.recv.life (fun id => ?_) htotal
  exact (haccounted.size id).trans_le (extent_le_reach _ id)

/-- The client sends five bytes on stream 0, of which the server reads two, and resets its stream 4 at
offset seven. -/
def accountedRun : List ConnEvent :=
  serverHandshake ++ [oneRttFrame (.stream 0 0 false [1, 2, 3, 4, 5]) (by decide), .recv 0 {} 2,
    oneRttFrame (.resetStream 4 0 7) (by decide)]

/-- Both streams are counted. -/
theorem run_recvAccounted_twelve :
    (newServer.run accountedRun).RecvAccounted ∧
      (newServer.run accountedRun).connFlowCtl.dataRecved = 12 ∧
      (newServer.run accountedRun).connFlowCtl.dataRead = 9 := by
  refine ⟨run_recvAccounted .server _ _ accountedRun ?_ ?_ ?_ ?_, ?_, ?_⟩ <;> decide +kernel

/-- The client resets its stream 0 at an offset that no limit allows. -/
def resetBeyondLimit : List ConnEvent :=
  serverHandshake ++ [oneRttFrame (.resetStream 0 0 (2 ^ 62 - 1)) (by decide)]

/-- **RESET_STREAM is not held to the limit of the connection.** -/
theorem not_run_recvAccounted :
    ¬ ∀ (connType : ConnType) (settings : ConnSettings) (header : PktType → Bytes)
      (evs : List ConnEvent), settings.initRecvWindow < 2 ^ 32 →
      ((connCreate connType settings header).run evs).connErr = none →
      ((connCreate connType settings header).run evs).RecvAccounted := by
  intro h
  have herr : (newServer.run resetBeyondLimit).connErr = none := by decide +kernel
  have hwithin := (h .server _ _ resetBeyondLimit (by decide) herr).within
  have hbeyond : (newServer.run resetBeyondLimit).connFlowCtl.maxDataCanRecv <
      (newServer.run resetBeyondLimit).connFlowCtl.dataRecved := by decide +kernel
  exact absurd hwithin (not_le.2 hbeyond)

end Rquic
