import Rquic.Conn.Advertised
import Rquic.Lib.Ledger
import Rquic.Stream.Progress

set_option autoImplicit false

/-!
# The counters of received data

`fc_data_recved` and `fc_data_read` are kept for the whole connection, and every stream adds to them. Here
the part of each stream is written down, in a ledger that also holds the streams that are gone.

* `Conn.lastState`: a stream as it is, or as it was when it was destroyed.
* `RecvMove`: what a step does to the receiving halves and the counters.
* **`ConnStep.recvMove`**: every elementary step is one of these.
* `RecvLedger`: the counters are the sums of the ledger.
* `RecvLedger.quiet`, `RecvLedger.deliver`, ...: the ledger behind each step.
-/

namespace Rquic

/-! ## The streams that there were -/

/-- The id of a stream that was created. -/
def LogEntry.openedId : LogEntry → Option StreamId
  | .opened id => some id
  | _ => none

/-- The stream `id`, if the entry says that it was destroyed. -/
def LogEntry.destroyedAs (id : StreamId) : LogEntry → Option Stream
  | .destroyed s => if s.streamId = id then some s else none
  | _ => none

/-- The entry says that a frame reached the receiving half of a stream. -/
def LogEntry.isRecv : LogEntry → Bool
  | .gotData .. | .gotReset .. => true
  | _ => false

namespace Conn

/-- The streams that were created. -/
def openedIds (c : Conn) : Finset StreamId := (c.life.filterMap LogEntry.openedId).toFinset

/-- A stream as it is, or as it was when it was destroyed. -/
def lastState (c : Conn) (id : StreamId) : Option Stream :=
  (c.streams id).or (c.life.findSome? (LogEntry.destroyedAs id))

theorem mem_openedIds {c : Conn} {id : StreamId} : id ∈ c.openedIds ↔ c.Opened id := by
  unfold openedIds Opened
  rw [List.mem_toFinset, List.mem_filterMap]
  constructor
  · rintro ⟨entry, hmem, hid⟩
    cases entry <;> simp [LogEntry.openedId] at hid
    rw [← hid]
    exact hmem
  · exact fun h => ⟨_, h, rfl⟩

theorem lastState_of_some {c : Conn} {id : StreamId} {s : Stream} (h : c.streams id = some s) :
    c.lastState id = some s := by
  rw [lastState, h, Option.some_or]

end Conn

section LastState

variable {allow : ConnAct → Prop} {c c' : Conn} {id : StreamId}

theorem LifeInv.lastState_of_opened (hinv : LifeInv c) (h : c.Opened id) :
    ∃ s, c.lastState id = some s := by
  cases hs : c.streams id with
  | some s => exact ⟨s, Conn.lastState_of_some hs⟩
  | none =>
      obtain ⟨s, hmem, hid⟩ := hinv.gone id h hs
      cases hfind : c.life.findSome? (LogEntry.destroyedAs id) with
      | some s' => exact ⟨s', by rw [Conn.lastState, hs, hfind]; rfl⟩
      | none =>
          have hnone := List.findSome?_eq_none_iff.1 hfind _ hmem
          rw [LogEntry.destroyedAs, if_pos hid] at hnone
          cases hnone

/-- Nothing was destroyed under the id of a stream that is there. -/
theorem LifeInv.not_destroyed (hinv : LifeInv c) {s : Stream} (h : c.streams id = some s) :
    c.life.findSome? (LogEntry.destroyedAs id) = none := by
  cases hfind : c.life.findSome? (LogEntry.destroyedAs id) with
  | none => rfl
  | some s' =>
      obtain ⟨entry, hmem, hentry⟩ := List.exists_of_findSome?_eq_some hfind
      cases entry with
      | destroyed s'' =>
          rw [LogEntry.destroyedAs] at hentry
          split_ifs at hentry with hid
          have hnone := (hinv.destroyed id ⟨s'', hmem, hid⟩).1
          rw [h] at hnone
          cases hnone
      | _ => cases hentry

theorem ConnStep.openedIds_subset (h : ConnStep allow c c') : c.openedIds ⊆ c'.openedIds := by
  intro id hmem
  obtain ⟨l, hl, -⟩ := h.connLife.life
  rw [Conn.mem_openedIds, Conn.Opened] at hmem ⊢
  rw [hl]
  exact List.mem_append_left l hmem

end LastState

/-! ## What a step does -/

/-- The receiving half stays as it is: of a reset stream nothing counts. -/
structure SameRecv (s s' : Stream) : Prop where
  receives : s'.Receives ↔ s.Receives
  kept : s.Receives → s'.streamDataIn = s.streamDataIn ∧
    s'.streamMaxRecvOffset = s.streamMaxRecvOffset ∧ s'.discarded = s.discarded

/-- The step leaves the receiving halves and the counters alone; it may create and destroy streams. -/
structure QuietRecv (c c' : Conn) : Prop where
  dataRecved : c'.connFlowCtl.dataRecved = c.connFlowCtl.dataRecved
  dataRead : c'.connFlowCtl.dataRead = c.connFlowCtl.dataRead
  states : ∀ id s', c'.lastState id = some s' →
    (∃ s, c.lastState id = some s ∧ SameRecv s s') ∨ (id ∉ c.openedIds ∧ ∃ accept, s'.IsNew accept)
  log : ∃ l : List LogEntry, c'.log = c.log ++ l ∧ ∀ entry ∈ l, entry.isRecv = false

/-- What a step does to the receiving halves and the counters. -/
inductive RecvMove (allow : ConnAct → Prop) (c c' : Conn) : Prop where
  | quiet (h : QuietRecv c c')
  /-- A frame for a stream that is reset. -/
  | deaf (s : Stream) (entry : LogEntry) (hs : c.streams s.streamId = some s) (hreset : ¬ s.Receives)
      (hentry : (∃ n, entry = .gotData s.streamId n) ∨ ∃ n, entry = .gotReset s.streamId n)
      (hc : c' = c.addLog entry)
  | deliver (s s' : Stream) (f : StreamFrame) (hs : c.streams s.streamId = some s) (hrecv : s.Receives)
      (hallow : allow (.deliver s f))
      (hstreams : c'.streams = Function.update c.streams s.streamId (some s'))
      (hdelivered : s.Bounded → Delivered c.toConnRecv s f c'.toConnRecv s')
      (hlog : c'.log = c.log ++ [.gotData s.streamId f.endOffset])
  | reset (s s' : Stream) (finalSize : ℕ) (hs : c.streams s.streamId = some s) (hrecv : s.Receives)
      (hallow : allow (.resetRecv c.toConnRecv s finalSize))
      (hstreams : c'.streams = Function.update c.streams s.streamId (some s')) (hreset : ¬ s'.Receives)
      (hflow : c'.connFlowCtl = { c.connFlowCtl with
        dataRecved := u64Add c.connFlowCtl.dataRecved (u64Sub finalSize s.streamMaxRecvOffset)
        dataRead :=
          u64Add c.connFlowCtl.dataRead (u64Sub finalSize s.streamDataIn.nextReadOffset) })
      (hlog : c'.log = c.log ++ [.gotReset s.streamId finalSize])
  | read (s s' : Stream) (hs : c.streams s.streamId = some s) (hrecv : s.Receives)
      (hstreams : c'.streams = Function.update c.streams s.streamId (some s'))
      (hread : s.Bounded → ReadOn c.toConnRecv s c'.toConnRecv s') (hlog : c'.log = c.log)

section Quiet

variable {c c' : Conn}

theorem SameRecv.refl (s : Stream) : SameRecv s s := ⟨.rfl, fun _ => ⟨rfl, rfl, rfl⟩⟩

theorem SameRecv.of_eq {s s' : Stream} (hin : s'.streamDataIn = s.streamDataIn)
    (hstate : s'.streamStateRecv = s.streamStateRecv)
    (hmax : s'.streamMaxRecvOffset = s.streamMaxRecvOffset) (hdis : s'.discarded = s.discarded) :
    SameRecv s s' := by
  refine ⟨?_, fun _ => ⟨hin, hmax, hdis⟩⟩
  unfold Stream.Receives
  rw [hstate]

theorem lastState_eq (hlife : c'.life = c.life) {id : StreamId} (h : c'.streams id = c.streams id) :
    c'.lastState id = c.lastState id := by
  rw [Conn.lastState, Conn.lastState, hlife, h]

theorem QuietRecv.same (hstreams : c'.streams = c.streams) (hlife : c'.life = c.life)
    (hflow : c'.connFlowCtl.dataRecved = c.connFlowCtl.dataRecved ∧
      c'.connFlowCtl.dataRead = c.connFlowCtl.dataRead)
    (hlog : ∃ l : List LogEntry, c'.log = c.log ++ l ∧ ∀ entry ∈ l, entry.isRecv = false) :
    QuietRecv c c' := by
  refine ⟨hflow.1, hflow.2, fun id s' hs' => .inl ⟨s', ?_, .refl s'⟩, hlog⟩
  rw [← hs', lastState_eq hlife (congrFun hstreams id)]

theorem logKept_refl (h : c'.log = c.log) :
    ∃ l : List LogEntry, c'.log = c.log ++ l ∧ ∀ entry ∈ l, entry.isRecv = false :=
  ⟨[], by rw [h, List.append_nil], fun _ hmem => absurd hmem List.not_mem_nil⟩

theorem logKept_entry {entry : LogEntry} (h : c'.log = c.log ++ [entry])
    (hentry : entry.isRecv = false) :
    ∃ l : List LogEntry, c'.log = c.log ++ l ∧ ∀ entry ∈ l, entry.isRecv = false :=
  ⟨[entry], h, fun _ hmem => by rw [List.mem_singleton.1 hmem]; exact hentry⟩

theorem QuietRecv.set {s s' : Stream} (hs : c.streams s.streamId = some s)
    (hstreams : c'.streams = (c.setStream s').streams) (hid : s'.streamId = s.streamId)
    (hsame : SameRecv s s') (hlife : c'.life = c.life)
    (hflow : c'.connFlowCtl.dataRecved = c.connFlowCtl.dataRecved ∧
      c'.connFlowCtl.dataRead = c.connFlowCtl.dataRead)
    (hlog : ∃ l : List LogEntry, c'.log = c.log ++ l ∧ ∀ entry ∈ l, entry.isRecv = false) :
    QuietRecv c c' := by
  refine ⟨hflow.1, hflow.2, fun id s'' hs'' => .inl ?_, hlog⟩
  by_cases heq : id = s'.streamId
  · subst heq
    have hstored : c'.streams s'.streamId = some s' := by
      rw [hstreams]
      exact c.setStream_streams_self s'
    rw [Conn.lastState_of_some hstored] at hs''
    obtain rfl := Option.some.inj hs''
    exact ⟨s, by rw [hid]; exact Conn.lastState_of_some hs, hsame⟩
  · refine ⟨s'', ?_, .refl s''⟩
    rw [← hs'', lastState_eq hlife]
    rw [hstreams, Conn.setStream_streams_of_ne c s' heq]

theorem QuietRecv.inserted {c₀ : Conn} (hstreams : c₀.streams = c.streams)
    (hlog : c₀.log = c.log) (hflow : c₀.connFlowCtl = c.connFlowCtl) {id : StreamId}
    (hnone : c.streams id = none) (hnew : ¬ c.Opened id) (t : StreamType)
    (settings : Option StreamSettings) (isLocal accept : Bool) :
    QuietRecv c (insertStream c₀ id t settings isLocal accept).1 := by
  obtain ⟨s, rfl, -, hfresh, heq⟩ := insertStream_of_none (c := c₀) (by rw [hstreams]; exact hnone) t
    settings isLocal accept
  rw [heq]
  have hgrows : ((c₀.setStream s).addLog (.opened s.streamId)).log = c.log ++ [.opened s.streamId] := by
    rw [← hlog]
    rfl
  have hlife := Conn.life_of_life (c := c) rfl hgrows
  refine ⟨congrArg ConnFlowCtl.dataRecved hflow, congrArg ConnFlowCtl.dataRead hflow,
    fun id s' hs' => ?_, logKept_entry hgrows rfl⟩
  by_cases hid : id = s.streamId
  · subst hid
    have hstored : ((c₀.setStream s).addLog (.opened s.streamId)).streams s.streamId = some s :=
      c₀.setStream_streams_self s
    rw [Conn.lastState_of_some hstored] at hs'
    obtain rfl := Option.some.inj hs'
    exact .inr ⟨fun hmem => hnew (Conn.mem_openedIds.1 hmem), accept, hfresh⟩
  · refine .inl ⟨s', ?_, .refl s'⟩
    rw [← hs', Conn.lastState, Conn.lastState, hlife, List.findSome?_append, ← hstreams]
    rw [show ((c₀.setStream s).addLog (.opened s.streamId)).streams id = c₀.streams id from
      c₀.setStream_streams_of_ne s hid]
    congr 1
    exact Option.or_none.symm

theorem QuietRecv.destroyed (hinv : LifeInv c) {id : StreamId} {s : Stream}
    (hs : c.streams id = some s) : QuietRecv c (destroyStream c id) := by
  have hgrows : (destroyStream c id).log = c.log ++ [.destroyed s] := by
    unfold destroyStream
    rw [hs]
    rfl
  have hlife := Conn.life_of_life (c := c) rfl hgrows
  refine ⟨rfl, rfl, fun id' s' hs' => .inl ⟨s', ?_, .refl s'⟩, logKept_entry hgrows rfl⟩
  rw [Conn.lastState, hlife, List.findSome?_append] at hs'
  by_cases hid : id' = id
  · subst hid
    have hgone : (destroyStream c id').streams id' = none := Function.update_self ..
    have hlast : [LogEntry.destroyed s].findSome? (LogEntry.destroyedAs id') = some s := by
      rw [List.findSome?_cons, LogEntry.destroyedAs, if_pos (hinv.keyed id' s hs)]
    rw [hgone, hinv.not_destroyed hs, hlast] at hs'
    rw [Conn.lastState_of_some hs]
    exact hs'
  · have hkept : (destroyStream c id).streams id' = c.streams id' := Function.update_of_ne hid ..
    have hlast : [LogEntry.destroyed s].findSome? (LogEntry.destroyedAs id') = none := by
      rw [List.findSome?_cons, LogEntry.destroyedAs, if_neg fun h => hid (by
        rw [← h]
        exact hinv.keyed id s hs)]
      rfl
    rw [hkept, hlast, Option.or_none] at hs'
    exact hs'

end Quiet

section Moves

variable {allow : ConnAct → Prop} {c c' : Conn}

theorem QuietRecv.write (c : Conn) (f : ControlFrame) : QuietRecv c (c.write f).1 := by
  have hlog : ∃ l : List LogEntry, (c.write f).1.log = c.log ++ l ∧ ∀ entry ∈ l, entry.isRecv = false := by
    rcases c.write_log f with h | h
    · exact logKept_refl h
    · exact logKept_entry h rfl
  have hlife := (Quiet.write c f).life
  have hframe := c.write_frame f
  generalize (c.write f).1 = c' at hlog hlife hframe ⊢
  refine .same ?_ hlife ?_ hlog
  · rw [hframe]
  · rw [hframe]
    exact ⟨rfl, rfl⟩

theorem QuietRecv.openPassive {id : StreamId} (h : openPassive c id = some c') : QuietRecv c c' := by
  unfold Rquic.openPassive at h
  split_ifs at h <;> obtain rfl := Option.some.inj h
  · rw [insertPassiveStreamHash_frame]
    exact .same rfl rfl ⟨rfl, rfl⟩ (logKept_refl rfl)
  · rw [insertPassiveStreamHash_frame]
    exact .same rfl rfl ⟨rfl, rfl⟩ (logKept_refl rfl)
  · exact .same rfl rfl ⟨rfl, rfl⟩ (logKept_refl rfl)

theorem QuietRecv.params (c : Conn) (p : TransportParams) : QuietRecv c (c.applyParams p) := by
  refine ⟨rfl, rfl, fun id s' hs' => .inl ?_, logKept_refl rfl⟩
  have hlife : (c.applyParams p).life = c.life := rfl
  rw [Conn.lastState, hlife] at hs'
  cases hs : c.streams id with
  | none =>
      have hnone : (c.applyParams p).streams id = none := Option.map_eq_none_iff.2 hs
      rw [hnone] at hs'
      exact ⟨s', by rw [Conn.lastState, hs]; exact hs', .refl s'⟩
  | some s =>
      have hsome : (c.applyParams p).streams id = some (streamUpdateFlowCtl (setRemoteTransportParams c p) s) :=
        Option.map_eq_some_iff.2 ⟨s, hs, rfl⟩
      rw [hsome, Option.some_or] at hs'
      obtain rfl := Option.some.inj hs'
      exact ⟨s, Conn.lastState_of_some hs, .of_eq rfl rfl rfl rfl⟩

theorem LifeInv.next_new (hinv : LifeInv c) {t : StreamType} (ht : t.isLocal c.connType = true) {n : ℕ}
    (hn : n = c.curLocal t) :
    ¬ c.Opened (4 * n + t.toNat) ∧ c.streams (4 * n + t.toNat) = none := by
  subst hn
  have hnew : ¬ c.Opened (4 * c.curLocal t + t.toNat) := by
    intro ho
    have hlt := hinv.own _ ho (by rw [Conn.isLocalId, getStreamType_index]; exact ht)
    have hindex : (4 * c.curLocal t + t.toNat) / 4 = c.curLocal t := by
      have hlt : t.toNat < 4 := by cases t <;> decide
      omega
    rw [hindex, getStreamType_index] at hlt
    exact lt_irrefl _ hlt
  refine ⟨hnew, Option.eq_none_iff_forall_ne_some.2 fun s hs => hnew (hinv.stored _ s hs)⟩

theorem RecvMove.of_deliver {s : Stream} {f : StreamFrame} (hs : c.streams s.streamId = some s)
    (hallow : allow (.deliver s f)) :
    RecvMove allow c ((Conn.setStream
      { c with toConnRecv := (processStreamFrame c.toConnRecv s f).1 }
      (processStreamFrame c.toConnRecv s f).2.1).addLog (.gotData s.streamId f.endOffset)) := by
  by_cases hrecv : s.Receives
  · have hid := Stream.streamId_of_sendPart (processStreamFrame_sendPart c.toConnRecv s f)
    refine .deliver s _ f hs hrecv hallow ?_ (fun h => processStreamFrame_delivered _ f hrecv h) rfl
    rw [← hid]
    rfl
  · rw [processStreamFrame_of_reset _ f hrecv]
    refine .deaf s (.gotData s.streamId f.endOffset) hs hrecv (.inl ⟨f.endOffset, rfl⟩) ?_
    rw [Conn.setStream_eq_self hs]

theorem RecvMove.of_reset {s : Stream} {finalSize : ℕ} (hs : c.streams s.streamId = some s)
    (hallow : allow (.resetRecv c.toConnRecv s finalSize)) :
    RecvMove allow c ((Conn.setStream
      { c with toConnRecv := (processResetStreamFrame c.toConnRecv s finalSize).1 }
      (processResetStreamFrame c.toConnRecv s finalSize).2).addLog (.gotReset s.streamId finalSize)) := by
  by_cases hrecv : s.Receives
  · have heq : processResetStreamFrame c.toConnRecv s finalSize = _ := if_pos hrecv
    rw [heq]
    exact .reset s _ finalSize hs hrecv hallow rfl (lt_irrefl _) rfl rfl
  · have heq : processResetStreamFrame c.toConnRecv s finalSize = (c.toConnRecv, s) := if_neg hrecv
    rw [heq]
    refine .deaf s (.gotReset s.streamId finalSize) hs hrecv (.inr ⟨finalSize, rfl⟩) ?_
    rw [Conn.setStream_eq_self hs]

theorem RecvMove.of_read {s : Stream} (env : RecvEnv) (recvBufSize : ℕ)
    (hs : c.streams s.streamId = some s) :
    RecvMove allow c (Conn.setStream
      { c with toConnRecv := (streamRecv env c.toConnRecv s recvBufSize).conn }
      (streamRecv env c.toConnRecv s recvBufSize).stream) := by
  have hid := Stream.streamId_of_sendPart (streamRecv_sendPart c.toConnRecv s env recvBufSize)
  by_cases hrecv : s.Receives
  · refine .read s _ hs hrecv ?_ (fun h => streamRecv_readOn env _ recvBufSize hrecv h) rfl
    rw [← hid]
    rfl
  · have hconn : (streamRecv env c.toConnRecv s recvBufSize).conn = c.toConnRecv := by
      unfold streamRecv
      rw [if_pos (not_lt.1 hrecv)]
    have hstate : ¬ (streamRecv env c.toConnRecv s recvBufSize).stream.Receives := by
      unfold streamRecv Stream.Receives
      rw [if_pos (not_lt.1 hrecv), streamMaybeNeedClose_stateRecv]
      show ¬ RecvStreamState.resetRead.toNat < RecvStreamState.resetRecvd.toNat
      decide
    refine .quiet (.set hs rfl hid ⟨iff_of_false hstate hrecv, fun h => absurd h hrecv⟩ rfl ?_
      (logKept_refl rfl))
    exact ⟨congrArg (fun r => r.connFlowCtl.dataRecved) hconn,
      congrArg (fun r => r.connFlowCtl.dataRead) hconn⟩

/-- **What an elementary step does to the receiving halves and the counters.** -/
theorem ConnStep.recvMove (h : ConnStep allow c c') (hinv : LifeInv c) : RecvMove allow c c' := by
  cases h with
  | recvd pktNum pos f =>
      exact .quiet (.same rfl (Conn.life_of_silent rfl rfl) ⟨rfl, rfl⟩ (logKept_entry rfl rfl))
  | notified pktNum pos data hrecvd =>
      exact .quiet (.same rfl (Conn.life_of_silent rfl rfl) ⟨rfl, rfl⟩ (logKept_entry rfl rfl))
  | write f hf => exact .quiet (.write c f)
  | writeReset s errCode hs hstate hallow => exact .quiet (.write c _)
  | params p hexpects hbelow hcheck hallow => exact .quiet (.params c p)
  | maxData limit hlt hlimit hallow =>
      exact .quiet (.same rfl (Conn.life_of_silent rfl rfl) ⟨rfl, rfl⟩ (logKept_entry rfl rfl))
  | maxStreamData s limit hs hlt hlimit hallow =>
      exact .quiet (.set hs rfl rfl (.of_eq rfl rfl rfl rfl) (Conn.life_of_silent rfl rfl) ⟨rfl, rfl⟩
        (logKept_entry rfl rfl))
  | maxStreamsBidi limit hlt hlimit hallow =>
      exact .quiet (.same rfl (Conn.life_of_silent rfl rfl) ⟨rfl, rfl⟩ (logKept_entry rfl rfl))
  | maxStreamsUni limit hlt hlimit hallow =>
      exact .quiet (.same rfl (Conn.life_of_silent rfl rfl) ⟨rfl, rfl⟩ (logKept_entry rfl rfl))
  | streamWindow s hs hlt =>
      exact .quiet (.set hs rfl rfl (.of_eq rfl rfl rfl rfl) rfl ⟨rfl, rfl⟩ (logKept_refl rfl))
  | openPassive c' id hpeer hopen => exact .quiet (.openPassive hopen)
  | openPeer id accept hpeer hnone hpassive hallow =>
      obtain ⟨-, -, hgone⟩ := (hinv.passive id).1 hpassive
      exact .quiet (.inserted rfl rfl rfl hnone (fun ho => hgone (hinv.gone id ho hnone)) _ none false
        accept)
  | openLocal t settings accept ht hlimit hallow =>
      by_cases hbidi : t.isBidi = true
      · rw [if_pos hbidi]
        obtain ⟨hnew, hnone⟩ := hinv.next_new ht (if_pos hbidi).symm
        refine .quiet (.inserted ?_ ?_ ?_ hnone hnew t settings true accept) <;> rfl
      · rw [if_neg hbidi]
        obtain ⟨hnew, hnone⟩ := hinv.next_new ht (if_neg hbidi).symm
        refine .quiet (.inserted ?_ ?_ ?_ hnone hnew t settings true accept) <;> rfl
  | destroy id s hs hclose => exact .quiet (.destroyed hinv hs)
  | deliver s f hs hend hallow => exact .of_deliver hs hallow
  | resetRecv s finalSize hs hsize hallow => exact .of_reset hs hallow
  | read s env recvBufSize hs => exact .of_read env recvBufSize hs
  | firstWindow s maxSrtt hs =>
      have hframe := (raiseFirstWindow_frame c s maxSrtt).2
      refine .quiet (.set hs rfl ?_ ?_ rfl ⟨rfl, rfl⟩ (logKept_refl rfl))
      · rw [hframe]
      · rw [hframe]
        exact .of_eq rfl rfl rfl rfl
  | writeStream s fin payload sndq n hs hestab hstate hfin hconn hstream hwrite hallow =>
      exact .quiet (.set hs rfl rfl (.of_eq rfl rfl rfl rfl) (Conn.life_of_silent rfl rfl) ⟨rfl, rfl⟩
        (logKept_entry rfl rfl))
  | touch s s' hs hcore hstate hpending =>
      exact .quiet (.set hs rfl (Stream.streamId_of_core hcore) (.of_eq
        (congrArg Stream.streamDataIn hcore :) (congrArg Stream.streamStateRecv hcore :)
        (congrArg Stream.streamMaxRecvOffset hcore :) (congrArg Stream.discarded hcore :)) rfl ⟨rfl, rfl⟩
        (logKept_refl rfl))
  | _ => exact .quiet (.same rfl rfl ⟨rfl, rfl⟩ (logKept_refl rfl))

end Moves

/-! ## The ledger -/

/-- `fc_data_recved` and `fc_data_read` are the sums of what is written down for each stream. A stream that
is not reset has its highest offset and its read offset there. -/
structure RecvLedger (c : Conn) (recved read : StreamId → ℕ) : Prop where
  recvedSum : Tallies (2 ^ 64) c.openedIds recved c.connFlowCtl.dataRecved
  readSum : Tallies (2 ^ 64) c.openedIds read c.connFlowCtl.dataRead
  unopened : ∀ id ∉ c.openedIds, recved id = 0 ∧ read id = 0
  live : ∀ id s, c.lastState id = some s → s.Receives →
    s.Bounded ∧ recved id = s.streamMaxRecvOffset ∧ read id = s.streamDataIn.nextReadOffset
  le : ∀ id, read id ≤ recved id

section Ledger

variable {allow : ConnAct → Prop} {c c' : Conn} {recved read : StreamId → ℕ}

theorem openedIds_of_life (h : c'.life = c.life) : c'.openedIds = c.openedIds := by
  unfold Conn.openedIds
  rw [h]

theorem lastState_update {s s' : Stream} (hlife : c'.life = c.life)
    (hstreams : c'.streams = Function.update c.streams s.streamId (some s')) {id : StreamId} {s'' : Stream}
    (h : c'.lastState id = some s'') :
    (id = s.streamId ∧ s'' = s') ∨ (id ≠ s.streamId ∧ c.lastState id = some s'') := by
  by_cases hid : id = s.streamId
  · subst hid
    have hself : c'.streams s.streamId = some s' := by
      rw [hstreams, Function.update_self]
    rw [Conn.lastState_of_some hself] at h
    exact .inl ⟨rfl, (Option.some.inj h).symm⟩
  · refine .inr ⟨hid, ?_⟩
    rw [← h, lastState_eq hlife]
    rw [hstreams, Function.update_of_ne hid]

theorem connCreate_recvLedger (connType : ConnType) (settings : ConnSettings)
    (header : PktType → Bytes) :
    RecvLedger (connCreate connType settings header) (fun _ => 0) fun _ => 0 where
  recvedSum := rfl
  readSum := rfl
  unopened := fun _ _ => ⟨rfl, rfl⟩
  live := fun _ _ h => by cases h
  le := fun _ => le_rfl

theorem RecvLedger.quiet (h : RecvLedger c recved read) (hquiet : QuietRecv c c')
    (hsub : c.openedIds ⊆ c'.openedIds) : RecvLedger c' recved read := by
  refine ⟨?_, ?_, fun id hid => h.unopened id fun hmem => hid (hsub hmem), fun id s' hs' hrecv => ?_, h.le⟩
  · rw [hquiet.dataRecved]
    exact h.recvedSum.widen hsub fun id hid => (h.unopened id hid).1
  · rw [hquiet.dataRead]
    exact h.readSum.widen hsub fun id hid => (h.unopened id hid).2
  · rcases hquiet.states id s' hs' with ⟨s, hs, hsame⟩ | ⟨hid, accept, hnew⟩
    · have hrecv₀ := hsame.receives.1 hrecv
      obtain ⟨hin, hmax, -⟩ := hsame.kept hrecv₀
      obtain ⟨hbounded, hrecved, hread⟩ := h.live id s hs hrecv₀
      refine ⟨⟨?_, ?_⟩, ?_, ?_⟩
      · rw [hin, hmax]
        exact hbounded.buf
      · rw [hin, hmax]
        exact hbounded.next
      · rw [hmax]
        exact hrecved
      · rw [hin]
        exact hread
    · obtain ⟨hzero, hzero'⟩ := h.unopened id hid
      refine ⟨⟨?_, ?_⟩, ?_, ?_⟩
      · rw [hnew.dataIn]
        exact ⟨fun f hf => absurd hf List.not_mem_nil, Nat.zero_le _⟩
      · rw [hnew.dataIn]
        exact Nat.zero_le _
      · rw [hzero, hnew.maxRecvOffset]
      · rw [hzero', hnew.dataIn]

theorem RecvLedger.deaf (h : RecvLedger c recved read) {entry : LogEntry} (hentry : entry.isLife = false) :
    RecvLedger (c.addLog entry) recved read := by
  have hlife : (c.addLog entry).life = c.life := Conn.life_of_silent hentry rfl
  have hopened := openedIds_of_life hlife
  refine ⟨?_, ?_, ?_, fun id s hs => h.live id s ?_, h.le⟩
  · rw [hopened]
    exact h.recvedSum
  · rw [hopened]
    exact h.readSum
  · rw [hopened]
    exact h.unopened
  · rw [← hs, lastState_eq hlife]
    rfl

/-- The entries of one stream are changed, and the counters are moved by the differences. -/
theorem RecvLedger.post (h : RecvLedger c recved read) (hinv : LifeInv c) {s s' : Stream}
    (hs : c.streams s.streamId = some s) (hlife : c'.life = c.life)
    (hstreams : c'.streams = Function.update c.streams s.streamId (some s')) {m n d e : ℕ}
    (hrecved : c'.connFlowCtl.dataRecved = (c.connFlowCtl.dataRecved + d) % 2 ^ 64)
    (hread : c'.connFlowCtl.dataRead = (c.connFlowCtl.dataRead + e) % 2 ^ 64)
    (hd : recved s.streamId + d ≡ m [MOD 2 ^ 64]) (he : read s.streamId + e ≡ n [MOD 2 ^ 64])
    (hle : n ≤ m)
    (hlive : s'.Receives → s'.Bounded ∧ m = s'.streamMaxRecvOffset ∧ n = s'.streamDataIn.nextReadOffset) :
    RecvLedger c' (Function.update recved s.streamId m) (Function.update read s.streamId n) := by
  have hopened := openedIds_of_life hlife
  have hmem : s.streamId ∈ c.openedIds := Conn.mem_openedIds.2 (hinv.stored _ s hs)
  refine ⟨?_, ?_, fun id hid => ?_, fun id s'' hs'' hrecv => ?_, fun id => ?_⟩
  · rw [hopened, hrecved]
    exact h.recvedSum.post hmem hd
  · rw [hopened, hread]
    exact h.readSum.post hmem he
  · rw [hopened] at hid
    have hne : id ≠ s.streamId := fun heq => hid (heq ▸ hmem)
    rw [Function.update_of_ne hne, Function.update_of_ne hne]
    exact h.unopened id hid
  · rcases lastState_update hlife hstreams hs'' with ⟨rfl, rfl⟩ | ⟨hne, hold⟩
    · rw [Function.update_self, Function.update_self]
      exact hlive hrecv
    · rw [Function.update_of_ne hne, Function.update_of_ne hne]
      exact h.live id s'' hold hrecv
  · by_cases hid : id = s.streamId
    · subst hid
      rw [Function.update_self, Function.update_self]
      exact hle
    · rw [Function.update_of_ne hid, Function.update_of_ne hid]
      exact h.le id

theorem Tallies.stay {S : Finset StreamId} {f : StreamId → ℕ} {n : ℕ} (h : Tallies (2 ^ 64) S f n) :
    n = (n + 0) % 2 ^ 64 := by
  rw [Nat.add_zero, Nat.mod_eq_of_lt (h.lt (by decide))]

theorem RecvLedger.deliver (h : RecvLedger c recved read) (hinv : LifeInv c) {s s' : Stream}
    {f : StreamFrame} (hs : c.streams s.streamId = some s) (hrecv : s.Receives)
    (hstreams : c'.streams = Function.update c.streams s.streamId (some s'))
    (hdelivered : s.Bounded → Delivered c.toConnRecv s f c'.toConnRecv s')
    (hlog : c'.log = c.log ++ [.gotData s.streamId f.endOffset]) :
    Delivered c.toConnRecv s f c'.toConnRecv s' ∧
      RecvLedger c' (Function.update recved s.streamId s'.streamMaxRecvOffset) read := by
  obtain ⟨hbounded, hrecved, hread⟩ := h.live _ s (Conn.lastState_of_some hs) hrecv
  have hd := hdelivered hbounded
  have hgrows := hd.grows
  refine ⟨hd, ?_⟩
  rw [← Function.update_eq_self s.streamId read]
  refine h.post (d := s'.streamMaxRecvOffset - s.streamMaxRecvOffset) (e := 0) hinv hs
    (Conn.life_of_silent rfl hlog) hstreams ?_ ?_ ?_ ?_ ?_ ?_
  · rw [hd.flowCtl]
    split_ifs with hlt
    · rfl
    · rw [Nat.sub_eq_zero_of_le (not_lt.1 hlt)]
      exact h.recvedSum.stay
  · rw [hd.flowCtl]
    split_ifs
    · exact h.readSum.stay
    · exact h.readSum.stay
  · rw [hrecved, Nat.add_sub_cancel' hgrows]
  · rfl
  · rw [hread]
    exact hbounded.next.trans hgrows
  · exact fun _ => ⟨hd.bounded, rfl, by rw [hread, hd.next]⟩

theorem add_u64Sub (m n : ℕ) : m + u64Sub n m ≡ n [MOD 2 ^ 64] := by
  unfold u64Sub Nat.ModEq
  omega

theorem RecvLedger.reset (h : RecvLedger c recved read) (hinv : LifeInv c) {s s' : Stream}
    {finalSize : ℕ} (hs : c.streams s.streamId = some s) (hrecv : s.Receives)
    (hstreams : c'.streams = Function.update c.streams s.streamId (some s')) (hreset : ¬ s'.Receives)
    (hflow : c'.connFlowCtl = { c.connFlowCtl with
      dataRecved := u64Add c.connFlowCtl.dataRecved (u64Sub finalSize s.streamMaxRecvOffset)
      dataRead :=
        u64Add c.connFlowCtl.dataRead (u64Sub finalSize s.streamDataIn.nextReadOffset) })
    (hlog : c'.log = c.log ++ [.gotReset s.streamId finalSize]) :
    RecvLedger c' (Function.update recved s.streamId finalSize)
      (Function.update read s.streamId finalSize) := by
  obtain ⟨-, hrecved, hread⟩ := h.live _ s (Conn.lastState_of_some hs) hrecv
  refine h.post (d := u64Sub finalSize s.streamMaxRecvOffset)
    (e := u64Sub finalSize s.streamDataIn.nextReadOffset) hinv hs (Conn.life_of_silent rfl hlog) hstreams
    ?_ ?_ ?_ ?_ le_rfl fun hrecv' => absurd hrecv' hreset
  · rw [hflow]
    rfl
  · rw [hflow]
    rfl
  · rw [hrecved]
    exact add_u64Sub _ _
  · rw [hread]
    exact add_u64Sub _ _

theorem RecvLedger.readOn (h : RecvLedger c recved read) (hinv : LifeInv c) {s s' : Stream}
    (hs : c.streams s.streamId = some s) (hrecv : s.Receives)
    (hstreams : c'.streams = Function.update c.streams s.streamId (some s'))
    (hread : s.Bounded → ReadOn c.toConnRecv s c'.toConnRecv s') (hlog : c'.log = c.log) :
    ReadOn c.toConnRecv s c'.toConnRecv s' ∧
      RecvLedger c' recved (Function.update read s.streamId s'.streamDataIn.nextReadOffset) := by
  obtain ⟨hbounded, hrecved, hnext⟩ := h.live _ s (Conn.lastState_of_some hs) hrecv
  have hr := hread hbounded
  have hgrows := hr.next
  refine ⟨hr, ?_⟩
  have hlife : c'.life = c.life := by
    unfold Conn.life
    rw [hlog]
  rw [← Function.update_eq_self s.streamId recved]
  refine h.post (d := 0) (e := s'.streamDataIn.nextReadOffset - s.streamDataIn.nextReadOffset) hinv hs hlife
    hstreams ?_ ?_ ?_ ?_ ?_ ?_
  · rw [hr.dataRecved]
    exact h.recvedSum.stay
  · rw [hr.dataRead]
    rfl
  · rfl
  · rw [hnext, Nat.add_sub_cancel' hgrows]
  · rw [hrecved, ← hr.max]
    exact hr.bounded.next
  · exact fun _ => ⟨hr.bounded, hrecved.trans hr.max.symm, rfl⟩

end Ledger

end Rquic
