import Rquic.Conn.RecvLedger
import Rquic.Stream.RecvWindow

set_option autoImplicit false

/-!
# The limits for receiving

The limits that the endpoint enforces are raised by reads, by the first write of a stream and by frames
of the peer that say it is blocked. As long as the peer does not name more data than its counters can
hold, they are never lowered.

* `Conn.RecvSized`: the windows of the connection and of its streams are small.
* `LimitsGrow`: what a step does to the limits.
* **`ConnStep.limitsGrow`**: every elementary step does that.
* `Conn.reach`, `Conn.reachTotal`: how far the frames of the peer reach.
* `RecvInv`: the counters are the sums of a ledger, within what the frames reach.
* **`RecvInv.step`**: it is kept, and the limits grow.
-/

namespace Rquic

/-! ## Limits -/

/-- The windows are small. -/
structure Conn.RecvSized (c : Conn) : Prop where
  conn : c.toConnRecv.Sized
  streams : ∀ id s, c.streams id = some s → s.Sized
  /-- A new stream gets the limit of a client-initiated bidirectional one. -/
  init : recvLimit c.connType .cliBid c.localSettings < 2 ^ 32

/-- The limits for receiving stay or are raised. -/
structure LimitsGrow (c c' : Conn) : Prop where
  settings : c'.localSettings = c.localSettings
  connLimit : c.connFlowCtl.maxDataCanRecv ≤ c'.connFlowCtl.maxDataCanRecv
  connSized : c'.toConnRecv.Sized
  streams : ∀ id s', c'.streams id = some s' → s'.Sized ∧
    ((∃ s, c.streams id = some s ∧
        s.streamFlowCtl.maxStreamDataCanRecv ≤ s'.streamFlowCtl.maxStreamDataCanRecv) ∨
      (¬ c.Opened id ∧
        s'.streamFlowCtl.maxStreamDataCanRecv = recvLimit c.connType .cliBid c.localSettings))

section Limits

variable {allow : ConnAct → Prop} {c c' : Conn}

theorem ConnRecv.Sized.of_eq {r r' : ConnRecv} (h : r.Sized)
    (hlimit : r'.connFlowCtl.maxDataCanRecv = r.connFlowCtl.maxDataCanRecv)
    (hwindow : r'.connFlowCtl.recvWindowsSize = r.connFlowCtl.recvWindowsSize) : r'.Sized :=
  ⟨hlimit.trans_lt h.limit, hwindow.trans_lt h.window⟩

/-- The streams and the limit of the connection stay as they are. -/
theorem LimitsGrow.same (h : c.RecvSized) (hstreams : c'.streams = c.streams)
    (hsettings : c'.localSettings = c.localSettings)
    (hlimit : c'.connFlowCtl.maxDataCanRecv = c.connFlowCtl.maxDataCanRecv)
    (hwindow : c'.connFlowCtl.recvWindowsSize = c.connFlowCtl.recvWindowsSize) : LimitsGrow c c' := by
  refine ⟨hsettings, hlimit.ge, h.conn.of_eq hlimit hwindow, fun id s' hs' => ?_⟩
  rw [hstreams] at hs'
  exact ⟨h.streams id s' hs', .inl ⟨s', hs', le_rfl⟩⟩

theorem LimitsGrow.set (h : c.RecvSized) {s s' : Stream} (hs : c.streams s.streamId = some s)
    (hstreams : c'.streams = (c.setStream s').streams) (hid : s'.streamId = s.streamId)
    (hsettings : c'.localSettings = c.localSettings)
    (hmoved : WindowMoved c.toConnRecv s c'.toConnRecv s') : LimitsGrow c c' := by
  refine ⟨hsettings, hmoved.connLimit, hmoved.connSized, fun id s'' hs'' => ?_⟩
  rw [hstreams] at hs''
  by_cases heq : id = s'.streamId
  · subst heq
    rw [Conn.setStream_streams_self] at hs''
    obtain rfl := Option.some.inj hs''
    refine ⟨hmoved.sized, .inl ⟨s, ?_, hmoved.limit⟩⟩
    rw [hid]
    exact hs
  · rw [Conn.setStream_streams_of_ne c s' heq] at hs''
    exact ⟨h.streams id s'' hs'', .inl ⟨s'', hs'', le_rfl⟩⟩

theorem WindowMoved.of_recv (h : c.RecvSized) {s s' : Stream} {r' : ConnRecv}
    (hs : c.streams s.streamId = some s)
    (hlimit : r'.connFlowCtl.maxDataCanRecv = c.connFlowCtl.maxDataCanRecv)
    (hwindow : r'.connFlowCtl.recvWindowsSize = c.connFlowCtl.recvWindowsSize)
    (hlimit' : s'.streamFlowCtl.maxStreamDataCanRecv = s.streamFlowCtl.maxStreamDataCanRecv)
    (hwindow' : s'.streamFlowCtl.streamRecvWindowSize = s.streamFlowCtl.streamRecvWindowSize)
    (hmax : s'.streamMaxRecvOffset = s.streamMaxRecvOffset) (hin : s'.streamDataIn = s.streamDataIn) :
    WindowMoved c.toConnRecv s r' s' := by
  have hsized := h.streams _ s hs
  refine ⟨hlimit.ge, h.conn.of_eq hlimit hwindow, hlimit'.ge, ⟨?_, ?_, ?_, ?_⟩⟩
  · exact hlimit'.trans_lt hsized.limit
  · exact hwindow'.trans_lt hsized.window
  · exact hmax.trans_lt hsized.max
  · rw [hin]
    exact hsized.next

theorem LimitsGrow.inserted {c₀ : Conn} (h : c.RecvSized) (hstreams : c₀.streams = c.streams)
    (hconn : c₀.toConnRecv = c.toConnRecv) (hsettings : c₀.localSettings = c.localSettings)
    {id : StreamId} (hnone : c.streams id = none) (hnew : ¬ c.Opened id) (t : StreamType)
    (settings : Option StreamSettings) (isLocal accept : Bool) :
    LimitsGrow c (insertStream c₀ id t settings isLocal accept).1 := by
  have hnone₀ : c₀.streams id = none := by rw [hstreams]; exact hnone
  have hlimit₀ : recvLimit c₀.connType .cliBid c₀.localSettings =
      recvLimit c.connType .cliBid c.localSettings := by
    rw [hconn, hsettings]
  unfold insertStream
  rw [hnone₀]
  dsimp only
  refine ⟨hsettings, ?_, ?_, fun id' s' hs' => ?_⟩
  · exact le_of_eq (congrArg (fun r => r.connFlowCtl.maxDataCanRecv) hconn).symm
  · exact h.conn.of_eq (congrArg (fun r => r.connFlowCtl.maxDataCanRecv) hconn)
      (congrArg (fun r => r.connFlowCtl.recvWindowsSize) hconn)
  · by_cases hid : id' = id
    · subst hid
      change Function.update c₀.streams id' (some _) id' = some s' at hs'
      rw [Function.update_self] at hs'
      obtain rfl := Option.some.inj hs'
      have hlt : recvLimit c₀.connType .cliBid c₀.localSettings < 2 ^ 32 := hlimit₀.trans_lt h.init
      exact ⟨⟨hlt.trans (by decide), hlt, Nat.two_pow_pos 62, Nat.two_pow_pos 62⟩, .inr ⟨hnew, hlimit₀⟩⟩
    · change Function.update c₀.streams id (some _) id' = some s' at hs'
      rw [Function.update_of_ne hid, hstreams] at hs'
      exact ⟨h.streams id' s' hs', .inl ⟨s', hs', le_rfl⟩⟩

theorem raiseFirstWindow_moved {s : Stream} (maxSrtt : ℕ) (h : s.Sized) :
    s.streamFlowCtl.maxStreamDataCanRecv ≤
        (raiseFirstWindow c s maxSrtt).2.streamFlowCtl.maxStreamDataCanRecv ∧
      (raiseFirstWindow c s maxSrtt).2.Sized := by
  have hwindow : firstWriteWindow c s maxSrtt < 2 ^ 32 := by
    have hmax : maxRecvWindow < 2 ^ 32 := by decide
    unfold firstWriteWindow
    split_ifs
    · exact (min_le_left _ _).trans_lt hmax
    · exact hmax
  have hnext := h.next
  unfold raiseFirstWindow
  by_cases hfirst : c.connSettings.enableStreamRateLimit = true ∧ s.streamSendOffset = 0 ∧
      s.streamType = .cliBid
  · rw [if_pos hfirst]
    dsimp only
    by_cases hlt : u64Sub s.streamFlowCtl.maxStreamDataCanRecv s.streamDataIn.nextReadOffset <
        firstWriteWindow c s maxSrtt
    · rw [if_pos hlt]
      obtain ⟨heq, hle⟩ := u64Add_window h.limit (by omega) hlt
      exact ⟨hle.trans_eq heq.symm, ⟨Nat.mod_lt _ (by decide), hwindow, h.max, h.next⟩⟩
    · rw [if_neg hlt]
      exact ⟨le_rfl, ⟨h.limit, hwindow, h.max, h.next⟩⟩
  · rw [if_neg hfirst]
    exact ⟨le_rfl, h⟩

/-- **Every elementary step raises the limits for receiving or leaves them as they are.** -/
theorem ConnStep.limitsGrow (h : ConnStep allow c c') (hinv : LifeInv c) (hsized : c.RecvSized)
    (hbounded : ∀ id s, c.streams id = some s → s.Receives → s.Bounded)
    (hread : c'.connFlowCtl.dataRead < 2 ^ 63) : LimitsGrow c c' := by
  cases h with
  | write f hf =>
      have hframe := c.write_frame f
      generalize (c.write f).1 = c' at hframe ⊢
      rw [hframe]
      exact .same hsized rfl rfl rfl rfl
  | writeReset s errCode hs hstate hallow =>
      have hframe := c.write_frame (.resetStream s.streamId errCode s.streamSendOffset)
      generalize (c.write (.resetStream s.streamId errCode s.streamSendOffset)).1 = c' at hframe ⊢
      rw [hframe]
      exact .same hsized rfl rfl rfl rfl
  | params p hexpects hbelow hcheck hallow =>
      refine ⟨rfl, le_rfl, hsized.conn.of_eq rfl rfl, fun id s' hs' => ?_⟩
      obtain ⟨s, hs, rfl⟩ := Option.map_eq_some_iff.1 hs'
      have hs₀ := hsized.streams id s hs
      exact ⟨⟨hs₀.limit, hs₀.window, hs₀.max, hs₀.next⟩, .inl ⟨s, hs, le_rfl⟩⟩
  | maxStreamData s limit hs hlt hlimit hallow =>
      exact .set hsized hs rfl rfl rfl (.of_recv hsized hs rfl rfl rfl rfl rfl rfl)
  | window hlt =>
      refine ⟨rfl, hlt.le, ⟨Nat.mod_lt _ (by decide), hsized.conn.window⟩, fun id s' hs' => ?_⟩
      exact ⟨hsized.streams id s' hs', .inl ⟨s', hs', le_rfl⟩⟩
  | streamWindow s hs hlt =>
      have hs₀ := hsized.streams _ s hs
      exact .set hsized hs rfl rfl rfl
        ⟨le_rfl, hsized.conn, hlt.le, ⟨Nat.mod_lt _ (by decide), hs₀.window, hs₀.max, hs₀.next⟩⟩
  | openPassive c' id hpeer hopen =>
      unfold Rquic.openPassive at hopen
      split_ifs at hopen <;> obtain rfl := Option.some.inj hopen
      · rw [insertPassiveStreamHash_frame]
        exact .same hsized rfl rfl rfl rfl
      · rw [insertPassiveStreamHash_frame]
        exact .same hsized rfl rfl rfl rfl
      · exact .same hsized rfl rfl rfl rfl
  | openPeer id accept hpeer hnone hpassive hallow =>
      obtain ⟨-, -, hgone⟩ := (hinv.passive id).1 hpassive
      exact .inserted hsized rfl rfl rfl hnone (fun ho => hgone (hinv.gone id ho hnone)) _ none false
        accept
  | openLocal t settings accept ht hlimit hallow =>
      by_cases hbidi : t.isBidi = true
      · rw [if_pos hbidi]
        obtain ⟨hnew, hnone⟩ := hinv.next_new ht (if_pos hbidi).symm
        refine .inserted hsized ?_ ?_ ?_ hnone hnew t settings true accept <;> rfl
      · rw [if_neg hbidi]
        obtain ⟨hnew, hnone⟩ := hinv.next_new ht (if_neg hbidi).symm
        refine .inserted hsized ?_ ?_ ?_ hnone hnew t settings true accept <;> rfl
  | destroy id s hs hclose =>
      refine ⟨rfl, le_rfl, hsized.conn, fun id' s' hs' => ?_⟩
      change Function.update c.streams id none id' = some s' at hs'
      by_cases hid : id' = id
      · subst hid
        rw [Function.update_self] at hs'
        cases hs'
      · rw [Function.update_of_ne hid] at hs'
        exact ⟨hsized.streams id' s' hs', .inl ⟨s', hs', le_rfl⟩⟩
  | deliver s f hs hend hallow =>
      have hid := Stream.streamId_of_sendPart (processStreamFrame_sendPart c.toConnRecv s f)
      exact .set hsized hs rfl hid rfl
        (processStreamFrame_windowMoved hsized.conn (hsized.streams _ s hs) hend (hbounded _ s hs))
  | resetRecv s finalSize hs hsize hallow =>
      have hid := Stream.streamId_of_sendPart (processResetStreamFrame_sendPart c.toConnRecv s finalSize)
      refine .set hsized hs rfl hid rfl ?_
      have hs₀ := hsized.streams _ s hs
      unfold processResetStreamFrame
      by_cases hrecv : s.streamStateRecv.toNat < RecvStreamState.resetRecvd.toNat
      · rw [if_pos hrecv]
        exact .same hsized.conn hs₀ rfl rfl rfl hs₀.max hs₀.next
      · rw [if_neg hrecv]
        exact .same hsized.conn hs₀ rfl rfl rfl hs₀.max hs₀.next
  | read s env recvBufSize hs =>
      have hid := Stream.streamId_of_sendPart (streamRecv_sendPart c.toConnRecv s env recvBufSize)
      exact .set hsized hs rfl hid rfl
        (streamRecv_windowMoved env recvBufSize hsized.conn (hsized.streams _ s hs) (hbounded _ s hs) hread)
  | firstWindow s maxSrtt hs =>
      obtain ⟨hlimit, hs'⟩ := raiseFirstWindow_moved (c := c) maxSrtt (hsized.streams _ s hs)
      refine .set hsized hs rfl ?_ rfl ⟨le_rfl, hsized.conn, hlimit, hs'⟩
      rw [(raiseFirstWindow_frame c s maxSrtt).2]
  | writeStream s fin payload sndq n hs hestab hstate hfin hconn hstream hwrite hallow =>
      exact .set hsized hs rfl rfl rfl (.of_recv hsized hs rfl rfl rfl rfl rfl rfl)
  | touch s s' hs hcore hstate hpending =>
      refine .set hsized hs rfl (Stream.streamId_of_core hcore) rfl (.of_recv hsized hs rfl rfl ?_ ?_ ?_ ?_)
      · exact congrArg (fun s => s.streamFlowCtl.maxStreamDataCanRecv) hcore
      · exact congrArg (fun s => s.streamFlowCtl.streamRecvWindowSize) hcore
      · exact (congrArg Stream.streamMaxRecvOffset hcore :)
      · exact (congrArg Stream.streamDataIn hcore :)
  | _ => exact .same hsized rfl rfl rfl rfl

end Limits

/-! ## How far the peer goes -/

/-- How far a frame that reached the stream goes. -/
def LogEntry.reach (id : StreamId) : LogEntry → ℕ
  | .gotData id' n | .gotReset id' n => if id' = id then n else 0
  | _ => 0

/-- The largest number in a history. -/
def largestIn (measure : LogEntry → ℕ) : List LogEntry → ℕ
  | [] => 0
  | entry :: log => max (measure entry) (largestIn measure log)

namespace Conn

/-- How far the STREAM and RESET_STREAM frames that reached the stream go. -/
def reach (c : Conn) (id : StreamId) : ℕ := largestIn (LogEntry.reach id) c.log

/-- The data that the peer has named, on all streams. -/
def reachTotal (c : Conn) : ℕ := ∑ id ∈ c.openedIds, c.reach id

end Conn

theorem largestIn_append (measure : LogEntry → ℕ) (log log' : List LogEntry) :
    largestIn measure (log ++ log') = max (largestIn measure log) (largestIn measure log') := by
  induction log with
  | nil => exact (Nat.zero_max _).symm
  | cons entry log ih => rw [List.cons_append, largestIn, largestIn, ih, max_assoc]

/-- The counters are the sums of a ledger, and every stream has at most what the frames of the peer
reach. -/
structure RecvInv (c : Conn) : Prop where
  life : LifeInv c
  ledger : ∃ recved read, RecvLedger c recved read ∧ ∀ id, recved id ≤ c.reach id
  sized : c.reachTotal < 2 ^ 63 → c.RecvSized

section Reach

variable {allow : ConnAct → Prop} {c c' : Conn} {recved read : StreamId → ℕ}

theorem ConnStep.reach_le (h : ConnStep allow c c') (id : StreamId) : c.reach id ≤ c'.reach id := by
  obtain ⟨l, hl, -⟩ := h.log
  unfold Conn.reach
  rw [hl, largestIn_append]
  exact le_max_left _ _

theorem ConnStep.reachTotal_le (h : ConnStep allow c c') : c.reachTotal ≤ c'.reachTotal :=
  calc ∑ id ∈ c.openedIds, c.reach id ≤ ∑ id ∈ c.openedIds, c'.reach id :=
        Finset.sum_le_sum fun id _ => h.reach_le id
    _ ≤ ∑ id ∈ c'.openedIds, c'.reach id := Finset.sum_le_sum_of_subset h.openedIds_subset

theorem reach_entry {entry : LogEntry} (hlog : c'.log = c.log ++ [entry]) (id : StreamId) :
    c'.reach id = max (c.reach id) (entry.reach id) := by
  unfold Conn.reach
  rw [hlog, largestIn_append, largestIn, largestIn, Nat.max_zero]

theorem RecvMove.ledger (h : RecvMove allow c c') (hstep : ConnStep allow c c') (hinv : LifeInv c)
    (hledger : RecvLedger c recved read) (hreach : ∀ id, recved id ≤ c.reach id) :
    ∃ recved' read', RecvLedger c' recved' read' ∧ ∀ id, recved' id ≤ c'.reach id := by
  have hle : ∀ id, recved id ≤ c'.reach id := fun id => (hreach id).trans (hstep.reach_le id)
  -- one account is raised to at most what the frame names
  have hupdate : ∀ (id : StreamId) (m : ℕ), m ≤ c'.reach id →
      ∀ id', Function.update recved id m id' ≤ c'.reach id' := by
    intro id m hm id'
    by_cases hid : id' = id
    · subst hid
      rw [Function.update_self]
      exact hm
    · rw [Function.update_of_ne hid]
      exact hle id'
  cases h with
  | quiet hquiet => exact ⟨recved, read, hledger.quiet hquiet hstep.openedIds_subset, hle⟩
  | deaf s entry hs hreset hentry hc =>
      subst hc
      refine ⟨recved, read, hledger.deaf ?_, hle⟩
      rcases hentry with ⟨n, rfl⟩ | ⟨n, rfl⟩ <;> rfl
  | deliver s s' f hs hrecv hallow hstreams hdelivered hlog =>
      obtain ⟨hd, hnext⟩ := hledger.deliver hinv hs hrecv hstreams hdelivered hlog
      refine ⟨_, _, hnext, hupdate _ _ (hd.le.trans ?_)⟩
      obtain ⟨-, hrecved, -⟩ := hledger.live _ s (Conn.lastState_of_some hs) hrecv
      rw [reach_entry hlog, LogEntry.reach, if_pos rfl, ← hrecved]
      exact max_le_max (hreach _) le_rfl
  | reset s s' finalSize hs hrecv hallow hstreams hreset hflow hlog =>
      refine ⟨_, _, hledger.reset hinv hs hrecv hstreams hreset hflow hlog, hupdate _ _ ?_⟩
      rw [reach_entry hlog, LogEntry.reach, if_pos rfl]
      exact le_max_right _ _
  | read s s' hs hrecv hstreams hread hlog =>
      exact ⟨_, _, (hledger.readOn hinv hs hrecv hstreams hread hlog).2, hle⟩

/-- What was read, and received, is at most what the peer has named. -/
theorem RecvLedger.dataRead_le (h : RecvLedger c recved read) (hreach : ∀ id, recved id ≤ c.reach id)
    (hlt : c.reachTotal < 2 ^ 63) :
    c.connFlowCtl.dataRead ≤ c.reachTotal ∧ c.connFlowCtl.dataRecved ≤ c.reachTotal := by
  have hrecved : ∑ id ∈ c.openedIds, recved id ≤ c.reachTotal := Finset.sum_le_sum fun id _ => hreach id
  have hread : ∑ id ∈ c.openedIds, read id ≤ ∑ id ∈ c.openedIds, recved id :=
    Finset.sum_le_sum fun id _ => h.le id
  have hbound : (2 : ℕ) ^ 63 ≤ 2 ^ 64 := by decide
  constructor
  · rw [h.readSum.exact ((hread.trans hrecved).trans_lt (hlt.trans_le hbound))]
    exact hread.trans hrecved
  · rw [h.recvedSum.exact (hrecved.trans_lt (hlt.trans_le hbound))]
    exact hrecved

/-- **The ledger is kept, and the limits grow** as long as the peer does not name too much data. -/
theorem RecvInv.step (h : RecvInv c) (hstep : ConnStep allow c c') :
    RecvInv c' ∧ (c'.reachTotal < 2 ^ 63 → LimitsGrow c c') := by
  obtain ⟨recved, read, hledger, hreach⟩ := h.ledger
  obtain ⟨recved', read', hledger', hreach'⟩ :=
    (hstep.recvMove h.life).ledger hstep h.life hledger hreach
  have hgrow : c'.reachTotal < 2 ^ 63 → LimitsGrow c c' := by
    intro hlt
    refine hstep.limitsGrow h.life (h.sized (hstep.reachTotal_le.trans_lt hlt)) (fun id s hs hrecv => ?_)
      ((hledger'.dataRead_le hreach' hlt).1.trans_lt hlt)
    exact (hledger.live id s (Conn.lastState_of_some hs) hrecv).1
  refine ⟨⟨hstep.lifeInv h.life, ⟨recved', read', hledger', hreach'⟩, fun hlt => ?_⟩, hgrow⟩
  have hlimits := hgrow hlt
  have hsized := h.sized (hstep.reachTotal_le.trans_lt hlt)
  refine ⟨hlimits.connSized, fun id s hs => (hlimits.streams id s hs).1, ?_⟩
  rw [hstep.mono.connType, hlimits.settings]
  exact hsized.init

theorem recvLimit_lt (connType : ConnType) (t : StreamType) {settings : ConnSettings}
    (hinit : settings.initRecvWindow < 2 ^ 32) :
    recvLimit connType t (initTransSettings settings.corrected) < 2 ^ 32 := by
  have hmax : maxRecvWindow < 2 ^ 32 := by decide
  have hlocal : (initTransSettings settings.corrected).maxStreamDataBidiLocal < 2 ^ 32 := by
    unfold initTransSettings ConnSettings.corrected
    dsimp only
    split_ifs
    · exact max_lt hinit (by decide)
    · decide
    · exact hmax
  cases connType <;> cases t <;> first | exact hlocal | exact hmax

theorem connCreate_recvInv (connType : ConnType) {settings : ConnSettings} (header : PktType → Bytes)
    (hinit : settings.initRecvWindow < 2 ^ 32) : RecvInv (connCreate connType settings header) := by
  refine ⟨connCreate_lifeInv connType settings header,
    ⟨_, _, connCreate_recvLedger connType settings header, fun _ => le_rfl⟩, fun _ => ⟨?_, ?_, ?_⟩⟩
  · have hdata : (initTransSettings settings.corrected).maxData < 2 ^ 43 := by
      have hlocal := recvLimit_lt .client .cliBid hinit
      have hmax : maxRecvWindow = 4 * 1024 * 1024 := rfl
      change (initTransSettings settings.corrected).maxStreamDataBidiLocal < 2 ^ 32 at hlocal
      unfold initTransSettings at hlocal ⊢
      dsimp only at hlocal ⊢
      generalize (if settings.corrected.enableStreamRateLimit = true then settings.corrected.initRecvWindow
        else maxRecvWindow) = bidiLocal at hlocal ⊢
      split_ifs
      · exact (min_le_left _ _).trans_lt (by rw [hmax]; norm_num)
      · omega
    exact ⟨hdata.trans (by decide), hdata⟩
  · intro id s hs
    cases hs
  · exact recvLimit_lt connType .cliBid hinit

end Reach

end Rquic
