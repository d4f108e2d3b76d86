import Rquic.Conn.PeerStreams

set_option autoImplicit false

/-!
# The limits that the peer advertised

The largest limits in what a connection has received, and how a step changes the limits that the
connection sends by.

* `largestRecvd`: the largest limit in the frames of a history.
* `Conn.advertisedStreams`: the number of streams that the peer allows.
* `SendLimits`: what a step leaves of the limits for sending.
* `BeganInv`: before the handshake is received, nothing is written on a stream.
-/

namespace Rquic

/-! ## Limits in the history -/

/-- The limit in a received frame. -/
def LogEntry.limit (limitOf : Frame → ℕ) : LogEntry → ℕ
  | .recvd _ _ f => limitOf f
  | _ => 0

/-- The largest limit in the frames that were received. -/
def largestRecvd (limitOf : Frame → ℕ) : List LogEntry → ℕ
  | [] => 0
  | entry :: log => max (entry.limit limitOf) (largestRecvd limitOf log)

/-- The limit of a MAX_STREAMS frame. -/
def maxStreamsOf (bidirectional : Bool) : Frame → ℕ
  | .maxStreams bidirectional' limit => if bidirectional' = bidirectional then limit else 0
  | _ => 0

/-- `max_streams_bidi` or `max_streams_uni`. -/
def TransSettings.maxStreams (settings : TransSettings) (bidirectional : Bool) : ℕ :=
  if bidirectional then settings.maxStreamsBidi else settings.maxStreamsUni

namespace Conn

/-- The number of streams of a direction that the connection takes as allowed. -/
def maxStreamsCanSend (c : Conn) (bidirectional : Bool) : ℕ :=
  if bidirectional then c.connFlowCtl.maxStreamsBidiCanSend else c.connFlowCtl.maxStreamsUniCanSend

/-- The largest number of streams of a direction that the peer has advertised. -/
def advertisedStreams (c : Conn) (bidirectional : Bool) : ℕ :=
  max (c.remoteSettings.maxStreams bidirectional) (largestRecvd (maxStreamsOf bidirectional) c.log)

end Conn

section Largest

variable (limitOf : Frame → ℕ)

theorem largestRecvd_append (log log' : List LogEntry) :
    largestRecvd limitOf (log ++ log') =
      max (largestRecvd limitOf log) (largestRecvd limitOf log') := by
  induction log with
  | nil => exact (Nat.zero_max _).symm
  | cons entry log ih =>
      rw [List.cons_append, largestRecvd, largestRecvd, ih, max_assoc]

theorem largestRecvd_le_append (log log' : List LogEntry) :
    largestRecvd limitOf log ≤ largestRecvd limitOf (log ++ log') := by
  rw [largestRecvd_append]
  exact le_max_left _ _

end Largest

/-! ## The limits for sending -/

/-- What a step leaves of the limits for sending. -/
structure SendLimits (allow : ConnAct → Prop) (c c' : Conn) : Prop where
  remoteSettings : c'.remoteSettings = c.remoteSettings
  streams : ∀ bidirectional, c'.maxStreamsCanSend bidirectional = c.maxStreamsCanSend bidirectional ∨
    (c.maxStreamsCanSend bidirectional < c'.maxStreamsCanSend bidirectional ∧
      allow (.limit (.maxStreams bidirectional (c'.maxStreamsCanSend bidirectional))))
  recvd : c'.handshakeRecvd = true →
    c.handshakeRecvd = true ∨ (c.LimitsApplied ∧ allow .accept)
  accepted : c'.connState.accepted = true → c.connState.accepted = true ∨ c'.handshakeRecvd = true

/-- The parameters of the peer are applied. -/
def Conn.applyParams (c : Conn) (p : TransportParams) : Conn :=
  updateFlowCtlSettings (setRemoteTransportParams c p)

section SendLimits

variable {allow : ConnAct → Prop} {c c' : Conn}

theorem SendLimits.of_eq (hremote : c'.remoteSettings = c.remoteSettings)
    (hstreams : c'.maxStreamsCanSend = c.maxStreamsCanSend)
    (hrecvd : c'.handshakeRecvd = c.handshakeRecvd) (hstate : c'.connState = c.connState) :
    SendLimits allow c c' := by
  refine ⟨hremote, fun bidirectional => .inl (congrFun hstreams bidirectional), fun h => .inl ?_,
    fun h => .inl ?_⟩
  · rw [← hrecvd]
    exact h
  · rw [← hstate]
    exact h

theorem SendLimits.write (c : Conn) (f : ControlFrame) : SendLimits allow c (c.write f).1 := by
  rw [Conn.write_frame]
  exact .of_eq rfl rfl rfl rfl

theorem SendLimits.openPassive {id : StreamId} (h : openPassive c id = some c') :
    SendLimits allow c c' := by
  unfold Rquic.openPassive at h
  split_ifs at h <;> obtain rfl := Option.some.inj h
  · rw [insertPassiveStreamHash_frame]
    exact .of_eq rfl rfl rfl rfl
  · rw [insertPassiveStreamHash_frame]
    exact .of_eq rfl rfl rfl rfl
  · exact .of_eq rfl rfl rfl rfl

theorem SendLimits.insertStream (h : SendLimits allow c c') (id : StreamId) (t : StreamType)
    (settings : Option StreamSettings) (isLocal accept : Bool) :
    SendLimits allow c (insertStream c' id t settings isLocal accept).1 := by
  unfold Rquic.insertStream
  split <;> exact ⟨h.remoteSettings, h.streams, h.recvd, h.accepted⟩

theorem SendLimits.recv {r : ConnRecv} (hr : r.sendPart = c.toConnRecv.sendPart)
    (hflow : c'.connFlowCtl = r.connFlowCtl) (hremote : c'.remoteSettings = c.remoteSettings)
    (hrecvd : c'.handshakeRecvd = c.handshakeRecvd) (hstate : c'.connState = c.connState) :
    SendLimits allow c c' := by
  have hbidi := congrArg (fun r => r.connFlowCtl.maxStreamsBidiCanSend) hr
  have huni := congrArg (fun r => r.connFlowCtl.maxStreamsUniCanSend) hr
  refine .of_eq hremote ?_ hrecvd hstate
  funext bidirectional
  unfold Conn.maxStreamsCanSend
  rw [hflow]
  cases bidirectional
  · exact huni
  · exact hbidi

/-- **The limits for sending change by the parameters and by MAX_* frames only.** -/
theorem ConnStep.sendLimits (h : ConnStep allow c c') :
    SendLimits allow c c' ∨
      ∃ p, expectsHandshake c = true ∧ p.Below (2 ^ 62) ∧ allow (.params p) ∧ c' = c.applyParams p := by
  cases h with
  | params p hexpects hbelow hcheck hallow => exact .inr ⟨p, hexpects, hbelow, hallow, rfl⟩
  | write f hf => exact .inl (.write c f)
  | writeReset s errCode hs hstate hallow => exact .inl (.write c _)
  | status connState connErr handshakeSent handshakeRecvd handshakeDone dataBlocked connCloseCount
      header alpn selfProtoExt peerProtoExt herr hsent hrecvd hdone happlied hstate hinit hclosing hfits
      hheader =>
      exact .inl ⟨rfl, fun _ => .inl rfl, happlied, hstate⟩
  | shut => exact .inl ⟨rfl, fun _ => .inl rfl, .inl, nofun⟩
  | maxStreamsBidi limit hlt hlimit hallow =>
      refine .inl ⟨rfl, fun bidirectional => ?_, .inl, .inl⟩
      cases bidirectional
      · exact .inl rfl
      · exact .inr ⟨hlt, hallow⟩
  | maxStreamsUni limit hlt hlimit hallow =>
      refine .inl ⟨rfl, fun bidirectional => ?_, .inl, .inl⟩
      cases bidirectional
      · exact .inr ⟨hlt, hallow⟩
      · exact .inl rfl
  | openPassive c' id hpeer hopen => exact .inl (.openPassive hopen)
  | openPeer id accept hpeer hnone hpassive hallow =>
      exact .inl (.insertStream (.of_eq rfl rfl rfl rfl) id _ none false accept)
  | openLocal t settings accept ht hlimit hallow =>
      split_ifs
      · refine .inl (.insertStream ?_ _ t settings true accept)
        exact .of_eq rfl rfl rfl rfl
      · refine .inl (.insertStream ?_ _ t settings true accept)
        exact .of_eq rfl rfl rfl rfl
  | deliver s f hs hend hallow =>
      exact .inl (.recv (processStreamFrame_conn c.toConnRecv s f) rfl rfl rfl rfl)
  | resetRecv s finalSize hs hsize hallow =>
      exact .inl (.recv (processResetStreamFrame_conn c.toConnRecv s finalSize) rfl rfl rfl rfl)
  | read s env recvBufSize hs =>
      exact .inl (.recv (streamRecv_conn c.toConnRecv s env recvBufSize) rfl rfl rfl rfl)
  | _ => exact .inl (.of_eq rfl rfl rfl rfl)

end SendLimits

/-! ## Before the handshake is received -/

/-- Nothing is written on a stream before the handshake is received. -/
structure BeganInv (c : Conn) : Prop where
  recvd : c.connState.accepted = true → c.handshakeRecvd = true
  init : c.connState = .serverInit → c.handshakeRecvd = false
  silent : c.handshakeRecvd = false → ∀ id offset fin data, .wroteStream id offset fin data ∉ c.log

section Began

variable {allow : ConnAct → Prop} {c c' : Conn}

theorem BeganInv.step (hinv : BeganInv c) (h : ConnStep allow c c') : BeganInv c' := by
  have hrecvd : c'.connState.accepted = true → c'.handshakeRecvd = true := by
    intro haccepted
    rcases h.sendLimits with hlimits | ⟨p, -, -, -, rfl⟩
    · exact (hlimits.accepted haccepted).elim (fun hold => h.mono.recvd (hinv.recvd hold)) id
    · exact hinv.recvd haccepted
  refine ⟨hrecvd, fun hinit => ?_, fun hnot id offset fin data hmem => ?_⟩
  · obtain ⟨hold, hsame⟩ := h.mono.init hinit
    rw [hsame]
    exact hinv.init hold
  · obtain ⟨l, hl, hallowed⟩ := h.log
    rw [hl] at hmem
    rcases List.mem_append.1 hmem with hold | hnew
    · refine hinv.silent ?_ id offset fin data hold
      exact Bool.eq_false_of_not_eq_true fun hwas => by rw [h.mono.recvd hwas] at hnot; cases hnot
    · -- an established connection has received the handshake
      have hestab := of_decide_eq_true (hallowed _ hnew).2.1
      rw [hrecvd (by rw [hestab]; rfl)] at hnot
      cases hnot

theorem connCreate_beganInv (connType : ConnType) (settings : ConnSettings)
    (header : PktType → Bytes) : BeganInv (connCreate connType settings header) := by
  refine ⟨fun h => ?_, fun _ => rfl, fun _ _ _ _ _ h => ?_⟩
  · cases connType <;> cases h
  · have hlog : (connCreate connType settings header).log = [] := rfl
    rw [hlog] at h
    cases h

theorem BeganInv.of_expects (hinv : BeganInv c) (hexpects : expectsHandshake c = true) :
    c.handshakeRecvd = false := by
  unfold expectsHandshake at hexpects
  cases htype : c.connType with
  | client =>
      rw [htype] at hexpects
      simpa using (Bool.and_eq_true_iff.1 hexpects).2
  | server =>
      rw [htype] at hexpects
      exact hinv.init (of_decide_eq_true hexpects)

end Began

/-! ## Events -/

/-- The parameters in a HANDSHAKE frame, if they pass the check. -/
def acceptedParams (tp : Bytes) : Option TransportParams :=
  (decodeTransportParams tp).toOption.filter checkTransportParams

/-- The parameters that the event applies. -/
def Conn.appliedParams (c : Conn) : ConnEvent → Option TransportParams
  | .frame _ pkt _ _ ⟨.handshake alpn tp ext, _⟩ =>
    if c.takesFrame pkt (.handshake alpn tp ext) = true ∧ expectsHandshake c = true ∧
        ext.length ≤ protoExtCap then
      acceptedParams tp
    else none
  | _ => none

/-- The acts of a step: no parameters are applied, and the limits come from frames that were received. -/
structure Heard (allow : ConnAct → Prop) (c : Conn) : Prop where
  params : ∀ p, ¬ allow (.params p)
  limit : ∀ f, allow (.limit f) → ∃ pktNum pos, .recvd pktNum pos f ∈ c.log

section Events

variable {allow : ConnAct → Prop} {c c' : Conn}

theorem Heard.step (hheard : Heard allow c) (h : ConnStep allow c c') : Heard allow c' := by
  refine ⟨hheard.params, fun f hf => ?_⟩
  obtain ⟨pktNum, pos, hmem⟩ := hheard.limit f hf
  obtain ⟨l, hl, -⟩ := h.log
  rw [hl]
  exact ⟨pktNum, pos, List.mem_append_left l hmem⟩

/-- A limit that was heard is at most the largest one. -/
theorem Heard.le_largestRecvd (hheard : Heard allow c) (limitOf : Frame → ℕ) {f : Frame}
    (hf : allow (.limit f)) : limitOf f ≤ largestRecvd limitOf c.log := by
  obtain ⟨pktNum, pos, hmem⟩ := hheard.limit f hf
  obtain ⟨log, log', hsplit⟩ := List.append_of_mem hmem
  rw [hsplit, largestRecvd_append]
  exact (le_max_left _ _).trans (le_max_right _ _)

theorem acceptedParams_eq_some {tp : Bytes} {p : TransportParams} (h : acceptedParams tp = some p) :
    decodeTransportParams tp = .ok p ∧ checkTransportParams p = true := by
  obtain ⟨hdecode, hcheck⟩ := Option.filter_eq_some_iff.1 h
  refine ⟨?_, hcheck⟩
  cases htp : decodeTransportParams tp with
  | error e =>
      rw [htp] at hdecode
      cases hdecode
  | ok p' =>
      rw [htp] at hdecode
      rw [Option.some.inj hdecode]

theorem processHandshake_refused {env : FrameEnv} {alpn tp ext : Bytes}
    (h : expectsHandshake c = true → ext.length ≤ protoExtCap →
      acceptedParams tp = none) :
    ConnSteps allow c (processHandshake env c alpn tp ext).1 := by
  unfold processHandshake
  by_cases hexpects : expectsHandshake c = true
  · rw [if_neg (not_not.2 hexpects)]
    by_cases hcap : protoExtCap < ext.length
    · rw [if_pos hcap]
      exact raise_steps c _
    have hnone := h hexpects (not_lt.1 hcap)
    rw [if_neg hcap]
    have hext : ConnSteps allow c { c with peerProtoExt := ext } :=
      alpn_steps c c.alpn c.selfProtoExt ext
    dsimp only
    split
    · exact hext.trans (raise_steps _ _)
    · rename_i p hp
      have hcheck : ¬ checkTransportParams p = true := by
        unfold acceptedParams at hnone
        rw [hp] at hnone
        simpa [Except.toOption] using hnone
      rw [if_pos hcheck]
      exact hext.trans (raise_steps _ _)
  · rw [if_pos hexpects]

/-- A HANDSHAKE frame that is taken: its parameters are applied, and the handshake goes on. -/
theorem processHandshake_taken {env : FrameEnv} {alpn tp ext : Bytes} {p : TransportParams}
    (hallow : allow .accept)
    (hexpects : expectsHandshake c = true) (hcap : ext.length ≤ protoExtCap)
    (hp : acceptedParams tp = some p) :
    ConnSteps allow (Conn.applyParams { c with peerProtoExt := ext } p)
      (processHandshake env c alpn tp ext).1 := by
  obtain ⟨hdecode, hcheck⟩ := acceptedParams_eq_some hp
  unfold processHandshake
  rw [if_neg (not_not.2 hexpects), if_neg (not_lt.2 hcap)]
  simp only [hdecode]
  rw [if_neg (not_not.2 hcheck)]
  refine finishHandshake_steps hallow env (updateFlowCtlSettings_applied _) ?_ alpn
  exact hexpects

/-- The acts of an event that is no HANDSHAKE frame, once the frame is in the history. -/
theorem Conn.heard_of_allows {ev : ConnEvent} (hnone : ∀ env pkt pos frameLen alpn tp ext h,
      ev ≠ .frame env pkt pos frameLen ⟨.handshake alpn tp ext, h⟩)
    (hlog : ∀ env pkt pos frameLen f, ev = .frame env pkt pos frameLen f →
      .recvd pkt.pktNum pos f.1 ∈ c'.log) : Heard (c.allows ev) c' := by
  constructor
  · intro p hp
    obtain ⟨env, pkt, pos, frameLen, ⟨f, hfits⟩, rfl, -, hf⟩ :=
      Conn.frame_of_allows hp (by simp) (by simp) (by simp) (by simp) (by simp)
    cases f with
    | handshake alpn tp ext => exact hnone env pkt pos frameLen alpn tp ext hfits rfl
    | _ => simp [Frame.allows] at hf
  · intro g hg
    obtain ⟨env, pkt, pos, frameLen, ⟨f, hfits⟩, rfl, -, hf⟩ :=
      Conn.frame_of_allows hg (by simp) (by simp) (by simp) (by simp) (by simp)
    refine ⟨pkt.pktNum, pos, ?_⟩
    have hmem := hlog env pkt pos frameLen ⟨f, hfits⟩ rfl
    cases f <;> simp [Frame.allows] at hf
    · rw [hf.1]
      exact hmem
    · rw [hf.1]
      exact hmem
    · rw [hf.1]
      exact hmem

/-- **The rule for invariants of the limits for sending**: the elementary steps keep it, by what was
heard, and so do the parameters that the event applies. -/
theorem Conn.step_heard {P : Conn → Prop} (hkeyed : c.Keyed) (ev : ConnEvent)
    (hstep : ∀ allow c₁ c₂, Heard allow c₁ → ConnStep allow c₁ c₂ → P c₁ → P c₂)
    (hparams : ∀ p ∈ c.appliedParams ev, ∀ entry ext,
      expectsHandshake { c.addLog entry with peerProtoExt := ext } = true → p.Below (2 ^ 62) →
      ConnStep (fun _ => True) { c.addLog entry with peerProtoExt := ext }
        (Conn.applyParams { c.addLog entry with peerProtoExt := ext } p) →
      P { c.addLog entry with peerProtoExt := ext } →
      P (Conn.applyParams { c.addLog entry with peerProtoExt := ext } p))
    (h : P c) : P (c.step ev) := by
  have hsteps : ∀ allow c₁ c₂, Heard allow c₁ → ConnSteps allow c₁ c₂ → P c₁ → P c₂ := by
    intro allow c₁ c₂ hheard hsteps hP
    exact (hsteps.inv (P := fun c => Heard allow c ∧ P c)
      (fun c c' hlast hP => ⟨hP.1.step hlast, hstep allow c c' hP.1 hlast hP.2⟩) ⟨hheard, hP⟩).2
  have hnever : ∀ c : Conn, Heard (fun _ => False) c := fun c => ⟨fun _ => id, fun _ => False.elim⟩
  by_cases hframe : ∃ env pkt pos frameLen f, ev = .frame env pkt pos frameLen f
  · obtain ⟨env, pkt, pos, frameLen, ⟨f, hfits⟩, rfl⟩ := hframe
    rw [Conn.step_frame]
    by_cases htakes : c.takesFrame pkt f = true
    · rw [if_pos htakes]
      have hrecvd : P (c.addLog (.recvd pkt.pktNum pos f)) :=
        hsteps _ c _ (hnever c) (.single (.recvd c pkt.pktNum pos ⟨f, hfits⟩)) h
      by_cases hhandshake : ∃ alpn tp ext, f = .handshake alpn tp ext
      · obtain ⟨alpn, tp, ext, rfl⟩ := hhandshake
        by_cases htaken : expectsHandshake c = true ∧ ext.length ≤ protoExtCap
        · cases hp : acceptedParams tp with
          | none => exact hsteps _ _ _ (hnever _) (processHandshake_refused fun _ _ => hp) hrecvd
          | some p =>
              have happlied : p ∈ c.appliedParams (.frame env pkt pos frameLen
                  ⟨.handshake alpn tp ext, hfits⟩) := by
                unfold Conn.appliedParams
                dsimp only
                rw [if_pos ⟨htakes, htaken⟩]
                exact hp
              obtain ⟨hdecode, hcheck⟩ := acceptedParams_eq_some hp
              have hbelow := decodeTransportParams_lt hdecode
              refine hsteps (· = .accept) _ _ ⟨nofun, nofun⟩
                (processHandshake_taken rfl htaken.1 htaken.2 hp) ?_
              refine hparams p happlied _ ext htaken.1 hbelow
                (.params _ p htaken.1 hbelow hcheck trivial) ?_
              exact hsteps _ _ _ (hnever _) (alpn_steps (c.addLog _) c.alpn c.selfProtoExt ext) hrecvd
        · exact hsteps _ _ _ (hnever _)
            (processHandshake_refused fun hexpects hcap => absurd ⟨hexpects, hcap⟩ htaken) hrecvd
      · have hhandler := processFrame_steps (c := c.addLog (.recvd pkt.pktNum pos f)) hkeyed env pkt pos
          frameLen ⟨f, hfits⟩
        rw [Frame.allows_addLog, ← @Conn.allows_frame c env pkt pos frameLen ⟨f, hfits⟩ htakes]
          at hhandler
        refine hsteps _ _ _ (Conn.heard_of_allows ?_ ?_) hhandler hrecvd
        · rintro env' pkt' pos' frameLen' alpn tp ext hfits' heq
          exact hhandshake ⟨alpn, tp, ext, congrArg Subtype.val (ConnEvent.frame.inj heq).2.2.2.2⟩
        · rintro env' pkt' pos' frameLen' f' heq
          obtain ⟨rfl, rfl, rfl, rfl, rfl⟩ := ConnEvent.frame.inj heq
          exact List.mem_append_right _ (List.mem_singleton_self _)
    · rw [if_neg htakes]
      exact h
  · refine hsteps _ c _ (Conn.heard_of_allows ?_ ?_) (step_steps hkeyed ev) h
    · exact fun env pkt pos frameLen _ _ _ _ heq => hframe ⟨env, pkt, pos, frameLen, _, heq⟩
    · exact fun env pkt pos frameLen f heq => absurd ⟨env, pkt, pos, frameLen, f, heq⟩ hframe

end Events

end Rquic
