import Rquic.Conn.Advertised

set_option autoImplicit false

/-!
# The limit on the own streams

The number of streams is checked when a stream is opened, against the limit of the time: before the
peer's parameters arrive that is the own default. A stream that was opened early goes on sending when
the parameters turn out to allow fewer.

* `Conn.WithinStreamLimits`: the STREAM frames of the own streams keep to what the peer advertised.
* `Conn.StreamsFit`: when the parameters are applied, they allow the streams that were opened.
* `StreamLimitInv`: the open streams keep to the limits.
* **`run_streamLimits`**: in runs that meet the condition, so do the frames.
-/

namespace Rquic

namespace Conn

/-- The index of the stream is below the largest limit that the peer has advertised. -/
def Admits (c : Conn) (id : StreamId) : Prop :=
  id / 4 < c.advertisedStreams (getStreamType id).isBidi

/-- Every STREAM frame that was put in a packet, for a stream of the endpoint, has an index below the
largest limit that the peer has advertised. -/
def WithinStreamLimits (c : Conn) : Prop :=
  ∀ id offset fin data, .wroteStream id offset fin data ∈ c.log → c.isLocalId id = true → c.Admits id

/-- The streams that the endpoint has opened, and that are not reset, have an index below the limit. -/
def OpenedBelow (c : Conn) (limit : Bool → ℕ) : Prop :=
  ∀ bidirectional, ∀ n < c.curLocal (c.connType.localType bidirectional),
    ∀ s ∈ c.streams (4 * n + (c.connType.localType bidirectional).toNat),
      s.streamStateSend.toNat < SendStreamState.resetSent.toNat → n < limit bidirectional

/-- Parameters that the event applies allow the streams that were opened, or a MAX_STREAMS frame did. -/
def StreamsFit (c : Conn) (ev : ConnEvent) : Prop :=
  ∀ p ∈ c.appliedParams ev, c.OpenedBelow fun bidirectional =>
    max (p.settings.maxStreams bidirectional) (largestRecvd (maxStreamsOf bidirectional) c.log)

end Conn

instance (c : Conn) (limit : Bool → ℕ) : Decidable (c.OpenedBelow limit) := by
  unfold Conn.OpenedBelow
  infer_instance

instance (c : Conn) (ev : ConnEvent) : Decidable (c.StreamsFit ev) := by
  unfold Conn.StreamsFit
  infer_instance

/-! ## The invariant -/

/-- The parameters of the peer were not applied: the limits are larger than the peer's settings say. -/
structure Conn.AwaitsParams (c : Conn) : Prop where
  recvd : c.handshakeRecvd = false
  limit : c.remoteSettings.maxStreams true < c.maxStreamsCanSend true

/-- The limits and the open streams keep to what the peer has advertised. -/
structure Conn.KeepsLimits (c : Conn) : Prop where
  limit : ∀ bidirectional, c.maxStreamsCanSend bidirectional ≤ c.advertisedStreams bidirectional
  streams : ∀ id s, c.streams id = some s → c.isLocalId id = true →
    s.streamStateSend.toNat < SendStreamState.resetSent.toNat → c.Admits id

/-- Before the parameters nothing is written on a stream; behind them everything keeps to the limits. -/
structure StreamLimitInv (c : Conn) : Prop where
  life : LifeInv c
  began : BeganInv c
  phase : c.AwaitsParams ∨ c.KeepsLimits
  within : c.WithinStreamLimits

section Limits

variable {allow : ConnAct → Prop} {c c' : Conn}

theorem ConnStep.advertisedStreams_le (h : ConnStep allow c c')
    (hremote : c'.remoteSettings = c.remoteSettings) (bidirectional : Bool) :
    c.advertisedStreams bidirectional ≤ c'.advertisedStreams bidirectional := by
  obtain ⟨l, hl, -⟩ := h.log
  unfold Conn.advertisedStreams
  rw [hremote, hl]
  exact max_le_max le_rfl (largestRecvd_le_append _ _ _)

theorem insertStream_new {id id' : StreamId} {t : StreamType} {settings : Option StreamSettings}
    {isLocal accept : Bool} {s' : Stream}
    (hs' : (insertStream c id t settings isLocal accept).1.streams id' = some s')
    (hnone : c.streams id' = none) : id' = id := by
  by_contra hne
  unfold insertStream at hs'
  split at hs'
  · change Function.update c.streams id none id' = some s' at hs'
    rw [Function.update_of_ne hne, hnone] at hs'
    cases hs'
  · change Function.update c.streams id (some _) id' = some s' at hs'
    rw [Function.update_of_ne hne, hnone] at hs'
    cases hs'

/-- A stream of the endpoint that a step opens is below the limit of the time. -/
theorem ConnStep.opens (h : ConnStep allow c c') {id : StreamId} {s' : Stream}
    (hs' : c'.streams id = some s') (hnone : c.streams id = none) (hlocal : c.isLocalId id = true) :
    id / 4 < c.maxStreamsCanSend (getStreamType id).isBidi := by
  cases h.connLife with
  | quiet hquiet =>
      have hstored := hquiet.stored id
      rw [hs', hnone] at hstored
      cases hstored
  | range id' hpeer hopen =>
      rw [(openPassive_spec hopen).1, hnone] at hs'
      cases hs'
  | openPeer id' accept hpeer hnone' hpassive hallow =>
      rw [insertStream_new hs' hnone, hpeer] at hlocal
      cases hlocal
  | openLocal t settings accept ht hlimit =>
      have hindex : ∀ n : ℕ, (4 * n + t.toNat) / 4 = n := by
        have hlt : t.toNat < 4 := by cases t <;> decide
        intro n
        omega
      unfold Conn.maxStreamsCanSend
      split_ifs at hs' hlimit with hbidi
      · rw [insertStream_new hs' hnone, getStreamType_index, if_pos hbidi, hindex]
        exact hlimit
      · rw [insertStream_new hs' hnone, getStreamType_index, if_neg hbidi, hindex]
        exact hlimit
  | destroy id' s hs =>
      have hne : id ≠ id' := by
        rintro rfl
        rw [hnone] at hs
        cases hs
      change Function.update c.streams id' none id = some s' at hs'
      rw [Function.update_of_ne hne, hnone] at hs'
      cases hs'

theorem Conn.AwaitsParams.step (hawaits : c.AwaitsParams) (hlimits : SendLimits allow c c') :
    c'.AwaitsParams := by
  refine ⟨Bool.eq_false_of_not_eq_true fun hrecvd => ?_, ?_⟩
  · rcases hlimits.recvd hrecvd with hold | happlied
    · rw [hawaits.recvd] at hold
      cases hold
    · -- the limit is not the peer's
      exact absurd happlied.1.2.1 (ne_of_gt hawaits.limit)
  · rw [hlimits.remoteSettings]
    exact hawaits.limit.trans_le ((hlimits.streams true).elim ge_of_eq fun h => h.1.le)

theorem Conn.KeepsLimits.step (hkeeps : c.KeepsLimits) (hheard : Heard allow c)
    (h : ConnStep allow c c') (hlimits : SendLimits allow c c') : c'.KeepsLimits := by
  have hle := h.advertisedStreams_le hlimits.remoteSettings
  refine ⟨fun bidirectional => ?_, fun id s' hs' hlocal hstate => ?_⟩
  · rcases hlimits.streams bidirectional with hsame | ⟨-, hallow⟩
    · rw [hsame]
      exact (hkeeps.limit bidirectional).trans (hle bidirectional)
    · have hheard' := hheard.le_largestRecvd (maxStreamsOf bidirectional) hallow
      rw [maxStreamsOf, if_pos rfl] at hheard'
      exact (hheard'.trans (le_max_right _ _)).trans (hle bidirectional)
  · rw [isLocalId_congr h.mono.connType] at hlocal
    cases hs : c.streams id with
    | none =>
        exact (h.opens hs' hs hlocal).trans_le ((hkeeps.limit _).trans (hle _))
    | some s =>
        have hold : s.streamStateSend.toNat ≤ s'.streamStateSend.toNat := by
          rcases h.streamsStep.of_some hs hs' with rfl | ⟨p, -, rfl⟩ | hchange
          · exact le_rfl
          · exact le_rfl
          · exact hchange.stateSend
        exact (hkeeps.streams id s hs hlocal (hold.trans_lt hstate)).trans_le (hle _)

theorem StreamLimitInv.step (hinv : StreamLimitInv c) (hheard : Heard allow c)
    (h : ConnStep allow c c') : StreamLimitInv c' := by
  have hbegan := hinv.began.step h
  rcases h.sendLimits with hlimits | ⟨p, -, -, hallow, -⟩
  · have hphase : c'.AwaitsParams ∨ c'.KeepsLimits :=
      hinv.phase.imp (fun hawaits => hawaits.step hlimits) fun hkeeps => hkeeps.step hheard h hlimits
    refine ⟨h.lifeInv hinv.life, hbegan, hphase, fun id offset fin data hmem hlocal => ?_⟩
    obtain ⟨l, hl, hallowed⟩ := h.log
    rw [hl] at hmem
    rcases List.mem_append.1 hmem with hold | hnew
    · rw [isLocalId_congr h.mono.connType] at hlocal
      exact (hinv.within id offset fin data hold hlocal).trans_le
        (h.advertisedStreams_le hlimits.remoteSettings _)
    · -- the frame is written behind the handshake, on a stream that is there
      obtain ⟨-, hestab, s, hs, hstate⟩ := hallowed _ hnew
      have hrecvd := hbegan.recvd (by rw [of_decide_eq_true hestab]; rfl)
      rcases hphase with hawaits | hkeeps
      · rw [hawaits.recvd] at hrecvd
        cases hrecvd
      · exact hkeeps.streams id s hs hlocal hstate
  · exact absurd hallow (hheard.params p)

theorem ConnType.localType_of_isLocal {connType : ConnType} {t : StreamType}
    (h : t.isLocal connType = true) : connType.localType t.isBidi = t := by
  cases connType <;> cases t <;> first | rfl | cases h

theorem streamId_eq (id : StreamId) : 4 * (id / 4) + (getStreamType id).toNat = id := by
  rw [getStreamType_toNat]
  exact Nat.div_add_mod id 4

theorem StreamLimitInv.applyParams (hinv : StreamLimitInv c) {p : TransportParams}
    (hexpects : expectsHandshake c = true) (h : ConnStep allow c (c.applyParams p))
    (hfits : c.OpenedBelow (c.applyParams p).advertisedStreams) :
    StreamLimitInv (c.applyParams p) := by
  refine ⟨h.lifeInv hinv.life, hinv.began.step h, .inr ⟨fun bidirectional => ?_, ?_⟩, ?_⟩
  · refine le_trans (ge_of_eq ?_) (le_max_left _ _)
    cases bidirectional <;> rfl
  · intro id s' hs' hlocal hstate
    obtain ⟨s, hs, rfl⟩ := Option.map_eq_some_iff.1 hs'
    have hindex := hinv.life.own id (hinv.life.stored id s hs) hlocal
    have htype : c.connType.localType (getStreamType id).isBidi = getStreamType id :=
      ConnType.localType_of_isLocal hlocal
    refine hfits (getStreamType id).isBidi (id / 4) ?_ s ?_ hstate
    · rw [htype]
      exact hindex
    · rw [htype, streamId_eq]
      exact hs
  · intro id offset fin data hmem
    exact absurd hmem (hinv.began.silent (hinv.began.of_expects hexpects) id offset fin data)

end Limits

/-! ## Runs -/

theorem StreamLimitInv.event {c : Conn} (hinv : StreamLimitInv c) {ev : ConnEvent}
    (hfits : c.StreamsFit ev) : StreamLimitInv (c.step ev) := by
  refine Conn.step_heard hinv.life.keyed ev (fun _ _ _ hheard h hP => hP.step hheard h) ?_ hinv
  intro p hp entry ext hexpects hbelow h hP
  refine hP.applyParams hexpects h fun bidirectional n hn s hs hstate => ?_
  refine (hfits p hp bidirectional n hn s hs hstate).trans_le (max_le_max le_rfl ?_)
  exact largestRecvd_le_append _ _ _

theorem connCreate_streamLimitInv (connType : ConnType) (settings : ConnSettings)
    (header : PktType → Bytes) : StreamLimitInv (connCreate connType settings header) := by
  refine ⟨connCreate_lifeInv connType settings header, connCreate_beganInv connType settings header,
    .inl ⟨rfl, ?_⟩, fun id offset fin data hmem => ?_⟩
  · show 0 < 1024
    decide
  · have hlog : (connCreate connType settings header).log = [] := rfl
    rw [hlog] at hmem
    cases hmem

/-- **The limit on the own streams.** In every run where the parameters of the peer, when they are
applied, allow the streams that were opened and not reset, every STREAM frame of such a stream has an
index below the largest limit that the peer has advertised for its direction. -/
theorem run_streamLimits (connType : ConnType) (settings : ConnSettings) (header : PktType → Bytes)
    (evs : List ConnEvent)
    (hfits : RunMeets Conn.StreamsFit (connCreate connType settings header) evs) :
    ((connCreate connType settings header).run evs).WithinStreamLimits :=
  (RunMeets.inv (P := StreamLimitInv) (fun _ _ hinv hev => hinv.event hev)
    (connCreate_streamLimitInv connType settings header) hfits).within

/-! ## Streams that were opened early -/

/-- A new client. -/
def plainClient : Conn := connCreate .client ⟨0, false, 0, 1200, 1500, 0, 0, 0⟩ fun _ => []

/-- The parameters of a server that allows `n` bidirectional streams. -/
def allowingStreams (n : ℕ) : Bytes :=
  (encodeTransportParams
    { initialMaxData := 10000, initialMaxStreamDataBidiLocal := 5000
      initialMaxStreamDataBidiRemote := 5000, initialMaxStreamDataUni := 5000
      initialMaxStreamsBidi := n, initialMaxStreamsUni := 8 } tpCap).toOption.getD []

/-- A client starts and opens two streams; the server's HANDSHAKE arrives, and the client sends a byte on
its second stream. -/
def sendsOnSecond (n : ℕ) : List ConnEvent :=
  [.handshake, .create .bidi none true, .create .bidi none true,
    initialFrame (.handshake [] (allowingStreams n) []) trivial, .send 4 ⟨1, 0⟩ [7] false]

/-- The server allows both streams. -/
theorem run_streamLimits_two :
    RunMeets Conn.StreamsFit plainClient (sendsOnSecond 2) ∧
      .wroteStream 4 0 false [7] ∈ (plainClient.run (sendsOnSecond 2)).log ∧
      (plainClient.run (sendsOnSecond 2)).Admits 4 := by
  have hfits : RunMeets Conn.StreamsFit plainClient (sendsOnSecond 2) := by decide +kernel
  have hwrote : .wroteStream 4 0 false [7] ∈ (plainClient.run (sendsOnSecond 2)).log := by
    decide +kernel
  exact ⟨hfits, hwrote, run_streamLimits .client _ _ (sendsOnSecond 2) hfits 4 0 false [7] hwrote
    (by decide +kernel)⟩

/-- **A stream that was opened early is used beyond the limit**: the server allows one stream, and the
client sends on its second. -/
theorem not_run_streamLimits :
    ¬ ∀ (connType : ConnType) (settings : ConnSettings) (header : PktType → Bytes)
      (evs : List ConnEvent), ((connCreate connType settings header).run evs).WithinStreamLimits := by
  intro h
  have hwrote : .wroteStream 4 0 false [7] ∈ (plainClient.run (sendsOnSecond 1)).log := by
    decide +kernel
  have hindex := h .client _ _ (sendsOnSecond 1) 4 0 false [7] hwrote (by decide +kernel)
  have hlimit : (plainClient.run (sendsOnSecond 1)).advertisedStreams true = 1 := by decide +kernel
  have hlt : 4 / 4 < (plainClient.run (sendsOnSecond 1)).advertisedStreams true := hindex
  rw [hlimit] at hlt
  exact lt_irrefl _ hlt

end Rquic
