import Rquic.Conn.RecvWindow

set_option autoImplicit false

/-!
# The limits that the endpoint has advertised

The endpoint promises limits in its parameters and in MAX_DATA and MAX_STREAM_DATA frames, and enforces
others: the limit of a stream is set while its type is not stored yet. Where the type of a stream asks
for no more than a client-initiated bidirectional one, the promises are kept.

* `Conn.offeredData`, `Conn.offeredStreamData`: the largest limits that were advertised.
* `Conn.Honours`: what is enforced is not below them.
* `LimitsKept`: no limit is lowered.
* `Conn.KeepsToOffers`: a STREAM frame within the limits that were advertised.
* **`run_honours`**: the limits are honoured, and such a frame is not refused.
-/

namespace Rquic

/-! ## Offers -/

/-- The limit that a frame in a packet offers. -/
def LogEntry.offer (limitOf : ControlFrame → ℕ) : LogEntry → ℕ
  | .wrote f => limitOf f
  | _ => 0

/-- The limit of a MAX_DATA frame. -/
def maxDataIn : ControlFrame → ℕ
  | .maxData limit => limit
  | _ => 0

/-- The limit of a MAX_STREAM_DATA frame for the stream. -/
def maxStreamDataIn (id : StreamId) : ControlFrame → ℕ
  | .maxStreamData id' limit => if id' = id then limit else 0
  | _ => 0

namespace Conn

/-- The largest limit on the data of the connection that the endpoint has advertised. -/
def offeredData (c : Conn) : ℕ := max c.localSettings.maxData (largestIn (LogEntry.offer maxDataIn) c.log)

/-- The largest limit on the data of a stream that the endpoint has advertised: the parameter for the
type of the stream, and MAX_STREAM_DATA frames. -/
def offeredStreamData (c : Conn) (id : StreamId) : ℕ :=
  max (recvLimit c.connType (getStreamType id) c.localSettings)
    (largestIn (LogEntry.offer (maxStreamDataIn id)) c.log)

/-- The limits that are enforced are not below those that were advertised. -/
structure Honours (c : Conn) : Prop where
  data : c.offeredData ≤ c.connFlowCtl.maxDataCanRecv
  stream : ∀ id s, c.streams id = some s →
    c.offeredStreamData id ≤ s.streamFlowCtl.maxStreamDataCanRecv

/-- The types of the streams that were opened ask for no more than a client-initiated bidirectional
stream. -/
def TypesFit (c : Conn) : Prop :=
  ∀ id ∈ c.openedIds, recvLimit c.connType (getStreamType id) c.localSettings ≤
    recvLimit c.connType .cliBid c.localSettings

instance (c : Conn) : Decidable c.TypesFit := by
  unfold TypesFit
  infer_instance

/-- Data of the stream up to `n`, with everything that arrived before, keeps to the limits that were
advertised. -/
structure Covers (c : Conn) (id : StreamId) (n : ℕ) : Prop where
  stream : max (c.reach id) n ≤ c.offeredStreamData id
  conn : ∑ i ∈ insert id c.openedIds, max (c.reach i) (if i = id then n else 0) ≤ c.offeredData

/-- The event is a STREAM frame that keeps to the limits that were advertised. -/
def KeepsToOffers (c : Conn) : ConnEvent → Prop
  | .frame _ _ _ _ ⟨.stream id offset _ data, _⟩ => c.Covers id (offset + data.length)
  | _ => False

end Conn

/-- No limit for receiving is lowered. -/
structure LimitsKept (c c' : Conn) : Prop where
  data : c.connFlowCtl.maxDataCanRecv ≤ c'.connFlowCtl.maxDataCanRecv
  stream : ∀ id s s', c.streams id = some s → c'.streams id = some s' →
    s.streamFlowCtl.maxStreamDataCanRecv ≤ s'.streamFlowCtl.maxStreamDataCanRecv

/-! ## Steps -/

/-- The history grows, and what it offers is what was enforced. -/
def OffersGrow (c c' : Conn) : Prop :=
  ∃ l : List LogEntry, c'.log = c.log ++ l ∧
    ∀ f, .wrote f ∈ l → c.Enforces f ∨ ∃ id errCode n, f = .resetStream id errCode n

section Steps

variable {allow : ConnAct → Prop} {c c' : Conn}

theorem OffersGrow.same (h : c'.log = c.log) : OffersGrow c c' :=
  ⟨[], by rw [h, List.append_nil], fun _ hmem => absurd hmem List.not_mem_nil⟩

theorem OffersGrow.entry {entry : LogEntry} (h : c'.log = c.log ++ [entry])
    (hentry : ∀ f, entry = .wrote f → c.Enforces f ∨ ∃ id errCode n, f = .resetStream id errCode n) :
    OffersGrow c c' :=
  ⟨[entry], h, fun f hmem => hentry f (List.mem_singleton.1 hmem).symm⟩

theorem OffersGrow.write {f : ControlFrame}
    (hf : c.Enforces f ∨ ∃ id errCode n, f = .resetStream id errCode n) : OffersGrow c (c.write f).1 := by
  rcases c.write_log f with h | h
  · exact .same h
  · refine .entry h fun f' heq => ?_
    rw [← LogEntry.wrote.inj heq]
    exact hf

theorem OffersGrow.insertStream {c₀ : Conn} (h : c₀.log = c.log) (hstreams : c₀.streams = c.streams)
    {id : StreamId} (hnone : c.streams id = none) (t : StreamType) (settings : Option StreamSettings)
    (isLocal accept : Bool) : OffersGrow c (insertStream c₀ id t settings isLocal accept).1 := by
  obtain ⟨s, -, -, -, heq⟩ := insertStream_of_none (c := c₀) (by rw [hstreams]; exact hnone) t settings
    isLocal accept
  rw [heq]
  have hlog : c₀.log ++ [.opened id] = c.log ++ [.opened id] := by rw [h]
  exact .entry hlog nofun

/-- **What a step offers is what the connection enforces.** -/
theorem ConnStep.offersGrow (h : ConnStep allow c c') (hinv : LifeInv c) : OffersGrow c c' := by
  cases h with
  | recvd pktNum pos f => exact .entry rfl nofun
  | notified pktNum pos data hrecvd => exact .entry rfl nofun
  | write f hf => exact .write (.inl hf)
  | writeReset s errCode hs hstate hallow => exact .write (.inr ⟨_, _, _, rfl⟩)
  | maxData limit hlt hlimit hallow => exact .entry rfl nofun
  | maxStreamData s limit hs hlt hlimit hallow => exact .entry rfl nofun
  | maxStreamsBidi limit hlt hlimit hallow => exact .entry rfl nofun
  | maxStreamsUni limit hlt hlimit hallow => exact .entry rfl nofun
  | openPassive c' id hpeer hopen =>
      unfold Rquic.openPassive at hopen
      split_ifs at hopen <;> obtain rfl := Option.some.inj hopen
      · rw [insertPassiveStreamHash_frame]
        exact .same rfl
      · rw [insertPassiveStreamHash_frame]
        exact .same rfl
      · exact .same rfl
  | openPeer id accept hpeer hnone hpassive hallow => exact .insertStream rfl rfl hnone _ none false accept
  | openLocal t settings accept ht hlimit hallow =>
      by_cases hbidi : t.isBidi = true
      · rw [if_pos hbidi]
        obtain ⟨-, hnone⟩ := hinv.next_new ht (if_pos hbidi).symm
        refine .insertStream ?_ ?_ hnone t settings true accept <;> rfl
      · rw [if_neg hbidi]
        obtain ⟨-, hnone⟩ := hinv.next_new ht (if_neg hbidi).symm
        refine .insertStream ?_ ?_ hnone t settings true accept <;> rfl
  | destroy id s hs hclose =>
      have hlog : (destroyStream c id).log = c.log ++ [.destroyed s] := by
        unfold destroyStream
        rw [hs]
        rfl
      exact .entry hlog nofun
  | deliver s f hs hend hallow => exact .entry rfl nofun
  | resetRecv s finalSize hs hsize hallow => exact .entry rfl nofun
  | writeStream s fin payload sndq n hs hestab hstate hfin hconn hstream hwrite hallow =>
      exact .entry rfl nofun
  | _ => exact .same rfl

theorem le_largestIn {measure : LogEntry → ℕ} {log : List LogEntry} {bound : ℕ}
    (h : ∀ entry ∈ log, measure entry ≤ bound) : largestIn measure log ≤ bound := by
  induction log with
  | nil => exact Nat.zero_le _
  | cons entry log ih =>
      exact max_le (h entry List.mem_cons_self) (ih fun e he => h e (List.mem_cons_of_mem _ he))

/-- What the new entries offer is below a bound, if what was enforced is. -/
theorem offers_le {l : List LogEntry} {limitOf : ControlFrame → ℕ} {bound : ℕ}
    (hl : ∀ f, .wrote f ∈ l → c.Enforces f ∨ ∃ id errCode n, f = .resetStream id errCode n)
    (henforced : ∀ f, c.Enforces f → limitOf f ≤ bound)
    (hreset : ∀ id errCode n, limitOf (.resetStream id errCode n) = 0) :
    largestIn (LogEntry.offer limitOf) l ≤ bound := by
  refine le_largestIn fun entry hmem => ?_
  cases entry with
  | wrote f =>
      rcases hl f hmem with h | ⟨id, errCode, n, rfl⟩
      · exact henforced f h
      · exact (hreset id errCode n).trans_le (Nat.zero_le _)
  | _ => exact Nat.zero_le _

/-- The offers are honoured, as far as the types of the streams allow. -/
structure OffersKept (c : Conn) : Prop where
  data : c.offeredData ≤ c.connFlowCtl.maxDataCanRecv
  stream : ∀ id s, c.streams id = some s →
    recvLimit c.connType (getStreamType id) c.localSettings ≤ recvLimit c.connType .cliBid c.localSettings →
    c.offeredStreamData id ≤ s.streamFlowCtl.maxStreamDataCanRecv
  unopened : ∀ id, ¬ c.Opened id → largestIn (LogEntry.offer (maxStreamDataIn id)) c.log = 0

theorem OffersKept.step (h : OffersKept c) (hinv : LifeInv c) (hstep : ConnStep allow c c')
    (hlimits : LimitsGrow c c') : OffersKept c' := by
  obtain ⟨l, hl, hoffers⟩ := hstep.offersGrow hinv
  have hopened : ∀ id, c.Opened id → c'.Opened id := fun id ho =>
    Conn.mem_openedIds.1 (hstep.openedIds_subset (Conn.mem_openedIds.2 ho))
  -- a stream that is offered a limit is there
  have hstream : ∀ id bound, (∀ s, c.streams id = some s →
        s.streamFlowCtl.maxStreamDataCanRecv ≤ bound) →
      largestIn (LogEntry.offer (maxStreamDataIn id)) l ≤ bound := by
    intro id bound hbound
    refine offers_le hoffers (fun f hf => ?_) fun _ _ _ => rfl
    cases f with
    | maxStreamData id' limit =>
        obtain ⟨s, hs, rfl⟩ := hf
        rw [maxStreamDataIn]
        split_ifs with hid
        · subst hid
          exact hbound s hs
        · exact Nat.zero_le _
    | _ => exact Nat.zero_le _
  have hnone : ∀ id, ¬ c.Opened id →
      largestIn (LogEntry.offer (maxStreamDataIn id)) c'.log = 0 := by
    intro id ho
    rw [hl, largestIn_append, h.unopened id ho, Nat.zero_max]
    refine Nat.le_zero.1 (hstream id 0 fun s hs => ?_)
    exact absurd (hinv.stored id s hs) ho
  refine ⟨?_, fun id s' hs' hfits => ?_, fun id ho => hnone id fun ho' => ho (hopened id ho')⟩
  · unfold Conn.offeredData at *
    rw [hlimits.settings, hl, largestIn_append, ← max_assoc]
    refine max_le (h.data.trans hlimits.connLimit) (le_trans ?_ hlimits.connLimit)
    refine offers_le hoffers (fun f hf => ?_) fun _ _ _ => rfl
    cases f with
    | maxData limit => exact le_of_eq hf
    | _ => exact Nat.zero_le _
  · unfold Conn.offeredStreamData
    rw [hstep.mono.connType, hlimits.settings] at hfits ⊢
    rcases (hlimits.streams id s' hs').2 with ⟨s, hs, hle⟩ | ⟨hnew, hlimit⟩
    · have hold := h.stream id s hs hfits
      unfold Conn.offeredStreamData at hold
      rw [hl, largestIn_append, ← max_assoc]
      refine max_le (hold.trans hle) ((hstream id _ fun s₁ hs₁ => ?_).trans hle)
      rw [hs] at hs₁
      rw [Option.some.inj hs₁]
    · rw [hnone id hnew, hlimit]
      exact max_le hfits (Nat.zero_le _)

end Steps

/-! ## A STREAM frame within the limits -/

section Frames

variable {c : Conn} {recved read : StreamId → ℕ}

/-- A stream that a frame may open was not open before. -/
theorem Conn.OpensPeer.not_opened {id : StreamId} (h : c.OpensPeer id) (hinv : LifeInv c) :
    ¬ c.Opened id := by
  intro ho
  rcases h.unseen with hunseen | hpassive
  · exact absurd (hinv.peer id ho h.peer) (not_le.2 hunseen)
  · exact ((hinv.passive id).1 hpassive).2.2 (hinv.gone id ho h.none)

/-- No flow control error is raised. -/
def Conn.NotRefused (c c' : Conn) : Prop :=
  c'.connErr = some .flowControlError → c.connErr = some .flowControlError

theorem Conn.NotRefused.trans {c c' c'' : Conn} (h : c.NotRefused c') (h' : c'.NotRefused c'') :
    c.NotRefused c'' := fun herr => h (h' herr)

theorem Conn.NotRefused.raise (c : Conn) (err : TraErr) (hne : err ≠ .flowControlError) :
    c.NotRefused (c.raise err) := by
  intro herr
  unfold Conn.raise ConnRecv.raise at herr
  dsimp only at herr
  split at herr
  · exact absurd (Option.some.inj herr) hne
  · exact herr

theorem Conn.NotRefused.write (c : Conn) (f : ControlFrame) : c.NotRefused (c.write f).1 := by
  rw [c.write_frame f]
  exact id

theorem createPeerFlowCtl_notRefused (c : Conn) (id : StreamId) :
    c.NotRefused (createPeerFlowCtl c id).1 := by
  unfold createPeerFlowCtl
  dsimp only
  split_ifs
  · exact .raise c .streamLimitError (by decide)
  · exact .write _ _
  · exact fun herr => herr
  · exact .raise c .streamLimitError (by decide)
  · exact .write _ _
  · exact fun herr => herr

theorem openPassive_notRefused {c c' : Conn} {id : StreamId} (h : openPassive c id = some c') :
    c.NotRefused c' := by
  have hhash : ∀ curMaxSid, c.NotRefused (insertPassiveStreamHash c curMaxSid id) := by
    intro curMaxSid
    unfold insertPassiveStreamHash
    split_ifs
    · exact .raise { c with passiveStreams := _ } .internalError (by decide)
    · exact fun herr => herr
  unfold openPassive at h
  split_ifs at h <;> obtain rfl := Option.some.inj h
  · exact hhash _
  · exact hhash _
  · exact fun herr => herr

theorem createPeerStream_notRefused (c : Conn) (id : StreamId) (accept : Bool) :
    c.NotRefused (createPeerStream c id accept).1 := by
  have hlimit := createPeerFlowCtl_notRefused c id
  unfold createPeerStream
  split_ifs
  · exact fun herr => herr
  · cases hfc : createPeerFlowCtl c id with
    | mk c₁ ret =>
        rw [hfc] at hlimit
        cases ret with
        | error e => exact hlimit
        | ok u =>
            refine hlimit.trans ?_
            unfold insertStream
            dsimp only
            split <;> exact fun herr => herr

/-- **Looking up a stream of the peer raises no flow control error.** -/
theorem peerStream_notRefused (c : Conn) (id : StreamId) (accept : Bool) :
    c.NotRefused (peerStream c id accept).1 := by
  unfold peerStream
  split
  · exact fun herr => herr
  split_ifs
  · exact fun herr => herr
  have hlimit := createPeerFlowCtl_notRefused c id
  unfold passiveCreateStream
  cases hfc : createPeerFlowCtl c id with
  | mk c₁ ret =>
      rw [hfc] at hlimit
      cases ret with
      | error e => exact hlimit
      | ok u =>
          dsimp only
          split
          · exact hlimit
          · rename_i c₂ hopen
            have hcreate := (hlimit.trans (openPassive_notRefused hopen)).trans
              (createPeerStream_notRefused c₂ id accept)
            cases hcr : createPeerStream c₂ id accept with
            | mk c₃ s =>
                rw [hcr] at hcreate
                cases s with
                | none => exact hcreate.trans (.raise c₃ .internalError (by decide))
                | some s => exact hcreate

/-- A frame within the limits that the handler enforces is not refused by flow control. -/
theorem processStreamFrame_flowControl {r : ConnRecv} {s : Stream} {f : StreamFrame}
    (hwithin : s.Receives → withinLimits r s f)
    (h : (processStreamFrame r s f).1.connErr = some .flowControlError) :
    r.connErr = some .flowControlError := by
  by_cases hrecv : s.Receives
  · rcases processStreamFrame_cases r s f hrecv with
      ⟨-, heq⟩ | ⟨-, -, heq⟩ | ⟨-, -, -, heq⟩ | ⟨-, -, -, -, heq⟩ | ⟨-, -, -, di, -, heq⟩
    · rw [heq] at h
      exact h
    · rw [heq] at h
      unfold ConnRecv.raise at h
      dsimp only at h
      split at h
      · cases h
      · exact h
    · rw [heq] at h
      exact h
    · rw [heq] at h
      exact h
    · have hlim : withinLimits r { recordFin s f with streamDataIn := di } f := by
        obtain ⟨hconn, hstream⟩ := hwithin hrecv
        unfold countRecved at hconn
        unfold withinLimits countRecved
        dsimp only
        rw [recordFin_maxRecvOffset, recordFin_flowCtl]
        exact ⟨hconn, hstream⟩
      rw [heq, processRecvFlowCtl_connErr hlim] at h
      exact h
  · rw [processStreamFrame_of_reset r f hrecv] at h
    exact h

/-- With the frame, the connection counts no more than what the peer has named. -/
theorem RecvLedger.dataRecved_with (h : RecvLedger c recved read) (hreach : ∀ id, recved id ≤ c.reach id)
    (hlt : c.reachTotal < 2 ^ 63) (id : StreamId) (n : ℕ) :
    c.connFlowCtl.dataRecved + (n - recved id) ≤
      ∑ i ∈ insert id c.openedIds, max (c.reach i) (if i = id then n else 0) := by
  have hexact : c.connFlowCtl.dataRecved = ∑ i ∈ insert id c.openedIds, recved i := by
    have hsum : ∑ i ∈ c.openedIds, recved i < 2 ^ 64 :=
      ((Finset.sum_le_sum fun i _ => hreach i).trans_lt hlt).trans (by decide)
    rw [h.recvedSum.exact hsum]
    refine Finset.sum_subset (Finset.subset_insert _ _) fun i _ hi => ?_
    exact (h.unopened i hi).1
  have hupdate := sum_update_add (Finset.mem_insert_self id c.openedIds) recved (max (recved id) n)
  have hle : ∑ i ∈ insert id c.openedIds, Function.update recved id (max (recved id) n) i ≤
      ∑ i ∈ insert id c.openedIds, max (c.reach i) (if i = id then n else 0) := by
    refine Finset.sum_le_sum fun i _ => ?_
    by_cases hi : i = id
    · subst hi
      rw [Function.update_self, if_pos rfl]
      exact max_le_max (hreach i) le_rfl
    · rw [Function.update_of_ne hi]
      exact (hreach i).trans (le_max_left _ _)
  omega

end Frames

/-! ## Runs -/

/-- The ledger is there, and the offers are honoured as long as the peer does not name too much data. -/
structure OffersInv (c : Conn) : Prop where
  recv : RecvInv c
  offers : c.reachTotal < 2 ^ 63 → OffersKept c

/-- What becomes of the limits in several steps. -/
structure LimitsSince (c c' : Conn) : Prop where
  connType : c'.connType = c.connType
  settings : c'.localSettings = c.localSettings
  opened : ∀ id, c.Opened id → c'.Opened id
  kept : LimitsKept c c'
  offered : ∀ id, c.offeredStreamData id ≤ c'.offeredStreamData id

section Runs

variable {allow : ConnAct → Prop} {c c' c'' : Conn}

theorem OffersInv.step (h : OffersInv c) (hstep : ConnStep allow c c') : OffersInv c' := by
  obtain ⟨hrecv, hgrow⟩ := h.recv.step hstep
  exact ⟨hrecv, fun hlt =>
    (h.offers (hstep.reachTotal_le.trans_lt hlt)).step h.recv.life hstep (hgrow hlt)⟩

theorem LimitsSince.refl (c : Conn) : LimitsSince c c := by
  refine ⟨rfl, rfl, fun _ => id, ⟨le_rfl, fun id s s' hs hs' => ?_⟩, fun _ => le_rfl⟩
  rw [hs] at hs'
  rw [Option.some.inj hs']

theorem LimitsSince.step (h : LimitsSince c c') (hinv : LifeInv c) (hstep : ConnStep allow c' c'')
    (hlimits : LimitsGrow c' c'') : LimitsSince c c'' := by
  refine ⟨hstep.mono.connType.trans h.connType, hlimits.settings.trans h.settings, fun id ho => ?_,
    ⟨h.kept.data.trans hlimits.connLimit, fun id s s'' hs hs'' => ?_⟩, fun id => ?_⟩
  · exact Conn.mem_openedIds.1 (hstep.openedIds_subset (Conn.mem_openedIds.2 (h.opened id ho)))
  · rcases (hlimits.streams id s'' hs'').2 with ⟨s', hs', hle⟩ | ⟨hnew, -⟩
    · exact (h.kept.stream id s s' hs hs').trans hle
    · exact absurd (h.opened id (hinv.stored id s hs)) hnew
  · refine (h.offered id).trans ?_
    obtain ⟨l, hl, -⟩ := hstep.log
    unfold Conn.offeredStreamData
    rw [hstep.mono.connType, hlimits.settings, hl, largestIn_append]
    exact max_le_max le_rfl (le_max_left _ _)

/-- The offers are kept, and no limit was lowered since the connection was `c`. -/
structure OffersSince (c c' : Conn) : Prop where
  inv : OffersInv c'
  total : c.reachTotal ≤ c'.reachTotal
  limits : c'.reachTotal < 2 ^ 63 → LimitsSince c c'

theorem OffersSince.refl (h : OffersInv c) : OffersSince c c := ⟨h, le_rfl, fun _ => .refl c⟩

theorem OffersSince.step (h : OffersSince c c') (hinv : LifeInv c) (hstep : ConnStep allow c' c'') :
    OffersSince c c'' := by
  refine ⟨h.inv.step hstep, h.total.trans hstep.reachTotal_le, fun hlt => ?_⟩
  exact (h.limits (hstep.reachTotal_le.trans_lt hlt)).step hinv hstep ((h.inv.recv.step hstep).2 hlt)

theorem OffersSince.steps (h : OffersSince c c') (hinv : LifeInv c) (hsteps : ConnSteps allow c' c'') :
    OffersSince c c'' :=
  hsteps.inv (P := fun c' => OffersSince c c') (fun _ _ hstep hP => hP.step hinv hstep) h

/-- **A run keeps the offers, and lowers no limit.** -/
theorem OffersInv.run (h : OffersInv c) (evs : List ConnEvent) : OffersSince c (c.run evs) :=
  Conn.run_inv (P := fun c' => OffersSince c c')
    (fun _ ev hP => hP.steps h.recv.life (step_steps hP.inv.recv.life.keyed ev)) (.refl h) evs

theorem Conn.TypesFit.of_since (h : c'.TypesFit) (hsince : LimitsSince c c') : c.TypesFit := by
  intro id hmem
  have hfits := h id (Conn.mem_openedIds.2 (hsince.opened id (Conn.mem_openedIds.1 hmem)))
  rw [hsince.connType, hsince.settings] at hfits
  exact hfits

theorem OffersInv.honours (h : OffersInv c) (hlt : c.reachTotal < 2 ^ 63) (hfits : c.TypesFit) :
    c.Honours :=
  ⟨(h.offers hlt).data, fun id s hs => (h.offers hlt).stream id s hs
    (hfits id (Conn.mem_openedIds.2 (h.recv.life.stored id s hs)))⟩

theorem Conn.Covers.recvd {id : StreamId} {n : ℕ} (h : c.Covers id n) (pktNum pos : ℕ) (f : Frame) :
    (c.addLog (.recvd pktNum pos f)).Covers id n := by
  have hreach : ∀ i, (c.addLog (.recvd pktNum pos f)).reach i = c.reach i := by
    intro i
    have hlog : (c.addLog (.recvd pktNum pos f)).log = c.log ++ [.recvd pktNum pos f] := rfl
    rw [reach_entry hlog]
    exact Nat.max_zero _
  have hopened : (c.addLog (.recvd pktNum pos f)).openedIds = c.openedIds :=
    openedIds_of_life (Conn.life_of_silent rfl rfl)
  have hoffer : ∀ limitOf, largestIn (LogEntry.offer limitOf) (c.addLog (.recvd pktNum pos f)).log =
      largestIn (LogEntry.offer limitOf) c.log := by
    intro limitOf
    show largestIn _ (c.log ++ [_]) = _
    rw [largestIn_append]
    exact Nat.max_zero _
  constructor
  · unfold Conn.offeredStreamData
    rw [hreach, hoffer]
    exact h.stream
  · unfold Conn.offeredData
    rw [hopened, hoffer]
    simp only [hreach]
    exact h.conn

/-- The stream that a frame within the limits reaches has room for it. -/
theorem FoundPeer.withinLimits {s : Stream} {f : StreamFrame} {accept : Bool} (h : OffersInv c)
    (hlt : c.reachTotal < 2 ^ 63) (hfound : FoundPeer c s.streamId accept c' s) (hrecv : s.Receives)
    (hcovers : c.Covers s.streamId f.endOffset)
    (hlimit : c.offeredStreamData s.streamId ≤ s.streamFlowCtl.maxStreamDataCanRecv) :
    withinLimits c'.toConnRecv s f := by
  obtain ⟨recved, read, hledger, hreach⟩ := h.recv.ledger
  have hmax : s.streamMaxRecvOffset = recved s.streamId := by
    rcases hfound.cases with rfl | ⟨hopens, hnew⟩
    · exact (hledger.live _ s (Conn.lastState_of_some hfound.stored) hrecv).2.1.symm
    · have hnot : s.streamId ∉ c.openedIds := fun hmem =>
        hopens.not_opened h.recv.life (Conn.mem_openedIds.1 hmem)
      rw [hnew.maxRecvOffset, (hledger.unopened _ hnot).1]
  have hwith := (hledger.dataRecved_with hreach hlt s.streamId f.endOffset).trans hcovers.conn
  have hdata := (h.offers hlt).data
  have hsized := (h.recv.sized hlt).conn.limit
  constructor
  · rw [hfound.maxDataCanRecv]
    unfold countRecved
    split_ifs with hbeyond
    · show u64Add c'.connFlowCtl.dataRecved (f.endOffset - s.streamMaxRecvOffset) ≤ _
      rw [hfound.dataRecved, hmax, u64Add_eq (by omega)]
      omega
    · show c'.connFlowCtl.dataRecved ≤ _
      rw [hfound.dataRecved]
      omega
  · rw [hmax]
    exact (max_le_max (hreach _) le_rfl).trans (hcovers.stream.trans hlimit)

theorem processStreamFrameConn_notRefused {env : FrameEnv} {id offset : ℕ} {fin : Bool} {data : Bytes}
    (h : OffersInv c) (hend : offset + data.length < 2 ^ 62) (hcovers : c.Covers id (offset + data.length))
    (hlt : (processStreamFrameConn env c id offset fin data).1.reachTotal < 2 ^ 63)
    (hfits : (processStreamFrameConn env c id offset fin data).1.TypesFit) :
    c.NotRefused (processStreamFrameConn env c id offset fin data).1 := by
  have hnot := peerStream_notRefused c id env.accept
  have hpeer : ConnSteps (fun _ => True) c (peerStream c id env.accept).1 :=
    peerStream_steps (fun _ => trivial) env.accept
  unfold processStreamFrameConn at hlt hfits ⊢
  rcases hp : peerStream c id env.accept with ⟨c₁, _ | s⟩
  · rw [hp] at hnot
    exact hnot
  rw [hp] at hnot hpeer hlt hfits
  have hfound := peerStream_some h.recv.life.keyed hp
  obtain rfl := hfound.streamId
  dsimp only at hlt hfits ⊢
  have hdeliver : ConnStep (fun _ => True) c₁ _ :=
    .deliver c₁ s { data := data, dataOffset := offset, fin := fin } hfound.stored hend trivial
  have hlt₁ := hdeliver.reachTotal_le.trans_lt hlt
  have h₁ := (OffersSince.refl h).steps h.recv.life hpeer
  have hfits₁ := hfits.of_since (((OffersSince.refl h₁.inv).step h₁.inv.recv.life hdeliver).limits hlt)
  refine fun herr => hnot (processStreamFrame_flowControl (fun hrecv => ?_) herr)
  refine hfound.withinLimits h (h₁.total.trans_lt hlt₁) hrecv hcovers ?_
  -- the stream stands as it does behind the lookup
  exact ((h₁.limits hlt₁).offered _).trans ((h₁.inv.honours hlt₁ hfits₁).stream _ s hfound.stored)

/-- **A STREAM frame within the limits that were advertised is not refused.** -/
theorem Conn.KeepsToOffers.notRefused {ev : ConnEvent} (hkeeps : c.KeepsToOffers ev) (h : OffersInv c)
    (hlt : (c.step ev).reachTotal < 2 ^ 63) (hfits : (c.step ev).TypesFit) : c.NotRefused (c.step ev) := by
  unfold Conn.KeepsToOffers at hkeeps
  split at hkeeps
  case h_2 => exact hkeeps.elim
  rename_i env pkt pos frameLen id offset fin data hwire
  rw [Conn.step_frame] at hlt hfits ⊢
  split_ifs at hlt hfits ⊢ with htakes
  · have hrecvd : ConnStep (fun _ => True) c _ :=
      .recvd c pkt.pktNum pos ⟨.stream id offset fin data, hwire⟩
    exact processStreamFrameConn_notRefused (h.step hrecvd) hwire.2 (hkeeps.recvd ..) hlt hfits
  · exact fun herr => herr

end Runs

theorem connCreate_offersInv (connType : ConnType) {settings : ConnSettings} (header : PktType → Bytes)
    (hinit : settings.initRecvWindow < 2 ^ 32) : OffersInv (connCreate connType settings header) := by
  refine ⟨connCreate_recvInv connType header hinit, fun _ => ⟨?_, fun id s hs => ?_, fun _ _ => rfl⟩⟩
  · exact (Nat.max_zero _).le
  · cases hs

/-- **The limits that the endpoint has advertised are honoured.** In every run where the peer names less
than `2 ^ 63` bytes, and where the types of the streams that are opened ask for no more than a
client-initiated bidirectional stream: what is enforced is not below what was advertised, no limit is
lowered later, and a STREAM frame within what was advertised is not refused by flow control. -/
theorem run_honours (connType : ConnType) (settings : ConnSettings) (header : PktType → Bytes)
    (evs evs' : List ConnEvent) (hinit : settings.initRecvWindow < 2 ^ 32)
    (htotal : ((connCreate connType settings header).run (evs ++ evs')).reachTotal < 2 ^ 63)
    (hfits : ((connCreate connType settings header).run (evs ++ evs')).TypesFit) :
    ((connCreate connType settings header).run evs).Honours ∧
      LimitsKept ((connCreate connType settings header).run evs)
        ((connCreate connType settings header).run (evs ++ evs')) ∧
      ∀ ev ∈ evs'.head?, ((connCreate connType settings header).run evs).KeepsToOffers ev →
        ((connCreate connType settings header).run evs).NotRefused
          (((connCreate connType settings header).run evs).step ev) := by
  have hinv := ((connCreate_offersInv connType header hinit).run evs).inv
  rw [Conn.run_append] at htotal hfits ⊢
  generalize (connCreate connType settings header).run evs = c at *
  have hsince := hinv.run evs'
  refine ⟨hinv.honours (hsince.total.trans_lt htotal) (hfits.of_since (hsince.limits htotal)),
    (hsince.limits htotal).kept, fun ev hev hkeeps => ?_⟩
  cases evs' with
  | nil => cases hev
  | cons ev' evs' =>
      obtain rfl := Option.some.inj hev
      have hnext := (hinv.run [ev']).inv.run evs'
      exact hkeeps.notRefused hinv (hnext.total.trans_lt htotal) (hfits.of_since (hnext.limits htotal))

/-- The client sends three bytes on its stream 0. -/
def threeBytes : ConnEvent := oneRttFrame (.stream 0 0 false [1, 2, 3]) (by decide)

/-- The server takes them. -/
theorem run_honours_threeBytes :
    (newServer.run serverHandshake).Honours ∧
      ((newServer.run serverHandshake).step threeBytes).connErr = none ∧
      (newServer.run serverHandshake).NotRefused ((newServer.run serverHandshake).step threeBytes) := by
  have htotal : (newServer.run (serverHandshake ++ [threeBytes])).reachTotal < 2 ^ 63 := by decide +kernel
  have hfits : (newServer.run (serverHandshake ++ [threeBytes])).TypesFit := by decide +kernel
  have hcovers : (newServer.run serverHandshake).Covers 0 3 := by constructor <;> decide +kernel
  obtain ⟨hhonours, -, hframe⟩ :=
    run_honours .server _ _ serverHandshake [threeBytes] (by decide) htotal hfits
  exact ⟨hhonours, by decide +kernel, hframe threeBytes rfl hcovers⟩

/-! ## A type that does not fit -/

/-- A client that limits the rate of its streams. -/
def limitedClient : Conn := connCreate .client ⟨0, true, 0, 1200, 1500, 0, 0, 0⟩ fun _ => []

/-- The client starts, and the handshake of the server arrives. -/
def clientStarts : List ConnEvent :=
  [.handshake, initialFrame (.handshake [] clientParams []) trivial]

/-- The server opens its first bidirectional stream, far behind its start. -/
def serverOpens : ConnEvent := oneRttFrame (.stream 1 70000 false [7]) (by decide)

/-- **A stream of the server is refused within the limit that was advertised**: the client enforces the
limit of its own streams. -/
theorem not_run_honours :
    ¬ ∀ (connType : ConnType) (settings : ConnSettings) (header : PktType → Bytes)
      (evs : List ConnEvent) (ev : ConnEvent), settings.initRecvWindow < 2 ^ 32 →
      (((connCreate connType settings header).run evs).step ev).reachTotal < 2 ^ 63 →
      ((connCreate connType settings header).run evs).KeepsToOffers ev →
      ((connCreate connType settings header).run evs).NotRefused
        (((connCreate connType settings header).run evs).step ev) := by
  intro h
  have htotal : ((limitedClient.run clientStarts).step serverOpens).reachTotal < 2 ^ 63 := by
    decide +kernel
  have hcovers : (limitedClient.run clientStarts).Covers 1 70001 := by constructor <;> decide +kernel
  have hnot := h .client _ _ clientStarts serverOpens (by decide) htotal hcovers
  have herr : ((limitedClient.run clientStarts).step serverOpens).connErr = some .flowControlError := by
    decide +kernel
  have hnone : (limitedClient.run clientStarts).connErr = none := by decide +kernel
  have hwas : (limitedClient.run clientStarts).connErr = some .flowControlError := hnot herr
  rw [hnone] at hwas
  cases hwas

end Rquic
