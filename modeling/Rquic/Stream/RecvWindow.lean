import Rquic.Stream.Progress

set_option autoImplicit false

/-!
# The receive windows

A window update moves the limit to the read offset plus the window, by two subtractions that could wrap
around. While the counters are small they do not, and no limit is ever lowered.

* `Stream.Sized`, `ConnRecv.Sized`: the windows and the offsets are small.
* `u64Add_window`: a limit that is moved behind a read offset.
* `WindowMoved`: what a step does to the limits of a stream and of the connection.
* **`streamRecv_windowMoved`**, **`processStreamFrame_windowMoved`**: a read and a frame raise them.
-/

namespace Rquic

/-- The receive window of the stream and its offsets are small. -/
structure Stream.Sized (s : Stream) : Prop where
  limit : s.streamFlowCtl.maxStreamDataCanRecv < 2 ^ 64
  window : s.streamFlowCtl.streamRecvWindowSize < 2 ^ 32
  max : s.streamMaxRecvOffset < 2 ^ 62
  next : s.streamDataIn.nextReadOffset < 2 ^ 62

/-- The receive window of the connection is small. -/
structure ConnRecv.Sized (r : ConnRecv) : Prop where
  limit : r.connFlowCtl.maxDataCanRecv < 2 ^ 64
  window : r.connFlowCtl.recvWindowsSize < 2 ^ 43

/-- The limits of the stream and of the connection stay or are raised. -/
structure WindowMoved (r : ConnRecv) (s : Stream) (r' : ConnRecv) (s' : Stream) : Prop where
  connLimit : r.connFlowCtl.maxDataCanRecv ≤ r'.connFlowCtl.maxDataCanRecv
  connSized : r'.Sized
  limit : s.streamFlowCtl.maxStreamDataCanRecv ≤ s'.streamFlowCtl.maxStreamDataCanRecv
  sized : s'.Sized

/-- A limit is moved to the read offset plus the window. -/
theorem u64Add_window {limit next window : ℕ} (hlimit : limit < 2 ^ 64) (hsum : next + window < 2 ^ 64)
    (h : u64Sub limit next < window) :
    u64Add limit (window - u64Sub limit next) = next + window ∧ limit ≤ next + window := by
  have hnext : next % 2 ^ 64 = next := Nat.mod_eq_of_lt (by omega)
  have hle : u64Sub limit next = limit - next ∧ next ≤ limit ∨ u64Sub limit next = limit + 2 ^ 64 - next := by
    unfold u64Sub
    rw [hnext]
    omega
  unfold u64Add
  omega

section Windows

variable {env : RecvEnv} {r : ConnRecv} {s : Stream}

theorem streamRecvWindow_lt (env : RecvEnv) (r : ConnRecv) (h : s.Sized) : streamRecvWindow env r s < 2 ^ 32 := by
  have hmax : maxRecvWindow < 2 ^ 32 := by decide
  unfold streamRecvWindow
  split_ifs
  · exact (min_le_right _ _).trans_lt hmax
  · exact h.window
  · exact (min_le_left _ _).trans_lt hmax

theorem connRecvWindow_lt (env : RecvEnv) (h : r.Sized)
    (hs : s.streamFlowCtl.streamRecvWindowSize < 2 ^ 32) : connRecvWindow env r s < 2 ^ 43 := by
  have hmax : maxRecvWindow < 2 ^ 43 := by decide
  have hthree : 3 * s.streamFlowCtl.streamRecvWindowSize / 2 < 2 ^ 43 := by omega
  unfold connRecvWindow
  dsimp only
  split_ifs
  · exact hthree
  · exact (min_le_right _ _).trans_lt hmax
  · exact hthree
  · exact h.window
  · exact (min_le_left _ _).trans_lt hmax

theorem streamWindowUpdate_moved (env : RecvEnv) (r : ConnRecv) (h : s.Sized) :
    s.streamFlowCtl.maxStreamDataCanRecv ≤
        (streamWindowUpdate env r s).1.streamFlowCtl.maxStreamDataCanRecv ∧
      (streamWindowUpdate env r s).1.Sized := by
  have hwindow := streamRecvWindow_lt env r h
  have hnext := h.next
  unfold streamWindowUpdate
  dsimp only
  by_cases hhalf : u64Sub s.streamFlowCtl.maxStreamDataCanRecv s.streamDataIn.nextReadOffset <
      s.streamFlowCtl.streamRecvWindowSize / 2
  · rw [if_pos hhalf]
    by_cases hlt : u64Sub s.streamFlowCtl.maxStreamDataCanRecv s.streamDataIn.nextReadOffset <
        streamRecvWindow env r s
    · rw [if_pos hlt]
      obtain ⟨heq, hle⟩ := u64Add_window h.limit (by omega) hlt
      exact ⟨hle.trans_eq heq.symm, ⟨Nat.mod_lt _ (by decide), hwindow, h.max, h.next⟩⟩
    · rw [if_neg hlt]
      exact ⟨le_rfl, ⟨h.limit, hwindow, h.max, h.next⟩⟩
  · rw [if_neg hhalf]
    exact ⟨le_rfl, h⟩

theorem connWindowUpdate_moved (env : RecvEnv) (h : r.Sized) (hread : r.connFlowCtl.dataRead < 2 ^ 63)
    (hs : s.streamFlowCtl.streamRecvWindowSize < 2 ^ 32) :
    r.connFlowCtl.maxDataCanRecv ≤ (connWindowUpdate env r s).1.connFlowCtl.maxDataCanRecv ∧
      (connWindowUpdate env r s).1.Sized := by
  have hwindow := connRecvWindow_lt env h hs
  unfold connWindowUpdate
  dsimp only
  by_cases hhalf : u64Sub r.connFlowCtl.maxDataCanRecv r.connFlowCtl.dataRead <
      r.connFlowCtl.recvWindowsSize / 2
  · rw [if_pos hhalf]
    by_cases hlt : u64Sub r.connFlowCtl.maxDataCanRecv r.connFlowCtl.dataRead < connRecvWindow env r s
    · rw [if_pos hlt]
      obtain ⟨heq, hle⟩ := u64Add_window h.limit (by omega) hlt
      exact ⟨hle.trans_eq heq.symm, ⟨Nat.mod_lt _ (by decide), hwindow⟩⟩
    · rw [if_neg hlt]
      exact ⟨le_rfl, ⟨h.limit, hwindow⟩⟩
  · rw [if_neg hhalf]
    exact ⟨le_rfl, h⟩

theorem WindowMoved.same {r' : ConnRecv} {s' : Stream} (hr : r.Sized) (hs : s.Sized)
    (hlimit : r'.connFlowCtl.maxDataCanRecv = r.connFlowCtl.maxDataCanRecv)
    (hwindow : r'.connFlowCtl.recvWindowsSize = r.connFlowCtl.recvWindowsSize)
    (hflow : s'.streamFlowCtl = s.streamFlowCtl) (hmax : s'.streamMaxRecvOffset < 2 ^ 62)
    (hnext : s'.streamDataIn.nextReadOffset < 2 ^ 62) : WindowMoved r s r' s' := by
  refine ⟨hlimit.ge, ⟨?_, ?_⟩, ?_, ⟨?_, ?_, hmax, hnext⟩⟩
  · exact hlimit.trans_lt hr.limit
  · exact hwindow.trans_lt hr.window
  · rw [hflow]
  · rw [hflow]
    exact hs.limit
  · rw [hflow]
    exact hs.window

/-- **A read raises the limits.** -/
theorem streamRecv_windowMoved (env : RecvEnv) (k : ℕ) (hr : r.Sized) (hs : s.Sized)
    (hbounded : s.Receives → s.Bounded)
    (hread : (streamRecv env r s k).conn.connFlowCtl.dataRead < 2 ^ 63) :
    WindowMoved r s (streamRecv env r s k).conn (streamRecv env r s k).stream := by
  by_cases hrecv : s.Receives
  · have hle := recvLoop_next_le s.streamDataIn.mergedOffsetEnd k [] (hbounded hrecv).buf.frames
      (hbounded hrecv).next
    have hreset : ¬ RecvStreamState.resetRecvd.toNat ≤ s.streamStateRecv.toNat := not_le.2 hrecv
    unfold streamRecv at hread ⊢
    rw [if_neg hreset] at hread ⊢
    dsimp only [streamDoRecvFlowCtl] at hread ⊢
    generalize hloop : recvLoop s.streamDataIn.mergedOffsetEnd k s.streamDataIn.framesTailq
      s.streamDataIn.nextReadOffset [] = loop at hle hread ⊢
    -- the stream and the connection in front of the updates
    generalize hs₁ : ({ markDataRead r.connType _ _ with readyToRead := false } : Stream) = s₁ at hread ⊢
    generalize hr₁ : ({ r with connFlowCtl := _ } : ConnRecv) = r₁ at hread ⊢
    have hread₁ : (connWindowUpdate env r₁ (streamWindowUpdate env r₁ s₁).1).1.connFlowCtl.dataRead =
        r₁.connFlowCtl.dataRead := by
      unfold connWindowUpdate
      dsimp only
      split_ifs <;> rfl
    rw [hread₁] at hread
    have hflow₁ : s₁.streamFlowCtl = s.streamFlowCtl := by
      rw [← hs₁]
      unfold markDataRead
      split_ifs <;> simp
    have hsized₁ : s₁.Sized := by
      refine ⟨?_, ?_, ?_, ?_⟩
      · rw [hflow₁]
        exact hs.limit
      · rw [hflow₁]
        exact hs.window
      · rw [← hs₁]
        simpa using hs.max
      · rw [← hs₁]
        simpa using hle.trans_lt hs.max
    have hr₁sized : r₁.Sized := by
      rw [← hr₁]
      exact ⟨hr.limit, hr.window⟩
    obtain ⟨hlimit, hsized⟩ := streamWindowUpdate_moved env r₁ hsized₁
    obtain ⟨hconn, hconnSized⟩ := connWindowUpdate_moved env hr₁sized hread hsized.window
    refine ⟨?_, hconnSized, ?_, hsized⟩
    · rw [← hr₁] at hconn ⊢
      exact hconn
    · rw [← hflow₁]
      exact hlimit
  · unfold streamRecv
    rw [if_pos (not_lt.1 hrecv)]
    exact .same hr hs rfl rfl (by simp) (by simpa using hs.max) (by simpa using hs.next)

/-- **A frame leaves the limits as they are.** -/
theorem processStreamFrame_windowMoved {f : StreamFrame} (hr : r.Sized) (hs : s.Sized)
    (hend : f.endOffset < 2 ^ 62) (hbounded : s.Receives → s.Bounded) :
    WindowMoved r s (processStreamFrame r s f).1 (processStreamFrame r s f).2.1 := by
  by_cases hrecv : s.Receives
  · have hdelivered := processStreamFrame_delivered r f hrecv (hbounded hrecv)
    have hflow : (processStreamFrame r s f).2.1.streamFlowCtl = s.streamFlowCtl := by
      rcases processStreamFrame_cases r s f hrecv with
        ⟨-, heq⟩ | ⟨-, -, heq⟩ | ⟨-, -, -, heq⟩ | ⟨-, -, -, -, heq⟩ | ⟨-, -, -, di, -, heq⟩
      · rw [heq]
      · rw [heq]
      · rw [heq]
        cases f.fin <;> exact recordFin_flowCtl
      · rw [heq]
        exact recordFin_flowCtl
      · rw [heq]
        exact processRecvFlowCtl_flowCtl.trans recordFin_flowCtl
    refine .same hr hs ?_ ?_ hflow ?_ ?_
    · rw [hdelivered.flowCtl]
      split_ifs <;> rfl
    · rw [hdelivered.flowCtl]
      split_ifs <;> rfl
    · exact hdelivered.le.trans_lt (max_lt hs.max hend)
    · rw [hdelivered.next]
      exact hs.next
  · rw [processStreamFrame_of_reset r f hrecv]
    exact .same hr hs rfl rfl rfl hs.max hs.next

end Windows

end Rquic
