/-
  Savannah.Master.Retire

  Downlink admission and frame retirement:
  `Agora::ScheduleDownlinkProcessing` (`agora.cc` lines 133-155) and
  `Agora::CheckFrameComplete` (lines 1271-1336), with the release loop over
  `encode_deferral_` that retirement runs.

  The frame-identity guard of retirement is only an `assert`; the model keeps
  its check as a note and retires whatever slot the counters say is done.
  The deferral lemmas at the end are the step facts of the deferral-queue
  invariant: a retirement releases at most the front of a sorted queue whose
  entries are all at least `cur_proc + kScheduleQueues`, and the `RtAssert`
  of the release loop then holds.
-/
import Savannah.Master.Cursor

namespace Savannah

namespace Agora

variable (cfg : Config) (a : Agora)

/-- `ScheduleDownlinkProcessing(frame_id)`: the broadcast symbols, the precoding
    of the beamformed pilot symbols (deferred through
    `encode_cur_frame_for_symbol_` while the frame's beam is not done) and the
    encoding of the data symbols. -/
def scheduleDownlinkProcessing (frameId : Nat) : Agora :=
  let a := a.note (.downlink frameId a.curProcFrameId)
  let a := if cfg.numDlControlSyms > 0 then a.scheduleBroadCastSymbols .broadcast frameId else a
  let a := (List.range cfg.clientDlPilotSymbols).foldl (fun (a : Agora) (i : Nat) =>
      if a.beamLastFrame = some frameId then
        a.scheduleSubcarriers cfg .precode frameId (cfg.getDLSymbol i)
      else
        let cur := Function.update a.encodeCurFrameForSymbol i (some frameId)
        { a with encodeCurFrameForSymbol := cur }) a
  (List.range' cfg.clientDlPilotSymbols (cfg.numDLSyms - cfg.clientDlPilotSymbols)).foldl
    (fun (a : Agora) i => a.scheduleCodeblocks cfg .encode .downlink frameId (cfg.getDLSymbol i)) a

/-- The release loop of `CheckFrameComplete`: at most `fuel` (`kScheduleQueues`)
    times, schedule the front of `encode_deferral_` and pop it while it lies
    below `cur_proc_frame_id_ + kScheduleQueues`. -/
def releaseDeferred : Nat → Agora → Agora
  | 0, a => a
  | fuel + 1, a =>
    match a.encodeDeferral with
    | [] => a
    | f :: rest =>
      if f < a.curProcFrameId + cfg.scheduleQueues then
        let a := if a.curProcFrameId ≤ f then a else a.note (.rtAssertFails f)
        releaseDeferred fuel { a.scheduleDownlinkProcessing cfg f with encodeDeferral := rest }
      else a

/-- The terminal counters `CheckFrameComplete` tests: IFFT and TX, and decode
    (no MAC), demul (hard demod) or to-MAC (MAC). -/
def terminalClosed (frameId : Nat) : Bool :=
  a.isLastSymbol cfg .ifft frameId && a.isLastSymbol cfg .tx frameId &&
    ((!cfg.enableMac && a.isLastSymbol cfg .decode frameId) ||
      (cfg.uplinkHardDemod && a.isLastSymbol cfg .demul frameId) ||
      (cfg.enableMac && a.isLastSymbol cfg .tomac frameId))

/-- The retirement of the frame in the slot of `frameId`: the resets, the slot's
    DL-bits status, `cur_proc_frame_id_++`. -/
def retire (frameId : Nat) : Agora :=
  let a := a.checkAssert .proc frameId
  let a := if cfg.uplinkHardDemod then a.resetCounter cfg .demul frameId else a
  let a := ((((a.resetCounter cfg .decode frameId).resetCounter cfg .tomac frameId).resetCounter
    cfg .ifft frameId).resetCounter cfg .tx frameId)
  let a := if cfg.numDLSyms > 0 then
      let status := fun ue slot =>
        if ue < cfg.spatialStreamsNum ∧ slot = frameId % cfg.frameWnd then 0
        else a.dlBitsStatus ue slot
      { a with dlBitsStatus := status }
    else a
  { a with curProcFrameId := a.curProcFrameId + 1 }.note (.retire frameId)

/-- `CheckFrameComplete(frame_id)`: `(finished, state)`. -/
def checkFrameComplete (frameId : Nat) : Bool × Agora :=
  if a.terminalClosed cfg frameId then
    let a := a.retire cfg frameId
    if frameId = cfg.framesToTest - 1 then (true, a)
    else (false, releaseDeferred cfg cfg.scheduleQueues a)
  else (false, a)

/-! ## What downlink admission and retirement leave alone -/

theorem scheduleDownlinkProcessing_extends_note (frameId : Nat) :
    Extends (a.note (.downlink frameId a.curProcFrameId))
      (a.scheduleDownlinkProcessing cfg frameId) := by
  have hb : Extends (a.note (.downlink frameId a.curProcFrameId))
      (let a := a.note (.downlink frameId a.curProcFrameId)
       if cfg.numDlControlSyms > 0 then a.scheduleBroadCastSymbols .broadcast frameId else a) := by
    split_ifs
    exacts [scheduleBroadCastSymbols_extends _ _, .refl _]
  refine (hb.trans (Extends.foldl _ (fun b i => ?_) _ _)).trans
    (Extends.foldl _ (fun b i => scheduleCodeblocks_extends cfg b _ _ (by decide) _) _ _)
  split_ifs
  · exact scheduleSubcarriers_extends cfg b _ _ (by decide)
  · exact ⟨rfl, rfl, rfl, rfl, [], by simp, by simp⟩

theorem scheduleDownlinkProcessing_extends (frameId : Nat) :
    Extends a (a.scheduleDownlinkProcessing cfg frameId) :=
  (note_extends a (rfl : (Note.downlink frameId a.curProcFrameId).isSweep = false)).trans
    (scheduleDownlinkProcessing_extends_note cfg a frameId)

theorem releaseDeferred_extends :
    ∀ (fuel : Nat) (a : Agora), Extends a (releaseDeferred cfg fuel a)
  | 0, a => .refl a
  | fuel + 1, a => by
    unfold releaseDeferred
    split
    · exact .refl a
    · rename_i f rest _
      split_ifs
      · exact ((scheduleDownlinkProcessing_extends cfg a f).setEncodeDeferral rest).trans
          (releaseDeferred_extends fuel _)
      · have h := (note_extends a (rfl : (Note.rtAssertFails f).isSweep = false)).trans
          (scheduleDownlinkProcessing_extends cfg _ f)
        exact (h.setEncodeDeferral rest).trans (releaseDeferred_extends fuel _)
      · exact .refl a

/-- Retirement moves the processing cursor on by one and otherwise only resets
    counters, clears the slot's DL-bits status and appends notes. -/
theorem retire_extends (frameId : Nat) :
    Extends { a with curProcFrameId := a.curProcFrameId + 1 } (a.retire cfg frameId) := by
  have h := checkAssert_extends a .proc frameId
  obtain ⟨l, hl, hn⟩ := h.log
  refine ⟨?_, ?_, ?_, ?_, l ++ [.retire frameId], ?_, fun n hn' => ?_⟩
  all_goals try (simp only [retire, resetCounter, setCounter, note]
                 split_ifs <;>
                   simp [h.curProcFrameId, h.ifftNextSymbol, h.ifftCurFrameForSymbol, h.txQueue, hl])
  rcases List.mem_append.1 hn' with h' | h'
  · exact hn n h'
  · rw [List.mem_singleton.1 h']
    rfl

/-- `CheckFrameComplete` leaves the IFFT sweep state alone, schedules no TX, and
    moves the processing cursor on by one exactly when the slot's terminal
    counters are closed, whichever frame the slot holds. -/
theorem checkFrameComplete_extends (frameId : Nat) :
    Extends { a with curProcFrameId := if a.terminalClosed cfg frameId then a.curProcFrameId + 1
                                      else a.curProcFrameId }
      (a.checkFrameComplete cfg frameId).2 := by
  unfold checkFrameComplete
  split_ifs with h1 h2
  · simpa [h1] using retire_extends cfg a frameId
  · simpa [h1] using (retire_extends cfg a frameId).trans (releaseDeferred_extends cfg _ _)
  · simp only [h1]
    exact .refl a

end Agora

end Savannah
