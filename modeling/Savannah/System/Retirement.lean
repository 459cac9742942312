/-
  Savannah.System.Retirement

  Frame retirement over whole runs.  Only `CheckFrameComplete(frame_id)`
  (`agora.cc` lines 1271-1336) moves `cur_proc_frame_id_`: once the terminal
  counters of the slot of `frame_id` are closed it asserts
  `frame_id == cur_proc_frame_id_`, resets the slot and moves the cursor on by
  one.  So in every reachable state, in every configuration, the master has
  retired exactly as many frames as the processing cursor has passed, and
  while no assert has failed it has retired the frames
  `0, 1, ..., cur_proc_frame_id_ - 1`, each once and in this order: a frame
  retired twice, as Bigstation mode allows, always leaves a failed assert in
  the log.  The processing cursor then passes the schedule cursor, and a later
  frame's downlink is started behind it.

  `Agora.RetireStep` is what one handler does to the processing cursor and to
  the retire notes of the log; each handler is one, as each moves the progress
  forward in `Savannah.Master.Progress`.
-/
import Savannah.System.Window

namespace Savannah

/-! ## Failed asserts -/

/-- Whether a note records an `assert(cursor == frame_id)` whose check fails. -/
def Note.isAssertFail : Note → Bool
  | .assertFails _ _ _ => true
  | _ => false

/-- No `assert(cursor == frame_id)` of the log has failed. -/
def NoAssertFails (l : List Note) : Prop := ∀ n ∈ l, n.isAssertFail = false

instance : DecidablePred NoAssertFails := fun _ => inferInstanceAs (Decidable (∀ _ ∈ _, _))

theorem NoAssertFails.of_prefix {l l' : List Note} (h : l <+: l') (h' : NoAssertFails l') :
    NoAssertFails l := fun n hn => h' n (h.subset hn)

/-! ## Retired frames -/

/-- The frame a note retires. -/
def Note.retiredFrame : Note → Option Nat
  | .retire f => some f
  | _ => none

/-- The frames the retire notes of a log retire, in order. -/
def retiredFrames (l : List Note) : List Nat := l.filterMap Note.retiredFrame

namespace Agora

/-- `RetireStep a b`: from `a` to `b` the log has only grown and the processing
    cursor has moved on by as many frames as retire notes were added; unless an
    assert of `b`'s log failed, those notes retire the frames the cursor moved
    past, in order. -/
structure RetireStep (a b : Agora) : Prop where
  log : a.log <+: b.log
  proc : a.curProcFrameId ≤ b.curProcFrameId
  count : (retiredFrames b.log).length + a.curProcFrameId =
    (retiredFrames a.log).length + b.curProcFrameId
  order : NoAssertFails b.log → retiredFrames b.log =
    retiredFrames a.log ++ List.range' a.curProcFrameId (b.curProcFrameId - a.curProcFrameId)

namespace RetireStep

theorem refl (a : Agora) : RetireStep a a := ⟨List.prefix_refl _, le_rfl, rfl, fun _ => by simp⟩

/-- Work that adds no retire note and leaves the processing cursor alone. -/
theorem of_same {a b : Agora} (hlog : a.log <+: b.log) (hp : b.curProcFrameId = a.curProcFrameId)
    (hr : retiredFrames b.log = retiredFrames a.log) : RetireStep a b :=
  ⟨hlog, hp.ge, by rw [hp, hr], fun _ => by simp [hp, hr]⟩

/-- Work that touches neither the log nor the processing cursor. -/
theorem of_eq {a b : Agora} (hlog : b.log = a.log) (hp : b.curProcFrameId = a.curProcFrameId) :
    RetireStep a b :=
  .of_same (hlog ▸ List.prefix_refl _) hp (by rw [hlog])

theorem trans {a b c : Agora} (h1 : RetireStep a b) (h2 : RetireStep b c) : RetireStep a c := by
  refine ⟨h1.log.trans h2.log, h1.proc.trans h2.proc, by have := h1.count; have := h2.count; omega,
    fun hc => ?_⟩
  have h := List.range'_append_1 a.curProcFrameId (b.curProcFrameId - a.curProcFrameId)
    (c.curProcFrameId - b.curProcFrameId)
  rw [Nat.add_sub_cancel' h1.proc, show c.curProcFrameId - b.curProcFrameId +
    (b.curProcFrameId - a.curProcFrameId) = c.curProcFrameId - a.curProcFrameId by
      have := h1.proc; have := h2.proc; omega] at h
  rw [h2.order hc, h1.order (hc.of_prefix h2.log), List.append_assoc, h]

theorem ite {c : Prop} [Decidable c] {a x y : Agora} (hx : RetireStep a x) (hy : RetireStep a y) :
    RetireStep a (if c then x else y) := by
  split_ifs
  exacts [hx, hy]

theorem ite₂ {c : Prop} [Decidable c] {a : Agora} {x y : Bool × Agora} (hx : RetireStep a x.2)
    (hy : RetireStep a y.2) : RetireStep a (if c then x else y).2 := by
  split_ifs
  exacts [hx, hy]

theorem foldl {β : Type} (f : Agora → β → Agora) (hf : ∀ (a : Agora) (x : β), RetireStep a (f a x)) :
    ∀ (l : List β) (a : Agora), RetireStep a (l.foldl f a)
  | [], a => refl a
  | x :: l, a => (hf a x).trans (foldl f hf l _)

end RetireStep

variable (cfg : Config) (a : Agora)

/-! ## The steps that retire no frame -/

theorem note_retireStep {n : Note} (hn : n.retiredFrame = none) : RetireStep a (a.note n) :=
  .of_same (List.prefix_append _ _) rfl (by simp [note, retiredFrames, hn])

theorem checkAssert_retireStep (c : Cursor) (frameId : Nat) : RetireStep a (a.checkAssert c frameId) := by
  unfold checkAssert
  split_ifs
  exacts [.refl a, note_retireStep a (by rfl)]

section Counters

variable (st : Stage) (frameId symbolId : Nat)

theorem completeTask_retireStep : RetireStep a (a.completeTask cfg st frameId symbolId).2 :=
  .of_eq rfl rfl

theorem completeFrameTask_retireStep : RetireStep a (a.completeFrameTask cfg st frameId).2 :=
  .of_eq rfl rfl

theorem completeSymbol_retireStep : RetireStep a (a.completeSymbol cfg st frameId).2 :=
  .of_eq rfl rfl

theorem resetCounter_retireStep : RetireStep a (a.resetCounter cfg st frameId) :=
  .of_eq rfl rfl

/-- Closing a symbol of a stage, and resetting the stage's counter when it was
    the frame's last, as the FFT, encode and precode cases do. -/
theorem closeSymbol_retireStep {b : Agora} {st' : Stage} {frameId' : Nat} (h : RetireStep a b) :
    RetireStep a (if (b.completeSymbol cfg st frameId).1 then
      (b.completeSymbol cfg st frameId).2.resetCounter cfg st' frameId'
      else (b.completeSymbol cfg st frameId).2) :=
  .ite (h.trans (.of_eq rfl rfl)) (h.trans (.of_eq rfl rfl))

end Counters

section Emitters

variable (eventType : EventType) (frameId symbolId : Nat)

theorem enqueueAll_retireStep (qid : Nat) (es : List EventData) :
    RetireStep a (a.enqueueAll qid es) := .of_eq rfl rfl

theorem enqueueTask_retireStep (qid : Nat) (e : EventData) :
    RetireStep a (a.enqueueTask qid e) := .of_eq rfl rfl

theorem scheduleAntennas_retireStep :
    RetireStep a (a.scheduleAntennas cfg eventType frameId symbolId) :=
  (note_retireStep a (by rfl)).trans (enqueueAll_retireStep _ _ _)

theorem scheduleCodeblocks_retireStep (dir : Direction) :
    RetireStep a (a.scheduleCodeblocks cfg eventType dir frameId symbolId) :=
  (note_retireStep a (by rfl)).trans (enqueueAll_retireStep _ _ _)

theorem scheduleSubcarriers_retireStep :
    RetireStep a (a.scheduleSubcarriers cfg eventType frameId symbolId) := by
  unfold scheduleSubcarriers
  cases eventType <;> exact (note_retireStep a (by rfl)).trans (enqueueAll_retireStep _ _ _)

theorem scheduleBroadCastSymbols_retireStep :
    RetireStep a (a.scheduleBroadCastSymbols eventType frameId) :=
  (note_retireStep a (by rfl)).trans (enqueueTask_retireStep _ _ _)

theorem scheduleUsers_retireStep : RetireStep a (a.scheduleUsers cfg frameId symbolId) :=
  (note_retireStep a (by rfl)).trans (.of_eq rfl rfl)

theorem scheduleAntennasTX_retireStep : RetireStep a (a.scheduleAntennasTX cfg frameId symbolId) :=
  (note_retireStep a (by rfl)).trans (.of_eq rfl rfl)

end Emitters

theorem checkIncrementScheduleFrame_retireStep (frameId completed : Nat) :
    RetireStep a (a.checkIncrementScheduleFrame cfg frameId completed) := by
  unfold checkIncrementScheduleFrame
  dsimp only
  have h := checkAssert_retireStep
    { a with scheduleProcessFlags := (a.scheduleProcessFlags + completed) % 256 } .sche frameId
  split_ifs
  · exact ⟨h.log, h.proc, h.count, h.order⟩
  · exact ⟨h.log, h.proc, h.count, h.order⟩

theorem scheduleDownlinkProcessing_retireStep (frameId : Nat) :
    RetireStep a (a.scheduleDownlinkProcessing cfg frameId) := by
  have hb (b : Agora) : RetireStep b (if cfg.numDlControlSyms > 0 then
      b.scheduleBroadCastSymbols .broadcast frameId else b) :=
    .ite (scheduleBroadCastSymbols_retireStep _ _ _) (.refl _)
  unfold scheduleDownlinkProcessing
  dsimp only
  refine (note_retireStep a (by rfl)).trans ((hb _).trans ((RetireStep.foldl _ (fun b i => ?_) _ _).trans
    (RetireStep.foldl _ (fun b i => scheduleCodeblocks_retireStep cfg b _ _ _ _) _ _)))
  exact .ite (scheduleSubcarriers_retireStep cfg b _ _ _) (.of_eq rfl rfl)

theorem releaseDeferred_retireStep :
    ∀ (fuel : Nat) (a : Agora), RetireStep a (releaseDeferred cfg fuel a)
  | 0, a => .refl a
  | fuel + 1, a => by
    unfold releaseDeferred
    split
    · exact .refl a
    · split_ifs
      · refine .trans ?_ (releaseDeferred_retireStep fuel _)
        exact (scheduleDownlinkProcessing_retireStep cfg a _).trans (.of_eq rfl rfl)
      · refine .trans ?_ (releaseDeferred_retireStep fuel _)
        exact (note_retireStep a (by rfl)).trans
          ((scheduleDownlinkProcessing_retireStep cfg _ _).trans (.of_eq rfl rfl))
      · exact .refl a

/-! ## Retirement -/

/-- Retirement notes the frame after the assert of `CheckFrameComplete`. -/
theorem retire_log (frameId : Nat) :
    (a.retire cfg frameId).log = (a.checkAssert .proc frameId).log ++ [.retire frameId] := by
  simp only [retire, note, resetCounter, setCounter]
  split_ifs <;> rfl

/-- Retirement moves the processing cursor on by one and notes the frame, which
    is the cursor's frame unless the assert notes its failure first. -/
theorem retire_retireStep (frameId : Nat) : RetireStep a (a.retire cfg frameId) := by
  have hp : (a.retire cfg frameId).curProcFrameId = a.curProcFrameId + 1 :=
    (retire_extends cfg a frameId).curProcFrameId
  by_cases hf : a.curProcFrameId = frameId
  · have hlog : (a.retire cfg frameId).log = a.log ++ [.retire frameId] := by
      rw [retire_log, checkAssert, cursor_proc, if_pos hf]
    refine ⟨by rw [hlog]; exact List.prefix_append _ _, by omega, ?_, fun _ => ?_⟩
    · simp [hlog, hp, retiredFrames, Note.retiredFrame]
      omega
    · simp [hlog, hp, retiredFrames, Note.retiredFrame, hf]
  · have hlog : (a.retire cfg frameId).log =
        a.log ++ [.assertFails .proc frameId a.curProcFrameId] ++ [.retire frameId] := by
      rw [retire_log, checkAssert, cursor_proc, if_neg hf]
      rfl
    refine ⟨by rw [hlog, List.append_assoc]; exact List.prefix_append _ _, by omega, ?_,
      fun hok => ?_⟩
    · simp [hlog, hp, retiredFrames, Note.retiredFrame]
      omega
    · exact absurd (hok (.assertFails .proc frameId a.curProcFrameId) (by simp [hlog]))
        (by simp [Note.isAssertFail])

theorem checkFrameComplete_retireStep (frameId : Nat) :
    RetireStep a (a.checkFrameComplete cfg frameId).2 := by
  unfold checkFrameComplete
  split_ifs
  · exact retire_retireStep cfg a frameId
  · exact (retire_retireStep cfg a frameId).trans (releaseDeferred_retireStep cfg _ _)
  · exact .refl a

/-! ## The IFFT sweep -/

theorem ifftSweep_retireStep (frameId : Nat) :
    ∀ (fuel symId : Nat) (a : Agora), RetireStep a (ifftSweep cfg frameId fuel symId a)
  | 0, _, a => .refl a
  | fuel + 1, symId, a => by
    unfold ifftSweep
    refine .ite (.ite (.trans ?_ (ifftSweep_retireStep frameId fuel _ _)) (.refl a))
      (note_retireStep a (by rfl))
    exact (scheduleAntennasTX_retireStep cfg a _ _).trans (.of_eq rfl rfl)

theorem ifftRecord_retireStep (frameId d : Nat) : RetireStep a (a.ifftRecord cfg frameId d) := by
  unfold ifftRecord
  dsimp only
  have h : RetireStep a { a with
      ifftCurFrameForSymbol := Function.update a.ifftCurFrameForSymbol d (some frameId) } :=
    .of_eq rfl rfl
  exact .ite (h.trans (ifftSweep_retireStep cfg frameId _ _ _)) h

theorem ifftSymbolDone_retireStep (frameId symbolId : Nat) :
    RetireStep a (a.ifftSymbolDone cfg frameId symbolId).2 := by
  unfold ifftSymbolDone
  dsimp only
  have h := (ifftRecord_retireStep cfg a frameId (cfg.getDLSymbolIdx symbolId)).trans
    (completeSymbol_retireStep cfg _ .ifft frameId)
  refine .ite₂ ?_ h
  refine .trans ?_ (checkFrameComplete_retireStep cfg _ _)
  refine .trans ?_ (checkIncrementScheduleFrame_retireStep cfg _ _ _)
  refine .trans ?_ (checkAssert_retireStep _ _ _)
  exact h.trans (.of_eq rfl rfl)

/-! ## The cases of `HandleEvents` -/

section Handlers

variable (tag : Tag)

theorem handleEventFft_retireStep : RetireStep a (a.handleEventFft cfg tag) := by
  unfold handleEventFft
  dsimp only
  split
  · -- pilot: the beam once the frame's last pilot closes
    have h := (completeTask_retireStep cfg a .pilotFft tag.frameId tag.symbolId).trans
      (completeSymbol_retireStep cfg _ .pilotFft tag.frameId)
    exact .ite (.ite (h.trans ((resetCounter_retireStep cfg _ _ _).trans
      (scheduleSubcarriers_retireStep cfg _ _ _ _))) h) (completeTask_retireStep cfg a _ _ _)
  · -- uplink: the symbol's demul once the frame's beam is done
    refine .ite (closeSymbol_retireStep cfg a _ _ ?_) (completeTask_retireStep cfg a _ _ _)
    refine .ite (.trans ?_ (scheduleSubcarriers_retireStep cfg _ _ _ _)) ?_
    all_goals
      exact (completeTask_retireStep cfg a .uplinkFft tag.frameId tag.symbolId).trans
        (.of_eq rfl rfl)
  case h_3 | h_4 => -- calibration: the reciprocity counter
    have h := completeFrameTask_retireStep cfg a .rc tag.frameId
    exact .ite ((h.trans (resetCounter_retireStep cfg _ .rc tag.frameId)).trans (.of_eq rfl rfl)) h
  · exact .refl a

theorem releasePrecode_retireStep (frameId i : Nat) :
    RetireStep a (a.releasePrecode cfg frameId i) := by
  unfold releasePrecode
  split
  · exact .ite (scheduleSubcarriers_retireStep cfg a _ _ _) (.refl a)
  · exact .refl a

theorem handleBeamTag_retireStep : RetireStep a (a.handleBeamTag cfg tag) := by
  unfold handleBeamTag
  dsimp only
  refine .ite ?_ (completeFrameTask_retireStep cfg a _ _)
  refine .trans ?_ (RetireStep.foldl _ (fun b i => releasePrecode_retireStep cfg b _ i) _ _)
  refine .trans ?_ (RetireStep.foldl _
    (fun b i => .ite (scheduleSubcarriers_retireStep cfg b _ _ _) (.refl b)) _ _)
  refine .trans ?_ (resetCounter_retireStep cfg _ _ _)
  exact (completeFrameTask_retireStep cfg a .beam tag.frameId).trans (.of_eq rfl rfl)

theorem handleDemul_retireStep : RetireStep a (a.handleDemul cfg tag).2 := by
  unfold handleDemul
  dsimp only
  refine .ite₂ (.ite₂ (.ite₂ ((?h).trans ?_) (.ite₂ ((?h).trans ?_) ((?h).trans ?_))) ?h)
    (completeTask_retireStep cfg a _ _ _)
  · refine .trans ?_ (completeSymbol_retireStep cfg _ _ _)
    exact .ite (completeTask_retireStep cfg a _ _ _)
      ((completeTask_retireStep cfg a _ _ _).trans (scheduleCodeblocks_retireStep cfg _ _ _ _ _))
  · -- hard demod: the frame's uplink is done and it may retire
    exact (checkAssert_retireStep _ _ _).trans ((checkIncrementScheduleFrame_retireStep cfg _ _ _).trans
      (checkFrameComplete_retireStep cfg _ _))
  · -- Bigstation: the decode of the symbol a second time
    exact (resetCounter_retireStep cfg _ _ _).trans (scheduleCodeblocks_retireStep cfg _ _ _ _ _)
  · -- the frame's uplink is done
    exact (resetCounter_retireStep cfg _ _ _).trans
      ((checkAssert_retireStep _ _ _).trans (checkIncrementScheduleFrame_retireStep cfg _ _ _))

theorem handleDecode_retireStep : RetireStep a (a.handleDecode cfg tag).2 := by
  unfold handleDecode
  dsimp only
  refine .ite₂ (.ite₂ ((?h).trans ((checkAssert_retireStep _ _ _).trans
    (checkFrameComplete_retireStep cfg _ _))) ?h) (completeTask_retireStep cfg a _ _ _)
  refine .trans ?_ (completeSymbol_retireStep cfg _ _ _)
  exact .ite ((completeTask_retireStep cfg a _ _ _).trans (scheduleUsers_retireStep cfg _ _ _))
    (completeTask_retireStep cfg a _ _ _)

theorem handlePacketToMac_retireStep : RetireStep a (a.handlePacketToMac cfg tag).2 := by
  unfold handlePacketToMac
  dsimp only
  refine .ite₂ (.ite₂ ((?h).trans ((checkAssert_retireStep _ _ _).trans
    (checkFrameComplete_retireStep cfg _ _))) ?h) (completeTask_retireStep cfg a _ _ _)
  exact (completeTask_retireStep cfg a _ _ _).trans (completeSymbol_retireStep cfg _ _ _)

theorem handlePacketFromMac_retireStep (frameId : Nat) :
    RetireStep a (a.handlePacketFromMac cfg frameId) := by
  unfold handlePacketFromMac
  dsimp only
  refine .ite (.trans ?_ (resetCounter_retireStep cfg _ _ _)) (completeTask_retireStep cfg a _ _ _)
  have h := completeTask_retireStep cfg a .macToPhy frameId 0
  exact .ite (h.trans (.of_eq rfl rfl)) (h.trans (scheduleDownlinkProcessing_retireStep cfg _ _))

theorem handleEncodeTag_retireStep : RetireStep a (a.handleEncodeTag cfg tag) := by
  unfold handleEncodeTag
  dsimp only
  refine .ite (closeSymbol_retireStep cfg a _ _ ?_) (completeTask_retireStep cfg a _ _ _)
  refine .ite (.trans ?_ (scheduleSubcarriers_retireStep cfg _ _ _ _)) ?_
  all_goals
    exact (completeTask_retireStep cfg a .encode tag.frameId tag.symbolId).trans
      (.of_eq rfl rfl)

theorem handlePrecode_retireStep : RetireStep a (a.handlePrecode cfg tag) := by
  unfold handlePrecode
  dsimp only
  exact .ite (closeSymbol_retireStep cfg a _ _
    ((completeTask_retireStep cfg a _ _ _).trans (scheduleAntennas_retireStep cfg _ _ _ _)))
    (completeTask_retireStep cfg a _ _ _)

theorem handleIfftTags_retireStep :
    ∀ (tags : List Tag) (a : Agora), RetireStep a (handleIfftTags cfg tags a).2
  | [], a => .refl a
  | t :: ts, a => by
    unfold handleIfftTags
    dsimp only
    have h := completeTask_retireStep cfg a .ifft t.frameId t.symbolId
    have h' := h.trans (ifftSymbolDone_retireStep cfg _ t.frameId t.symbolId)
    exact .ite₂ (.ite₂ h' (h'.trans (handleIfftTags_retireStep ts _)))
      (h.trans (handleIfftTags_retireStep ts _))

theorem handleBroadcast_retireStep (frameId : Nat) :
    RetireStep a (a.handleBroadcast cfg frameId) :=
  RetireStep.foldl _ (fun b _ => scheduleAntennasTX_retireStep cfg b _ _) _ _

theorem handlePacketTX_retireStep : RetireStep a (a.handlePacketTX cfg tag).2 := by
  unfold handlePacketTX
  dsimp only
  refine .ite₂ (.ite₂ ((?h).trans (checkFrameComplete_retireStep cfg _ _)) ?h)
    (completeTask_retireStep cfg a _ _ _)
  exact (completeTask_retireStep cfg a _ _ _).trans (completeSymbol_retireStep cfg _ _ _)

theorem updateRxCounters_retireStep (frameId : Nat) :
    RetireStep a (a.updateRxCounters cfg frameId) := by
  -- the deferral or the downlink, then the packet count, which is not seen here
  have h : RetireStep a (if a.numPkts (frameId % cfg.frameWnd) = 0 ∧ cfg.enableMac = false then
      if a.encodeDeferral ≠ [] ∨ a.curProcFrameId + cfg.scheduleQueues ≤ frameId then
        { a with encodeDeferral := a.encodeDeferral ++ [frameId] }
      else a.scheduleDownlinkProcessing cfg frameId
    else a) :=
    .ite (.ite (.of_eq rfl rfl) (scheduleDownlinkProcessing_retireStep cfg a frameId)) (.refl a)
  exact ⟨h.log, h.proc, h.count, h.order⟩

theorem handlePacketRX_retireStep : RetireStep a (a.handlePacketRX cfg tag) := by
  unfold handlePacketRX
  split_ifs
  · exact .of_eq rfl rfl
  · exact (updateRxCounters_retireStep cfg a _).trans (.of_eq rfl rfl)

end Handlers

/-! ## `TryScheduleFft` and `HandleEvents` -/

theorem countFftCreated_retireStep : RetireStep a (countFftCreated cfg a) := by
  unfold countFftCreated
  dsimp only
  split_ifs
  · have h := checkIncrementScheduleFrame_retireStep cfg { a with fftCreatedCount := 0 }
      a.curScheFrameId kUplinkComplete
    exact ⟨h.log, h.proc, h.count, h.order⟩
  · exact .of_eq rfl rfl
  · exact .of_eq rfl rfl

theorem fftPop_retireStep (slot : Nat) :
    ∀ (j : Nat) (acc : List Tag) (a : Agora), RetireStep a (fftPop cfg slot j acc a).2
  | 0, _, a => .refl a
  | j + 1, acc, a => by
    unfold fftPop
    split
    · exact .refl a
    · rename_i t rest _
      have hpop : RetireStep a { a with fftQueueArr := Function.update a.fftQueueArr slot rest } :=
        .of_eq rfl rfl
      exact hpop.trans ((countFftCreated_retireStep cfg _).trans (fftPop_retireStep slot j _ _))

theorem fftBlocks_retireStep (slot qid : Nat) :
    ∀ (n : Nat) (a : Agora), RetireStep a (fftBlocks cfg slot qid n a)
  | 0, a => .refl a
  | n + 1, a => (fftPop_retireStep cfg slot cfg.fftBlockSize [] a).trans
      ((enqueueTask_retireStep _ _ _).trans (fftBlocks_retireStep slot qid n _))

theorem tryScheduleFft_retireStep : RetireStep a (a.tryScheduleFft cfg) := by
  unfold tryScheduleFft
  dsimp only
  split_ifs
  · exact fftBlocks_retireStep cfg _ _ _ a
  · exact .refl a

theorem dispatch_retireStep (e : EventData) : RetireStep a (a.dispatch cfg e).2 := by
  unfold dispatch
  split
  · exact handlePacketRX_retireStep cfg a _
  · exact RetireStep.foldl _ (fun b t => handleEventFft_retireStep cfg b t) _ _
  · exact RetireStep.foldl _ (fun b t => handleBeamTag_retireStep cfg b t) _ _
  · exact handleDemul_retireStep cfg a _
  · exact handleDecode_retireStep cfg a _
  · exact .of_eq rfl rfl
  · exact handlePacketToMac_retireStep cfg a _
  · exact handlePacketFromMac_retireStep cfg a _
  · exact RetireStep.foldl _ (fun b t => handleEncodeTag_retireStep cfg b t) _ _
  · exact handlePrecode_retireStep cfg a _
  · exact handleIfftTags_retireStep cfg _ _
  · exact handleBroadcast_retireStep cfg a _
  · exact handlePacketTX_retireStep cfg a _

theorem handleEvents_retireStep (e : EventData) : RetireStep a (a.handleEvents cfg e).2 := by
  unfold handleEvents
  dsimp only
  split_ifs
  · exact dispatch_retireStep cfg a e
  · exact (dispatch_retireStep cfg a e).trans (tryScheduleFft_retireStep cfg _)

/-! ## The handlers that end `Start`'s loop -/

/-- A result that sets `finish` comes with the retirement of frame
    `frames_to_test - 1` as the last retirement of the log. -/
def Finishes (r : Bool × Agora) : Prop :=
  r.1 = true → (retiredFrames r.2.log).getLast? = some (cfg.framesToTest - 1)

theorem finishes_false (b : Agora) : Finishes cfg (false, b) := nofun

theorem Finishes.ite {c : Prop} [Decidable c] {x y : Bool × Agora} (hx : Finishes cfg x)
    (hy : Finishes cfg y) : Finishes cfg (if c then x else y) := by
  split_ifs
  exacts [hx, hy]

/-- `CheckFrameComplete` returns `true` only with the retirement of frame
    `frames_to_test - 1`, which it notes last. -/
theorem checkFrameComplete_finishes (frameId : Nat) :
    Finishes cfg (a.checkFrameComplete cfg frameId) := by
  unfold checkFrameComplete
  split_ifs with _ hf
  · intro _
    simp [retire_log, retiredFrames, Note.retiredFrame, hf]
  · exact finishes_false cfg _
  · exact finishes_false cfg _

theorem ifftSymbolDone_finishes (frameId symbolId : Nat) :
    Finishes cfg (a.ifftSymbolDone cfg frameId symbolId) :=
  .ite cfg (checkFrameComplete_finishes cfg _ _) (finishes_false cfg _)

theorem handleIfftTags_finishes : ∀ (tags : List Tag) (a : Agora),
    Finishes cfg (handleIfftTags cfg tags a)
  | [], a => finishes_false cfg a
  | _ :: ts, _ =>
    .ite cfg (.ite cfg (ifftSymbolDone_finishes cfg _ _ _) (handleIfftTags_finishes ts _))
      (handleIfftTags_finishes ts _)

theorem dispatch_finishes (e : EventData) : Finishes cfg (a.dispatch cfg e) := by
  unfold dispatch
  split
  case h_4 => -- `kDemul`: the hard-demod path retires
    exact .ite cfg (.ite cfg (.ite cfg (checkFrameComplete_finishes cfg _ _)
      (.ite cfg (finishes_false cfg _) (finishes_false cfg _))) (finishes_false cfg _))
      (finishes_false cfg _)
  case h_5 | h_7 | h_13 => -- `kDecode`, `kPacketToMac`, `kPacketTX`: the frame's last symbol
    exact .ite cfg (.ite cfg (checkFrameComplete_finishes cfg _ _) (finishes_false cfg _))
      (finishes_false cfg _)
  case h_11 => exact handleIfftTags_finishes cfg _ _
  all_goals exact finishes_false cfg _

theorem handleEvents_finishes (e : EventData) : Finishes cfg (a.handleEvents cfg e) :=
  .ite cfg (dispatch_finishes cfg a e) (finishes_false cfg _)

end Agora

namespace Sys

variable {cfg : Config}

/-! ## Whole runs -/

/-- Only the master's handling touches the log or the processing cursor. -/
theorem step_retireStep {s s' : Sys} {act : Action} (h : step cfg s act = some s') :
    Agora.RetireStep s.agora s'.agora := by
  rcases step_cases cfg h with ⟨e, rest, -, -, rfl⟩ | ⟨-, ha, -⟩ | ⟨-, -, tx, mac, tasks, ha⟩
  · exact Agora.handleEvents_retireStep cfg s.agora e
  · exact ha ▸ .refl _
  · exact ha ▸ .of_eq rfl rfl

theorem Reachable.retired {s : Sys} (hs : Reachable cfg s) :
    (retiredFrames s.agora.log).length = s.agora.curProcFrameId ∧
      (NoAssertFails s.agora.log → retiredFrames s.agora.log = List.range s.agora.curProcFrameId) := by
  induction hs with
  | init => exact ⟨rfl, fun _ => rfl⟩
  | @step s₀ s₁ _ _ h ih =>
    have hr := step_retireStep h
    refine ⟨by have := hr.count; omega, fun hok => ?_⟩
    have hrange := List.range'_append_1 0 s₀.agora.curProcFrameId
      (s₁.agora.curProcFrameId - s₀.agora.curProcFrameId)
    rw [Nat.zero_add, Nat.sub_add_cancel hr.proc] at hrange
    rw [hr.order hok, ih.2 (hok.of_prefix hr.log), List.range_eq_range', List.range_eq_range',
      hrange]

/-- In every reachable state the master has retired as many frames as the
    processing cursor has passed, and while no assert has failed it has
    retired the frames `0, 1, ..., cur_proc_frame_id_ - 1`, each once and in
    this order. -/
theorem reachable_retired_in_order {s : Sys} (hs : Reachable cfg s) :
    (retiredFrames s.agora.log).length = s.agora.curProcFrameId ∧
      (NoAssertFails s.agora.log → retiredFrames s.agora.log = List.range s.agora.curProcFrameId) :=
  hs.retired

end Sys

/-- Frame 0 of `uplinkDoneRun` waits for its decode; the decode task runs and
    its completion is handled. -/
def frameRetiredRun : List Action :=
  uplinkDoneRun ++ [.fetchStreamer 0 0, .work 0, .fetchDoer 1, .handle]

def frameRetiredState : Sys :=
  (Sys.run Config.oneAntenna (Sys.init Config.oneAntenna) frameRetiredRun).getD
    (Sys.init Config.oneAntenna)

/-- Frame 0 retires once, with every assert holding. -/
theorem reachable_retired_in_order_frame0 :
    Sys.Reachable Config.oneAntenna frameRetiredState ∧ NoAssertFails frameRetiredState.agora.log ∧
      frameRetiredState.agora.curProcFrameId = 1 ∧ retiredFrames frameRetiredState.agora.log = [0] :=
  have hs : Sys.Reachable Config.oneAntenna frameRetiredState :=
    Sys.run_reachable _ (l := frameRetiredRun) .init (by rfl)
  have hok : NoAssertFails frameRetiredState.agora.log := by decide
  have hp : frameRetiredState.agora.curProcFrameId = 1 := by decide
  ⟨hs, hok, hp, by rw [(Sys.reachable_retired_in_order hs).2 hok, hp]; rfl⟩

/-! ## Bigstation mode -/

/-- Frame 0 is retired twice: the second decode closure retires it again with
    `cur_proc_frame_id_ = 1`, and the asserts `cur_proc_frame_id_ == frame_id`
    of the `kDecode` case and of `CheckFrameComplete` fail. -/
theorem frame_retired_twice :
    ∃ s, Sys.Reachable bigstationCfg s ∧ s.agora.log.count (.retire 0) = 2 ∧
      Note.assertFails .proc 0 1 ∈ s.agora.log ∧ s.agora.curProcFrameId = 2 :=
  Sys.reach_of_run bigstationCfg (l := duplicateDecodeRun) (by decide)

/-- Frame 1's first packet arrives after frame 0 was retired twice: its
    downlink is started with `cur_proc_frame_id_ = 2`. -/
theorem downlink_scheduled_behind_cursor :
    ∃ s, Sys.Reachable bigstationCfg s ∧ Note.downlink 1 2 ∈ s.agora.log :=
  Sys.reach_of_run bigstationCfg
    (l := duplicateDecodeRun ++ [.receive ⟨1, 0, 0⟩, .fetchStreamer 1 0, .handle]) (by decide)

namespace Sys

variable {cfg : Config}

/-! ## The end of `Start`'s loop -/

variable (cfg) in
/-- What holds once `Start`'s loop has finished: the last frame the master
    retired is `frames_to_test - 1`, and the rest of the batch was dropped. -/
def Ended (s : Sys) : Prop :=
  (retiredFrames s.agora.log).getLast? = some (cfg.framesToTest - 1) ∧ s.batch = []

/-- The step that sets `finish` ends the loop; no step after it handles or
    fetches an event, and none touches the log. -/
theorem step_ended {s s' : Sys} {act : Action} (h : step cfg s act = some s')
    (hi : s.finish = true → s.Ended cfg) : s'.finish = true → s'.Ended cfg := by
  rcases step_cases cfg h with ⟨e, rest, -, -, rfl⟩ | ⟨hc, -, hf⟩ | ⟨hb, hf, tx, mac, tasks, ha⟩
  · intro hfin
    exact ⟨Agora.handleEvents_finishes cfg s.agora e hfin, if_pos hfin⟩
  · intro hfin
    simp [canFetch, ← hf, hfin] at hc
  · intro hfin
    obtain ⟨hl, hbt⟩ := hi (hf ▸ hfin)
    exact ⟨by rw [ha]; exact hl, hb ▸ hbt⟩

theorem Reachable.ended {s : Sys} (hs : Reachable cfg s) : s.finish = true → s.Ended cfg := by
  induction hs with
  | init => exact nofun
  | step _ h ih => exact step_ended h ih

/-- `Agora::Start`'s loop ends with the retirement of frame
    `frames_to_test - 1`: in every reachable state in which `finish` is set,
    that frame is the last the master retired and the rest of the batch was
    dropped, and if no assert has failed the master has retired exactly the
    frames `0, 1, ..., frames_to_test - 1`. -/
theorem reachable_finish_retired (hpos : 0 < cfg.framesToTest) {s : Sys} (hs : Reachable cfg s)
    (hfin : s.finish = true) :
    (retiredFrames s.agora.log).getLast? = some (cfg.framesToTest - 1) ∧ s.batch = [] ∧
      (NoAssertFails s.agora.log → retiredFrames s.agora.log = List.range cfg.framesToTest) := by
  obtain ⟨hlast, hb⟩ := hs.ended hfin
  refine ⟨hlast, hb, fun hok => ?_⟩
  rw [hs.retired.2 hok] at hlast ⊢
  rw [List.getLast?_range] at hlast
  split_ifs at hlast
  rw [show s.agora.curProcFrameId = cfg.framesToTest by have := Option.some.inj hlast; omega]

end Sys

/-- One frame to test. -/
def oneFrameCfg : Config := { Config.oneAntenna with framesToTest := 1 }

def lastFrameState : Sys :=
  (Sys.run oneFrameCfg (Sys.init oneFrameCfg) frameRetiredRun).getD (Sys.init oneFrameCfg)

/-- With one frame to test, the loop finishes when frame 0 retires. -/
theorem reachable_finish_retired_oneFrame :
    0 < oneFrameCfg.framesToTest ∧ Sys.Reachable oneFrameCfg lastFrameState ∧
      lastFrameState.finish = true ∧
      (retiredFrames lastFrameState.agora.log).getLast? = some (oneFrameCfg.framesToTest - 1) ∧
      lastFrameState.batch = [] ∧ (NoAssertFails lastFrameState.agora.log →
        retiredFrames lastFrameState.agora.log = List.range oneFrameCfg.framesToTest) :=
  have hs : Sys.Reachable oneFrameCfg lastFrameState :=
    Sys.run_reachable _ (l := frameRetiredRun) .init (by rfl)
  have hfin : lastFrameState.finish = true := by decide
  ⟨by decide, hs, hfin, Sys.reachable_finish_retired (by decide) hs hfin⟩

end Savannah
