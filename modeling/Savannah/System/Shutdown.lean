/-
  Savannah.System.Shutdown

  The out-of-window path of the `kPacketRX` case (`agora.cc` lines 469-478).
  It sets `Running(false)` and breaks out of the switch only: the event's
  trailing `TryScheduleFft` still runs, and `Agora::Start` still handles the
  rest of the fetched batch, since its inner loop breaks on `finish` alone and
  `Running()` is read by the `while` condition.  No handler sets `Running()`
  back, so no batch is fetched after it.

  Outside Bigstation mode the trailing `TryScheduleFft` finds no full block
  (every event ends with one, and only the handlers move the schedule cursor),
  so the rejecting event changes nothing but `Running()`.  In Bigstation mode
  the cursor moves inside `TryScheduleFft`, and the next frame's queued
  packets wait for the next event's call, which may be the rejecting one.
-/
import Savannah.System.Batching

namespace Savannah

namespace Agora

variable (cfg : Config) (a : Agora)

/-! ## No handler sets `Running()` -/

theorem foldl_running {β : Type} (step : Agora → β → Agora)
    (h : ∀ a x, (step a x).running = a.running) :
    ∀ (l : List β) (a : Agora), (l.foldl step a).running = a.running
  | [], _ => rfl
  | x :: l, a => (foldl_running step h l _).trans (h a x)

section Running

variable (eventType : EventType) (st : Stage) (f s : Nat)

@[simp] theorem checkAssert_running (c : Cursor) : (a.checkAssert c f).running = a.running := by
  unfold checkAssert; split_ifs <;> rfl

@[simp] theorem enqueueTask_running (qid : Nat) (e : EventData) :
    (a.enqueueTask qid e).running = a.running := rfl

@[simp] theorem completeTask_running : (a.completeTask cfg st f s).2.running = a.running := rfl

@[simp] theorem completeFrameTask_running : (a.completeFrameTask cfg st f).2.running = a.running :=
  rfl

@[simp] theorem completeSymbol_running : (a.completeSymbol cfg st f).2.running = a.running := rfl

@[simp] theorem resetCounter_running : (a.resetCounter cfg st f).running = a.running := rfl

@[simp] theorem scheduleAntennas_running :
    (a.scheduleAntennas cfg eventType f s).running = a.running := rfl

@[simp] theorem scheduleCodeblocks_running (dir : Direction) :
    (a.scheduleCodeblocks cfg eventType dir f s).running = a.running := rfl

@[simp] theorem scheduleSubcarriers_running :
    (a.scheduleSubcarriers cfg eventType f s).running = a.running := by
  cases eventType <;> rfl

@[simp] theorem scheduleUsers_running : (a.scheduleUsers cfg f s).running = a.running := rfl

@[simp] theorem scheduleAntennasTX_running : (a.scheduleAntennasTX cfg f s).running = a.running :=
  rfl

@[simp] theorem checkIncrementScheduleFrame_running (completed : Nat) :
    (a.checkIncrementScheduleFrame cfg f completed).running = a.running := by
  obtain ⟨_, _, _, h⟩ := checkIncrementScheduleFrame_eq cfg a f completed
  rw [h]

@[simp] theorem scheduleDownlinkProcessing_running :
    (a.scheduleDownlinkProcessing cfg f).running = a.running := by
  unfold scheduleDownlinkProcessing
  rw [foldl_running _ (fun _ _ => scheduleCodeblocks_running ..), foldl_running]
  · split_ifs <;> rfl
  · intro b i
    split_ifs <;> simp

@[simp] theorem releaseDeferred_running :
    ∀ (fuel : Nat) (a : Agora), (releaseDeferred cfg fuel a).running = a.running
  | 0, _ => rfl
  | fuel + 1, a => by
    unfold releaseDeferred
    split
    · rfl
    · split_ifs <;> simp [releaseDeferred_running fuel, note]

@[simp] theorem retire_running : (a.retire cfg f).running = a.running := by
  simp only [retire, note]
  split_ifs <;> simp

@[simp] theorem checkFrameComplete_running : (a.checkFrameComplete cfg f).2.running = a.running := by
  unfold checkFrameComplete
  split_ifs <;> simp

@[simp] theorem countFftCreated_running : (countFftCreated cfg a).running = a.running := by
  obtain ⟨_, _, _, _, h⟩ := countFftCreated_eq cfg a
  rw [h]

@[simp] theorem fftPop_running (slot : Nat) :
    ∀ (j : Nat) (acc : List Tag) (a : Agora), (fftPop cfg slot j acc a).2.running = a.running
  | 0, _, _ => rfl
  | j + 1, acc, a => by
    unfold fftPop
    split
    · rfl
    · rw [fftPop_running slot j]; simp

@[simp] theorem fftBlocks_running (slot qid : Nat) :
    ∀ (n : Nat) (a : Agora), (fftBlocks cfg slot qid n a).running = a.running
  | 0, _ => rfl
  | n + 1, a => by simp [fftBlocks, fftBlocks_running slot qid n]

@[simp] theorem tryScheduleFft_running : (a.tryScheduleFft cfg).running = a.running := by
  unfold tryScheduleFft
  dsimp only
  split_ifs <;> simp

@[simp] theorem ifftSweep_running :
    ∀ (fuel symId : Nat) (a : Agora), (ifftSweep cfg f fuel symId a).running = a.running
  | 0, _, _ => rfl
  | fuel + 1, symId, a => by
    unfold ifftSweep
    split_ifs <;> simp [ifftSweep_running fuel, note]

@[simp] theorem ifftSymbolDone_running : (a.ifftSymbolDone cfg f s).2.running = a.running := by
  simp only [ifftSymbolDone, ifftRecord]
  split_ifs <;> simp

@[simp] theorem handleIfftTags_running :
    ∀ (tags : List Tag) (a : Agora), (handleIfftTags cfg tags a).2.running = a.running
  | [], _ => rfl
  | t :: ts, a => by
    unfold handleIfftTags
    dsimp only
    split_ifs <;> simp [handleIfftTags_running ts]

@[simp] theorem updateRxCounters_running : (a.updateRxCounters cfg f).running = a.running := by
  simp only [updateRxCounters]
  split_ifs <;> simp

@[simp] theorem handleEventFft_running (tag : Tag) : (a.handleEventFft cfg tag).running = a.running := by
  unfold handleEventFft
  dsimp only
  split <;> (try split_ifs) <;> simp

@[simp] theorem releasePrecode_running : (a.releasePrecode cfg f s).running = a.running := by
  unfold releasePrecode
  split <;> (try split_ifs) <;> simp

@[simp] theorem handleBeamTag_running (tag : Tag) : (a.handleBeamTag cfg tag).running = a.running := by
  unfold handleBeamTag
  dsimp only
  split_ifs
  · rw [foldl_running _ (fun _ _ => releasePrecode_running ..), foldl_running]
    · rfl
    · intro b i
      split_ifs <;> simp
  · rfl

@[simp] theorem handleDemul_running (tag : Tag) : (a.handleDemul cfg tag).2.running = a.running := by
  unfold handleDemul
  dsimp only
  split_ifs <;> simp

@[simp] theorem handleDecode_running (tag : Tag) : (a.handleDecode cfg tag).2.running = a.running := by
  unfold handleDecode
  dsimp only
  split_ifs <;> simp

@[simp] theorem handlePacketToMac_running (tag : Tag) :
    (a.handlePacketToMac cfg tag).2.running = a.running := by
  unfold handlePacketToMac
  dsimp only
  split_ifs <;> simp

@[simp] theorem handlePacketFromMac_running : (a.handlePacketFromMac cfg f).running = a.running := by
  unfold handlePacketFromMac
  dsimp only
  split_ifs <;> simp

@[simp] theorem handleEncodeTag_running (tag : Tag) :
    (a.handleEncodeTag cfg tag).running = a.running := by
  unfold handleEncodeTag
  dsimp only
  split_ifs <;> simp

@[simp] theorem handlePrecode_running (tag : Tag) : (a.handlePrecode cfg tag).running = a.running := by
  unfold handlePrecode
  dsimp only
  split_ifs <;> simp

@[simp] theorem handleBroadcast_running : (a.handleBroadcast cfg f).running = a.running :=
  foldl_running _ (fun _ _ => scheduleAntennasTX_running ..) _ _

@[simp] theorem handlePacketTX_running (tag : Tag) :
    (a.handlePacketTX cfg tag).2.running = a.running := by
  unfold handlePacketTX
  dsimp only
  split_ifs <;> simp

end Running

/-- The `kPacketRX` case keeps the master running exactly when it was and the
    packet lies below `cur_sche_frame_id_ + kFrameWnd`. -/
theorem handlePacketRX_running (pkt : Tag) :
    (a.handlePacketRX cfg pkt).running =
      (a.running && decide (pkt.frameId < a.curScheFrameId + cfg.frameWnd)) := by
  unfold handlePacketRX
  split_ifs with h
  · simp [Nat.not_lt.2 h]
  · simp [Nat.lt_of_not_le h]

/-- Only the out-of-window path of the `kPacketRX` case writes `running`, and
    only to clear it: a master that is not running stays so through any event. -/
theorem handleEvents_running (e : EventData) (h : a.running = false) :
    (a.handleEvents cfg e).2.running = false := by
  have hd : (a.dispatch cfg e).2.running = false := by
    unfold dispatch
    split <;> simp [h, handlePacketRX_running, foldl_running]
  unfold handleEvents
  dsimp only
  split_ifs <;> simp [hd]

/-- `HandleEvents` either finishes, skipping its trailing `TryScheduleFft`, or
    ends with it. -/
theorem handleEvents_cases (e : EventData) :
    (a.handleEvents cfg e).1 = true ∨ ∃ b : Agora, a.handleEvents cfg e = (false, b.tryScheduleFft cfg) := by
  unfold handleEvents
  dsimp only
  split_ifs with h
  · exact .inl h
  · exact .inr ⟨_, rfl⟩

/-! ## The schedule frame's FFT queue between events -/

/-- The FFT queue of the schedule frame's slot holds no full block, so
    `TryScheduleFft` has nothing to emit. -/
def fftDrained (a : Agora) : Prop :=
  (a.fftQueueArr (a.curScheFrameId % cfg.frameWnd)).length / cfg.fftBlockSize = 0

instance : DecidablePred (fftDrained cfg) := fun _ => inferInstanceAs (Decidable (_ = 0))

theorem tryScheduleFft_of_fftDrained (h : fftDrained cfg a) : a.tryScheduleFft cfg = a := by
  unfold tryScheduleFft
  dsimp only
  split_ifs
  · rw [show (a.fftQueueArr (a.curScheFrameId % cfg.frameWnd)).length / cfg.fftBlockSize = 0 from h]
    rfl
  · rfl

section NotBigstation

variable {cfg} (hbig : cfg.bigstationMode = false)
include hbig

theorem countFftCreated_curScheFrameId : (countFftCreated cfg a).curScheFrameId = a.curScheFrameId := by
  unfold countFftCreated
  split_ifs <;> simp_all

theorem fftPop_curScheFrameId (slot : Nat) : ∀ (j : Nat) (acc : List Tag) (a : Agora),
    (fftPop cfg slot j acc a).2.curScheFrameId = a.curScheFrameId
  | 0, _, _ => rfl
  | j + 1, acc, a => by
    unfold fftPop
    split
    · rfl
    · rw [fftPop_curScheFrameId slot j, countFftCreated_curScheFrameId _ hbig]

theorem fftBlocks_curScheFrameId (slot qid : Nat) :
    ∀ (n : Nat) (a : Agora), (fftBlocks cfg slot qid n a).curScheFrameId = a.curScheFrameId
  | 0, _ => rfl
  | n + 1, a => by
    simp only [fftBlocks]
    rw [fftBlocks_curScheFrameId slot qid n]
    exact fftPop_curScheFrameId hbig slot _ _ _

/-- Outside Bigstation mode `TryScheduleFft` leaves the schedule cursor alone
    and the schedule frame's queue with no full block. -/
theorem tryScheduleFft_fftDrained : fftDrained cfg (a.tryScheduleFft cfg) := by
  have hsche : (a.tryScheduleFft cfg).curScheFrameId = a.curScheFrameId := by
    unfold tryScheduleFft
    dsimp only
    split_ifs
    exacts [fftBlocks_curScheFrameId hbig _ _ _ _, rfl]
  unfold fftDrained
  rw [hsche, tryScheduleFft_queue_length]
  rcases Nat.eq_zero_or_pos cfg.fftBlockSize with hB | hB
  · simp [hB]
  · exact Nat.div_eq_of_lt (Nat.mod_lt _ hB)

end NotBigstation

end Agora

namespace Sys

variable (cfg : Config)

/-- Outside Bigstation mode, whenever `Start` can still handle an event the
    schedule frame's FFT queue holds no full block: every event ends with
    `TryScheduleFft`, and only the handlers move the schedule cursor. -/
theorem reachable_fftDrained (hbig : cfg.bigstationMode = false) {s : Sys}
    (hs : Reachable cfg s) : (s.finish = true ∧ s.batch = []) ∨ Agora.fftDrained cfg s.agora := by
  induction hs with
  | init => exact .inr (by simp [Agora.fftDrained, init, Agora.init, Agora.initializeCounters,
      Agora.blank])
  | @step s0 _ _ _ h ih =>
    rcases step_cases cfg h with ⟨e, rest, -, -, rfl⟩ | ⟨hc, ha, -⟩ | ⟨hb, hf, tx, mac, tasks, ha⟩
    · rcases Agora.handleEvents_cases cfg s0.agora e with h1 | ⟨b, h1⟩
      · exact .inl ⟨h1, by simp [h1]⟩
      · exact .inr (by simpa [h1] using Agora.tryScheduleFft_fftDrained b hbig)
    · rcases ih with ⟨hf, -⟩ | ih
      · simp [canFetch, hf] at hc
      · exact .inr (ha ▸ ih)
    · rw [hb, hf, ha]
      exact ih

/-- A master that is not running stays so, is never fetched for again, and
    handles only what is left of its batch. -/
theorem step_stopped {s t : Sys} {act : Action} (h : step cfg s act = some t)
    (hr : s.agora.running = false) : t.agora.running = false ∧ t.batch <:+ s.batch := by
  rcases step_cases cfg h with ⟨e, rest, -, hb, rfl⟩ | ⟨hc, -, -⟩ | ⟨hb, -, tx, mac, tasks, ha⟩
  · refine ⟨Agora.handleEvents_running cfg _ e hr, ?_⟩
    rw [hb]
    split_ifs
    exacts [List.nil_suffix, List.suffix_cons e rest]
  · simp [canFetch, hr] at hc
  · rw [ha, hb]
    exact ⟨hr, List.suffix_refl _⟩

theorem steps_stopped {s t : Sys} (h : Steps cfg s t) (hr : s.agora.running = false) :
    t.agora.running = false ∧ t.batch <:+ s.batch := by
  induction h with
  | refl => exact ⟨hr, List.suffix_refl _⟩
  | tail _ hst ih =>
    obtain ⟨act, hst⟩ := hst
    obtain ⟨h1, h2⟩ := step_stopped cfg hst ih.1
    exact ⟨h1, h2.trans ih.2⟩

theorem fetch_stopped {s : Sys} (hr : s.agora.running = false) (n m : Nat) :
    step cfg s (.fetchStreamer n m) = none ∧ step cfg s (.fetchDoer n) = none := by
  simp [step, canFetch, hr]

end Sys

/-! ## The out-of-window packet -/

/-- In Bigstation mode, frame 1's two packets arrive before frame 0's, and a
    packet of frame 3 follows them in the same batch. -/
def earlyFrameRun : List Action :=
  [.receive ⟨1, 0, 0⟩, .receive ⟨1, 1, 0⟩, .receive ⟨0, 0, 0⟩, .receive ⟨0, 1, 0⟩,
   .receive ⟨3, 0, 0⟩, .fetchStreamer 5 0, .handle, .handle, .handle, .handle]

/-- A packet of frame 2, beyond the window, and one of frame 0 in one batch. -/
def outOfWindowRun : List Action :=
  [.receive ⟨2, 0, 0⟩, .receive ⟨0, 0, 0⟩, .fetchStreamer 2 0]

/-- The out-of-window event is not the last thing the master does.  In
    Bigstation mode its trailing `TryScheduleFft` emits frame 1's FFT block and
    moves the schedule cursor to 2; and with `Running()` already false, `Start`
    handles the next event of the batch, which queues frame 0's packet. -/
theorem out_of_window_event_not_last :
    (∃ s, Sys.Reachable bigstationCfg s ∧ s.batch.map (·.tag0.frameId) = [3] ∧
      s.agora.curScheFrameId + bigstationCfg.frameWnd ≤ 3 ∧
      (Sys.step bigstationCfg s .handle).map (fun t => (t.agora.running,
        t.agora.taskQueue.length - s.agora.taskQueue.length, t.agora.curScheFrameId)) =
        some (false, 1, 2)) ∧
    (∃ s, Sys.Reachable Config.oneAntenna s ∧ s.agora.running = false ∧
      (Sys.step Config.oneAntenna s .handle).map (fun t => t.agora.fftQueueArr 0) =
        some [⟨0, 0, 0⟩]) :=
  ⟨Sys.reach_of_run bigstationCfg (l := earlyFrameRun) (by decide),
   Sys.reach_of_run Config.oneAntenna (l := outOfWindowRun ++ [.handle]) (by decide)⟩

/-- What the out-of-window event does, in every reachable state and wherever it
    stands in its batch: its switch only clears `Running()`, and its trailing
    `TryScheduleFft` changes nothing more outside Bigstation mode.  After it no
    batch is fetched again: every later step handles only what is left of the
    batch, and `Running()` stays false. -/
theorem out_of_window_stops_fetching (cfg : Config) {s : Sys} (hs : Sys.Reachable cfg s)
    {e : EventData} {rest : List EventData} (hb : s.batch = e :: rest)
    (hrx : e.eventType = .packetRX) (hwin : s.agora.curScheFrameId + cfg.frameWnd ≤ e.tag0.frameId) :
    let stopped : Agora := { s.agora with running := false }
    let s' : Sys := { s with
      agora := if cfg.bigstationMode then stopped.tryScheduleFft cfg else stopped,
      batch := rest, finish := false }
    Sys.step cfg s .handle = some s' ∧
      ∀ t, Sys.Steps cfg s' t → t.agora.running = false ∧ t.batch <:+ rest ∧
        ∀ n m, Sys.step cfg t (.fetchStreamer n m) = none ∧ Sys.step cfg t (.fetchDoer n) = none := by
  intro stopped s'
  have hd : s.agora.dispatch cfg e = (false, stopped) := by
    unfold Agora.dispatch
    rw [hrx]
    exact congrArg _ (if_pos hwin)
  have hev : s.agora.handleEvents cfg e = (false, stopped.tryScheduleFft cfg) := by
    simp only [Agora.handleEvents, hd, Bool.false_eq_true, if_false]
  have hagora : s'.agora = stopped.tryScheduleFft cfg := by
    cases hbig : cfg.bigstationMode
    · have hdrained := (Sys.reachable_fftDrained cfg hbig hs).resolve_left (by simp only [hb,
        reduceCtorEq, and_false, not_false_eq_true])
      simp only [s', hbig]
      exact (Agora.tryScheduleFft_of_fftDrained cfg stopped hdrained).symm
    · simp only [s', hbig, if_true]
  refine ⟨?_, fun t ht => ?_⟩
  · rw [Sys.step_handle cfg hb, hev, ← hagora]
    rfl
  · have hr : s'.agora.running = false := by rw [hagora]; simp [stopped]
    obtain ⟨h1, h2⟩ := Sys.steps_stopped cfg ht hr
    exact ⟨h1, h2, Sys.fetch_stopped cfg h1⟩

/-- The state `outOfWindowRun` ends in: frame 2's packet heads the batch, frame 0's
    follows it. -/
def outOfWindowState : Sys :=
  (Sys.run Config.oneAntenna (Sys.init Config.oneAntenna) outOfWindowRun).getD
    (Sys.init Config.oneAntenna)

theorem out_of_window_state_stops :
    Sys.Reachable Config.oneAntenna outOfWindowState ∧
      outOfWindowState.batch = [⟨.packetRX, [⟨2, 0, 0⟩]⟩, ⟨.packetRX, [⟨0, 0, 0⟩]⟩] ∧
    let stopped : Agora := { outOfWindowState.agora with running := false }
    let s' : Sys := { outOfWindowState with
      agora := if Config.oneAntenna.bigstationMode then stopped.tryScheduleFft Config.oneAntenna
        else stopped,
      batch := [⟨.packetRX, [⟨0, 0, 0⟩]⟩], finish := false }
    Sys.step Config.oneAntenna outOfWindowState .handle = some s' ∧
      ∀ t, Sys.Steps Config.oneAntenna s' t → t.agora.running = false ∧
        t.batch <:+ [⟨.packetRX, [⟨0, 0, 0⟩]⟩] ∧
        ∀ n m, Sys.step Config.oneAntenna t (.fetchStreamer n m) = none ∧
          Sys.step Config.oneAntenna t (.fetchDoer n) = none :=
  have hs : Sys.Reachable Config.oneAntenna outOfWindowState :=
    Sys.run_reachable _ (l := outOfWindowRun) .init (by rfl)
  ⟨hs, by rfl, out_of_window_stops_fetching Config.oneAntenna hs (by rfl) rfl (by decide)⟩

end Savannah
