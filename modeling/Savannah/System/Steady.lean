/-
  Savannah.System.Steady

  The master in steady state.  On a frame of one pilot and one uplink symbol
  from one antenna, with hard demod and no downlink (`cycleCfg W`, for any
  window `W`), one frame runs as follows.  Its two packets arrive; its FFT,
  beam and demul tasks are each run by a worker; and each completion is
  handled.  This takes the system from its idle state at frame `k` to its idle
  state at frame `k + 1`: both cursors move on by one, and every counter, queue
  and slot is back to what `Agora::Agora` left.

  The handlers are executed symbolically in `k`, one lemma per event.
  `frame_cycle` chains them; `idle_reachable` iterates the cycle and reaches
  the idle state of every frame `k ≤ 2^32`, the frames whose numbers the
  radio's 4-byte header holds.
-/
import Savannah.System.Step

namespace Savannah

/-- A frame of one pilot and one uplink symbol from one antenna, FFT blocks of
    two, hard demod (a frame retires at its last demul), no MAC, window `W`, and
    more frames to test than `2^32`.  Its fields are simp lemmas (`simps`); the
    counts and indices of its schedule are computed by unfolding the `Config`
    definitions that the handlers read. -/
@[simps]
def cycleCfg (W : Nat) : Config :=
  { Config.oneAntenna with frameWnd := W, uplinkHardDemod := true, framesToTest := 2 ^ 33 }

namespace Agora

/-- The master between two frames, in what a frame reads and leaves: both
    cursors at `k`, the flags preasserted, every counter, RX count, FFT queue
    and the FFT count as `InitializeCounters` set them, nothing deferred, and
    `Running()`. -/
structure Quiet (W k : Nat) (a : Agora) : Prop where
  sche : a.curScheFrameId = k
  proc : a.curProcFrameId = k
  flags : a.scheduleProcessFlags = kDownlinkComplete
  counters : a.counters = initialCounters (cycleCfg W)
  numPkts : a.numPkts = fun _ => 0
  fftQueueArr : a.fftQueueArr = fun _ => []
  fftCreatedCount : a.fftCreatedCount = 0
  encodeDeferral : a.encodeDeferral = []
  running : a.running = true

variable {W k : Nat}

/-- Queued tasks, notes, and the latest frames of the FFT and beam stages are
    what a frame leaves changed. -/
theorem Quiet.update {a : Agora} (h : Quiet W k a) (tq : List (Nat × EventData))
    (log : List Note) (fc : Nat → Option Nat) (bl : Option Nat) :
    Quiet W k { a with taskQueue := tq, log := log, fftCurFrameForSymbol := fc,
                       beamLastFrame := bl } :=
  ⟨h.1, h.2, h.3, h.4, h.5, h.6, h.7, h.8, h.9⟩

/-- A stage counter put back to its initial value leaves the counters initial. -/
theorem update_initialCounters {cfg : Config} {st : Stage} {c : FrameCounters}
    (h : c = initialCounters cfg st) :
    Function.update (initialCounters cfg) st c = initialCounters cfg :=
  h ▸ Function.update_eq_self _ _

variable (a : Agora)

/-! ## One frame, event by event -/

/-- The frame's pilot packet: counted and queued in slot `k mod W`, and, as the
    frame's first packet, its downlink started (there is none to schedule). -/
theorem rx_first (h : Quiet W k a) (hW : 0 < W) :
    a.handleEvents (cycleCfg W) ⟨.packetRX, [⟨k, 0, 0⟩]⟩ =
      (false, { a with numPkts := Function.update a.numPkts (k % W) 1,
                       fftQueueArr := Function.update a.fftQueueArr (k % W) [⟨k, 0, 0⟩],
                       log := a.log ++ [.downlink k k] }) := by
  have h1 : ¬ k + W ≤ k := by omega
  have h2 : ¬ k + 2 ≤ k := by omega
  simp [handleEvents, dispatch, EventData.tag0, handlePacketRX, updateRxCounters,
    scheduleDownlinkProcessing, tryScheduleFft, h.sche, h.proc, h.numPkts, h.encodeDeferral,
    h.fftQueueArr, h1, h2, note, Config.numRxPktsPerFrame, Config.numPilotPktsPerFrame,
    Config.numPilotSyms, Config.numULSyms, Config.numDLSyms, Config.numDlControlSyms,
    Config.ulSymbols, Config.dlSymbols, Config.dlControlSymbols, positions]

/-- The frame's uplink packet completes its RX count and its FFT queue, and
    `TryScheduleFft` turns the queue into one FFT task of both packets. -/
theorem rx_second (h : Quiet W k a) (hW : 0 < W) :
    ({ a with numPkts := Function.update a.numPkts (k % W) 1,
              fftQueueArr := Function.update a.fftQueueArr (k % W) [⟨k, 0, 0⟩],
              log := a.log ++ [.downlink k k] } : Agora).handleEvents (cycleCfg W)
        ⟨.packetRX, [⟨k, 1, 0⟩]⟩ =
      (false, { a with taskQueue := a.taskQueue ++ [(k % 2, ⟨.fft, [⟨k, 0, 0⟩, ⟨k, 1, 0⟩]⟩)],
                       log := a.log ++ [.downlink k k] }) := by
  have h1 : ¬ k + W ≤ k := by omega
  simp [handleEvents, dispatch, EventData.tag0, handlePacketRX, updateRxCounters, tryScheduleFft,
    h.sche, h.proc, h.numPkts, h.encodeDeferral, h.fftQueueArr, h1, fftBlocks, fftPop,
    countFftCreated, h.fftCreatedCount, enqueueTask, Config.numRxPktsPerFrame,
    Config.numPilotPktsPerFrame, Config.numReciprocityPktsPerFrame, Config.numULCalSyms,
    Config.numPilotSyms, Config.numULSyms, Config.ulSymbols, positions]

/-- Both RX events of the frame, the form the system runs them in. -/
theorem rx_pair (h : Quiet W k a) (hW : 0 < W) :
    (a.handleEvents (cycleCfg W) ⟨.packetRX, [⟨k, 0, 0⟩]⟩).1 = false ∧
    (a.handleEvents (cycleCfg W) ⟨.packetRX, [⟨k, 0, 0⟩]⟩).2.handleEvents (cycleCfg W)
        ⟨.packetRX, [⟨k, 1, 0⟩]⟩ =
      (false, { a with taskQueue := a.taskQueue ++ [(k % 2, ⟨.fft, [⟨k, 0, 0⟩, ⟨k, 1, 0⟩]⟩)],
                       log := a.log ++ [.downlink k k] }) := by
  rw [rx_first a h hW]
  exact ⟨rfl, rx_second a h hW⟩

/-- The FFT completion: the pilot closes the pilot counter and schedules the
    beam; the uplink symbol closes the uplink counter and records the frame as
    its latest FFT (no beam of it is done yet).  Both counters are reset. -/
theorem fft_done (h : Quiet W k a) (hb : a.beamLastFrame ≠ some k) :
    a.handleEvents (cycleCfg W) ⟨.fft, [⟨k, 0, 0⟩, ⟨k, 1, 0⟩]⟩ =
      (false, { a with fftCurFrameForSymbol := Function.update a.fftCurFrameForSymbol 0 (some k),
                       taskQueue := a.taskQueue ++ [(k % 2, ⟨.beam, [⟨k, 0, 0⟩]⟩)],
                       log := a.log ++ [.schedule .beam k 0] }) := by
  simp [handleEvents, dispatch, handleEventFft, completeTask, completeSymbol, resetCounter,
    setCounter, scheduleSubcarriers, enqueueAll, note, FrameCounters.completeTask,
    FrameCounters.completeSymbol, FrameCounters.bump, FrameCounters.reset, initialCounters,
    FrameCounters.init, tryScheduleFft, h.sche, h.counters, h.fftQueueArr, hb,
    update_initialCounters, List.range_succ, Config.getSymbolType, Config.numPilotSyms,
    Config.numULSyms, Config.ulSymbols, Config.getULSymbolIdx, positions]

/-- The beam completion: the frame's beam is done, and the demul of its uplink
    symbol, whose FFT is done, is scheduled. -/
theorem beam_done (h : Quiet W k a) (hf : a.fftCurFrameForSymbol 0 = some k) :
    a.handleEvents (cycleCfg W) ⟨.beam, [⟨k, 0, 0⟩]⟩ =
      (false, { a with beamLastFrame := some k,
                       taskQueue := a.taskQueue ++ [(k % 2, ⟨.demul, [⟨k, 1, 0⟩]⟩)],
                       log := a.log ++ [.schedule .demul k 1] }) := by
  simp [handleEvents, dispatch, handleBeamTag, completeFrameTask, resetCounter, setCounter,
    scheduleSubcarriers, enqueueAll, note, FrameCounters.completeFrameTask, FrameCounters.bump,
    FrameCounters.reset, initialCounters, FrameCounters.init, tryScheduleFft, h.sche, h.counters,
    h.fftQueueArr, hf, update_initialCounters, List.range_succ, Config.numULSyms, Config.numDLSyms,
    Config.ulSymbols, Config.dlSymbols, Config.getULSymbol, positions]

/-- The demul completion closes the frame: the uplink flag completes the
    schedule frame, and with hard demod the frame retires.  Both cursors move
    on and every counter of the slot is reset. -/
theorem demul_done (h : Quiet W k a) (hk : k + 1 < (cycleCfg W).framesToTest) :
    a.handleEvents (cycleCfg W) ⟨.demul, [⟨k, 1, 0⟩]⟩ =
      (false, { a with curScheFrameId := k + 1, curProcFrameId := k + 1,
                       log := a.log ++ [.retire k] }) := by
  -- `frames_to_test - 1 = 2^33 - 1`, as the simp set evaluates it
  have hk' : k ≠ 8589934591 := by simp only [cycleCfg_framesToTest] at hk; omega
  simp [hk', handleEvents, dispatch, EventData.tag0, handleDemul, completeTask, completeSymbol,
    resetCounter, setCounter, checkAssert, checkIncrementScheduleFrame, checkFrameComplete,
    terminalClosed, isLastSymbol, retire, releaseDeferred, note, FrameCounters.completeTask,
    FrameCounters.completeSymbol, FrameCounters.bump, FrameCounters.reset,
    FrameCounters.isLastSymbol, FrameCounters.getSymbolCount, initialCounters, FrameCounters.init,
    FrameCounters.empty, tryScheduleFft, h.sche, h.proc, h.flags, h.counters, h.fftQueueArr,
    h.encodeDeferral, update_initialCounters, preassertedFlags, kDownlinkComplete, kUplinkComplete,
    kProcessingComplete, Config.numULSyms, Config.numDLSyms, Config.ulSymbols, Config.dlSymbols,
    positions]

end Agora

namespace Sys

variable (cfg : Config)

/-! ## Tasks through the system -/

/-- A fetch of nothing from the streamer hands the turn to the workers. -/
theorem step_fetchStreamer_zero {s : Sys} (hb : s.batch = []) (hr : s.agora.running = true)
    (hf : s.finish = false) (ht : s.turnIo = true) :
    step cfg s (.fetchStreamer 0 0) = some { s with turnIo := false } := by
  simp [step, canFetch, hb, hr, hf, ht]

/-- A lone task on the bucket of the processing frame: a worker runs it, `Start`
    fetches its completion, and the master handles it. -/
theorem run_task {s : Sys} {e : EventData} {b : Agora}
    (hq : s.agora.taskQueue = [(s.agora.curProcFrameId % 2, e)]) (hc : s.compQueue = [])
    (hb : s.batch = []) (hr : s.agora.running = true) (hf : s.finish = false)
    (ht : s.turnIo = false)
    (hh : ({ s.agora with taskQueue := [] } : Agora).handleEvents cfg e = (false, b)) :
    run cfg s [.work 0, .fetchDoer 1, .handle] =
      some { s with agora := b, compQueue := [], turnIo := true } := by
  simp only [hr] at hh
  simp [run, step, hq, hc, hb, hr, hf, ht, canFetch, takeBucket, Doer.tryLaunch, hh]

/-- The same after an empty streamer fetch, when the turn is the streamer's. -/
theorem run_fetch_task {s : Sys} {e : EventData} {b : Agora}
    (hq : s.agora.taskQueue = [(s.agora.curProcFrameId % 2, e)]) (hc : s.compQueue = [])
    (hb : s.batch = []) (hr : s.agora.running = true) (hf : s.finish = false)
    (ht : s.turnIo = true)
    (hh : ({ s.agora with taskQueue := [] } : Agora).handleEvents cfg e = (false, b)) :
    run cfg s [.fetchStreamer 0 0, .work 0, .fetchDoer 1, .handle] =
      some { s with agora := b, compQueue := [], turnIo := true } := by
  rw [run, step_fetchStreamer_zero cfg hb hr hf ht, Option.some_bind]
  exact run_task cfg hq hc hb hr hf rfl hh

end Sys

/-! ## The frame cycle -/

/-- The system between two frames: the master quiet at `k` with no task queued
    and no beam of frame `k` done, no completion, packet or batch in flight,
    `Start` about to fetch from the streamer, and the radio has sent packets of
    earlier frames only. -/
structure Idle (W k : Nat) (s : Sys) : Prop where
  quiet : s.agora.Quiet W k
  taskQueue : s.agora.taskQueue = []
  beamLastFrame : ∀ j, s.agora.beamLastFrame = some j → j < k
  compQueue : s.compQueue = []
  rxQueue : s.rxQueue = []
  batch : s.batch = []
  turnIo : s.turnIo = true
  finish : s.finish = false
  delivered : ∀ p ∈ s.delivered, p.frameId < k

/-- The system inside frame `k` with one task `e` of the frame queued and nothing
    else in flight; `io` is whose turn it is to be fetched from. -/
structure Pending (W k : Nat) (e : EventData) (io : Bool) (s : Sys) : Prop where
  quiet : s.agora.Quiet W k
  taskQueue : s.agora.taskQueue = [(k % 2, e)]
  compQueue : s.compQueue = []
  rxQueue : s.rxQueue = []
  batch : s.batch = []
  turnIo : s.turnIo = io
  finish : s.finish = false
  delivered : ∀ p ∈ s.delivered, p.frameId < k + 1

/-- The radio's actions of one frame `k` and the master's and workers' answers:
    the two packets and their handling, then the FFT, beam and demul tasks,
    each run, fetched and handled. -/
def frameRun (k : Nat) : List Action :=
  [.receive ⟨k, 0, 0⟩, .receive ⟨k, 1, 0⟩, .fetchStreamer 2 0, .handle, .handle] ++
    [.work 0, .fetchDoer 1, .handle] ++
    [.fetchStreamer 0 0, .work 0, .fetchDoer 1, .handle] ++
    [.fetchStreamer 0 0, .work 0, .fetchDoer 1, .handle]

variable {W k : Nat} {s : Sys}

/-- The RX part of a frame, as long as `k` fits the header: both packets are
    delivered, fetched in one batch and handled, leaving the FFT task. -/
theorem run_rx (h : Idle W k s) (hk : k < 2 ^ 32) (hW : 0 < W) :
    Sys.run (cycleCfg W) s
        [.receive ⟨k, 0, 0⟩, .receive ⟨k, 1, 0⟩, .fetchStreamer 2 0, .handle, .handle] =
      some { s with agora := { s.agora with
                                 taskQueue := [(k % 2, ⟨.fft, [⟨k, 0, 0⟩, ⟨k, 1, 0⟩]⟩)],
                                 log := s.agora.log ++ [.downlink k k] },
                    delivered := s.delivered ++ [⟨k, 0, 0⟩, ⟨k, 1, 0⟩], turnIo := false } := by
  have hn : ∀ j, (⟨k, j, 0⟩ : Tag) ∉ s.delivered := fun j hm => lt_irrefl k (h.delivered _ hm)
  have hw : ∀ j < 2, Sys.wireTag ⟨k, j, 0⟩ = ⟨k, j, 0⟩ := fun j hj =>
    Sys.wireTag_eq_self hk (by simp only; omega) (by simp only; omega)
  simp [Sys.run, Sys.step, Sys.validPacket, hn, hw, h.rxQueue, h.batch, h.turnIo, Sys.canFetch,
    h.finish, h.quiet.running, h.taskQueue, Agora.rx_pair _ h.quiet hW, Config.getSymbolType]

theorem rx_phase (h : Idle W k s) (hk : k < 2 ^ 32) (hW : 0 < W) :
    ∃ t, Sys.run (cycleCfg W) s
        [.receive ⟨k, 0, 0⟩, .receive ⟨k, 1, 0⟩, .fetchStreamer 2 0, .handle, .handle] = some t ∧
      Pending W k ⟨.fft, [⟨k, 0, 0⟩, ⟨k, 1, 0⟩]⟩ false t ∧ t.agora.beamLastFrame ≠ some k := by
  refine ⟨_, run_rx h hk hW, ⟨h.quiet.update _ _ _ _, rfl, h.compQueue, h.rxQueue, h.batch, rfl,
    h.finish, fun p hp => ?_⟩, fun he => lt_irrefl k (h.beamLastFrame k he)⟩
  simp only [List.mem_append, List.mem_cons, List.not_mem_nil, or_false] at hp
  rcases hp with hp | rfl | rfl
  · exact Nat.lt_succ_of_lt (h.delivered p hp)
  all_goals exact Nat.lt_succ_self k

theorem fft_phase (h : Pending W k ⟨.fft, [⟨k, 0, 0⟩, ⟨k, 1, 0⟩]⟩ false s)
    (hb : s.agora.beamLastFrame ≠ some k) :
    ∃ t, Sys.run (cycleCfg W) s [.work 0, .fetchDoer 1, .handle] = some t ∧
      Pending W k ⟨.beam, [⟨k, 0, 0⟩]⟩ true t ∧ t.agora.fftCurFrameForSymbol 0 = some k :=
  ⟨_, Sys.run_task _ (s := s) (by rw [h.taskQueue, h.quiet.proc]) h.compQueue h.batch
      h.quiet.running h.finish h.turnIo (Agora.fft_done _ (h.quiet.update _ _ _ _) hb),
    ⟨h.quiet.update _ _ _ _, by simp, rfl, h.rxQueue, h.batch, rfl, h.finish, h.delivered⟩,
    by simp⟩

theorem beam_phase (h : Pending W k ⟨.beam, [⟨k, 0, 0⟩]⟩ true s)
    (hf : s.agora.fftCurFrameForSymbol 0 = some k) :
    ∃ t, Sys.run (cycleCfg W) s [.fetchStreamer 0 0, .work 0, .fetchDoer 1, .handle] = some t ∧
      Pending W k ⟨.demul, [⟨k, 1, 0⟩]⟩ true t ∧ t.agora.beamLastFrame = some k :=
  ⟨_, Sys.run_fetch_task _ (s := s) (by rw [h.taskQueue, h.quiet.proc]) h.compQueue h.batch
      h.quiet.running h.finish h.turnIo (Agora.beam_done _ (h.quiet.update _ _ _ _) hf),
    ⟨h.quiet.update _ _ _ _, by simp, rfl, h.rxQueue, h.batch, rfl, h.finish, h.delivered⟩, rfl⟩

theorem demul_phase (h : Pending W k ⟨.demul, [⟨k, 1, 0⟩]⟩ true s)
    (hb : s.agora.beamLastFrame = some k) (hf : k + 1 < (cycleCfg W).framesToTest) :
    ∃ t, Sys.run (cycleCfg W) s [.fetchStreamer 0 0, .work 0, .fetchDoer 1, .handle] = some t ∧
      Idle W (k + 1) t :=
  ⟨_, Sys.run_fetch_task _ (s := s) (by rw [h.taskQueue, h.quiet.proc]) h.compQueue h.batch
      h.quiet.running h.finish h.turnIo (Agora.demul_done _ (h.quiet.update _ _ _ _) hf),
    ⟨⟨rfl, rfl, h.quiet.flags, h.quiet.counters, h.quiet.numPkts, h.quiet.fftQueueArr,
      h.quiet.fftCreatedCount, h.quiet.encodeDeferral, h.quiet.running⟩, rfl,
      fun j hj => by rw [hb] at hj; cases hj; exact Nat.lt_succ_self k,
      rfl, h.rxQueue, h.batch, rfl, h.finish, h.delivered⟩⟩

/-- One frame takes the idle system at frame `k` to the idle system at frame
    `k + 1`, as long as `k` fits the header and is not the last frame to test. -/
theorem frame_cycle (h : Idle W k s) (hk : k < 2 ^ 32) (hW : 0 < W)
    (hf : k + 1 < (cycleCfg W).framesToTest) :
    ∃ t, Sys.run (cycleCfg W) s (frameRun k) = some t ∧ Idle W (k + 1) t := by
  obtain ⟨s1, e1, h1, hb1⟩ := rx_phase h hk hW
  obtain ⟨s2, e2, h2, hf2⟩ := fft_phase h1 hb1
  obtain ⟨s3, e3, h3, hb3⟩ := beam_phase h2 hf2
  obtain ⟨s4, e4, h4⟩ := demul_phase h3 hb3 hf
  exact ⟨s4, by simp only [frameRun, Sys.run_append, e1, e2, e3, e4, Option.some_bind], h4⟩

/-- The system starts idle at frame `0`. -/
theorem idle_init : Idle W 0 (Sys.init (cycleCfg W)) :=
  ⟨⟨rfl, rfl, rfl, rfl, rfl, rfl, rfl, rfl, rfl⟩, rfl, fun _ h => (nomatch h), rfl, rfl, rfl,
    rfl, rfl, by simp [Sys.init]⟩

/-- Every frame up to `2^32` is reached idle: the master processes frame after
    frame, both cursors counting them. -/
theorem idle_reachable (hW : 0 < W) :
    ∀ k ≤ 2 ^ 32, ∃ s, Sys.Reachable (cycleCfg W) s ∧ Idle W k s
  | 0, _ => ⟨_, .init, idle_init⟩
  | k + 1, hk => by
    obtain ⟨s, hs, h⟩ := idle_reachable hW k (by omega)
    obtain ⟨t, ht, h'⟩ := frame_cycle h (by omega) hW (by show k + 1 < 2 ^ 33; omega)
    exact ⟨t, Sys.run_reachable _ hs ht, h'⟩

end Savannah
