/-
  Savannah.System.FrameIds

  Frame ids over long runs.  The master takes the frame id of an RX packet
  from the packet's 4-byte header, `pkt->frame_id_` (`agora.cc` lines
  469-482), while its cursors `cur_sche_frame_id_` and `cur_proc_frame_id_`
  count frames without bound.  The window guard, the slot of `rx_counters_`
  and of `fft_queue_arr_`, and the deferral test of `UpdateRxCounters`
  (lines 996-1030) all read the header id, which is the frame number modulo
  `2^32`; nothing converts it back.

  For frames below `2^32` the two agree.  At frame `2^32` of the steady run of
  `Savannah.System.Steady` with `W = 3` they do not.  The packets carry id `0`
  and are queued in slot `0`, but `TryScheduleFft` reads the slot of
  `cur_sche_frame_id_ = 2^32`, which is slot `1`.  No FFT task is created, and
  the pipeline stops there.
-/
import Savannah.System.Steady

namespace Savannah

namespace Agora

variable (cfg : Config) (a : Agora)

/-! ## Downlink admission touches only tasks, notes and encode frames -/

/-- `b` is `a` with tasks queued, notes added and the encode frames of symbols
    changed, and nothing else. -/
def TasksOnly (a b : Agora) : Prop :=
  ∃ tq log ecur, b = { a with taskQueue := tq, log := log, encodeCurFrameForSymbol := ecur }

theorem TasksOnly.refl : TasksOnly a a := ⟨_, _, _, rfl⟩

theorem TasksOnly.trans {a b c : Agora} (h1 : TasksOnly a b) (h2 : TasksOnly b c) :
    TasksOnly a c := by
  obtain ⟨_, _, _, rfl⟩ := h1
  obtain ⟨_, _, _, rfl⟩ := h2
  exact ⟨_, _, _, rfl⟩

theorem TasksOnly.foldl {α : Type} (f : Agora → α → Agora) (h : ∀ b x, TasksOnly b (f b x)) :
    ∀ (l : List α) (a : Agora), TasksOnly a (l.foldl f a)
  | [], a => .refl a
  | x :: l, a => (h a x).trans (TasksOnly.foldl f h l _)

theorem scheduleDownlinkProcessing_tasksOnly (f : Nat) :
    TasksOnly a (a.scheduleDownlinkProcessing cfg f) := by
  unfold scheduleDownlinkProcessing
  refine (TasksOnly.trans ?_ (TasksOnly.foldl _ (fun b i => ?_) _ _)).trans
    (TasksOnly.foldl _ (fun b i => ⟨_, _, _, rfl⟩) _ _)
  · exact TasksOnly.trans ⟨_, _, _, rfl⟩ (by split_ifs <;> exact ⟨_, _, _, rfl⟩)
  · split_ifs
    · exact ⟨_, _, _, rfl⟩
    · exact ⟨_, _, _, rfl⟩

/-! ## The `kPacketRX` case -/

/-- `UpdateRxCounters(frame_id)`: the packet is counted in the slot of
    `frame_id`, the count restarting when the frame is complete; the frame is
    deferred when it is the slot's first packet, there is no MAC, and frames
    are already deferred or `frame_id` is `kScheduleQueues` past
    `cur_proc_frame_id_`.  The FFT queues, the cursors and `Running()` are
    left alone. -/
theorem updateRxCounters_spec (f : Nat) :
    let slot := f % cfg.frameWnd
    let b := a.updateRxCounters cfg f
    b.numPkts = Function.update a.numPkts slot
        (if a.numPkts slot + 1 = cfg.numRxPktsPerFrame then 0 else a.numPkts slot + 1) ∧
      b.encodeDeferral = a.encodeDeferral ++
        (if a.numPkts slot = 0 ∧ cfg.enableMac = false ∧
            (a.encodeDeferral ≠ [] ∨ a.curProcFrameId + cfg.scheduleQueues ≤ f) then [f]
          else []) ∧
      b.fftQueueArr = a.fftQueueArr ∧ b.curScheFrameId = a.curScheFrameId ∧
      b.curProcFrameId = a.curProcFrameId ∧ b.running = a.running := by
  obtain ⟨tq, log, ecur, he⟩ := scheduleDownlinkProcessing_tasksOnly cfg a f
  simp only [updateRxCounters]
  by_cases h1 : a.numPkts (f % cfg.frameWnd) = 0 ∧ cfg.enableMac = false
  · by_cases h2 : a.encodeDeferral ≠ [] ∨ a.curProcFrameId + cfg.scheduleQueues ≤ f
    · simp [h1, h2]
    · simp only [if_pos h1, if_neg h2, he, if_neg (fun h : _ ∧ _ ∧ _ => h2 h.2.2)]
      simp
  · simp only [if_neg h1, if_neg (fun h : _ ∧ _ ∧ _ => h1 ⟨h.1, h.2.1⟩)]
    simp

/-- `HandleEvents`' `kPacketRX` case on a packet whose header holds frame id
    `f`: beyond `cur_sche_frame_id_ + W` only `Running()` is cleared; otherwise
    the packet is counted and deferred as `UpdateRxCounters` says and queued in
    slot `f mod W`. -/
theorem handlePacketRX_spec (pkt : Tag) :
    let f := pkt.frameId
    let slot := f % cfg.frameWnd
    let b := a.handlePacketRX cfg pkt
    (a.curScheFrameId + cfg.frameWnd ≤ f → b = { a with running := false }) ∧
    (f < a.curScheFrameId + cfg.frameWnd →
      b.fftQueueArr = Function.update a.fftQueueArr slot (a.fftQueueArr slot ++ [pkt]) ∧
      b.numPkts = Function.update a.numPkts slot
        (if a.numPkts slot + 1 = cfg.numRxPktsPerFrame then 0 else a.numPkts slot + 1) ∧
      b.encodeDeferral = a.encodeDeferral ++
        (if a.numPkts slot = 0 ∧ cfg.enableMac = false ∧
            (a.encodeDeferral ≠ [] ∨ a.curProcFrameId + cfg.scheduleQueues ≤ f) then [f]
          else []) ∧
      b.curScheFrameId = a.curScheFrameId ∧ b.curProcFrameId = a.curProcFrameId ∧
      b.running = a.running) := by
  obtain ⟨h1, h2, h3, h4, h5, h6⟩ := updateRxCounters_spec cfg a pkt.frameId
  refine ⟨fun h => if_pos h, fun h => ?_⟩
  simp only [handlePacketRX, if_neg (Nat.not_le.2 h)]
  exact ⟨by rw [h3], h1, h2, h4, h5, h6⟩

end Agora

/-! ## The header id in every run -/

/-- The RX event of the radio's packet `p` carries the packet's header, and
    whatever state the master is in when it handles that event, its
    `kPacketRX` case takes `f = p.frameId mod 2^32` as the frame id.  The guard
    compares `f` with `cur_sche_frame_id_ + W`.  The packet is counted and
    queued in slot `f mod W`.  The deferral test compares `f` with
    `cur_proc_frame_id_ + kScheduleQueues`.  For frames below `2^32`, `f` is
    the frame number. -/
theorem rx_frame_id_is_header_id (cfg : Config) {s s' : Sys} {p : Tag}
    (h : Sys.step cfg s (.receive p) = some s') :
    let e : EventData := ⟨.packetRX, [Sys.wireTag p]⟩
    let f := p.frameId % 2 ^ 32
    let slot := f % cfg.frameWnd
    s'.rxQueue = s.rxQueue ++ [e] ∧ s'.delivered = s.delivered ++ [p] ∧
    (p.frameId < 2 ^ 32 → f = p.frameId) ∧
    ∀ a : Agora, let b := (a.dispatch cfg e).2
      (a.dispatch cfg e).1 = false ∧
      (a.curScheFrameId + cfg.frameWnd ≤ f → b = { a with running := false }) ∧
      (f < a.curScheFrameId + cfg.frameWnd →
        b.fftQueueArr = Function.update a.fftQueueArr slot
          (a.fftQueueArr slot ++ [Sys.wireTag p]) ∧
        b.numPkts = Function.update a.numPkts slot
          (if a.numPkts slot + 1 = cfg.numRxPktsPerFrame then 0 else a.numPkts slot + 1) ∧
        b.encodeDeferral = a.encodeDeferral ++
          (if a.numPkts slot = 0 ∧ cfg.enableMac = false ∧
              (a.encodeDeferral ≠ [] ∨ a.curProcFrameId + cfg.scheduleQueues ≤ f) then [f]
            else []) ∧
        b.curScheFrameId = a.curScheFrameId ∧ b.curProcFrameId = a.curProcFrameId ∧
        b.running = a.running) := by
  intro e f slot
  simp only [Sys.step] at h
  split_ifs at h
  cases h
  exact ⟨rfl, rfl, Nat.mod_eq_of_lt, fun a =>
    ⟨rfl, Agora.handlePacketRX_spec cfg a (Sys.wireTag p)⟩⟩

/-- A packet of frame `2^32` delivered first carries frame id `0`. -/
theorem header_id_of_frame_2_32 :
    ∃ s', Sys.step Config.oneAntenna (Sys.init Config.oneAntenna) (.receive ⟨2 ^ 32, 0, 0⟩) =
        some s' ∧
      s'.rxQueue = [⟨.packetRX, [⟨0, 0, 0⟩]⟩] :=
  ⟨_, rfl, (rx_frame_id_is_header_id Config.oneAntenna (s := Sys.init Config.oneAntenna)
    (p := ⟨2 ^ 32, 0, 0⟩) rfl).1⟩

/-- The two RX events of frame `k`. -/
def rxRun (k : Nat) : List Action :=
  [.receive ⟨k, 0, 0⟩, .receive ⟨k, 1, 0⟩, .fetchStreamer 2 0, .handle, .handle]

/-- The RX events of an idle frame `N ≡ 1 (mod 3)` whose header id is `0`: the
    packets are queued in slot `0`, while `TryScheduleFft` reads slot
    `N mod 3 = 1`. -/
theorem rx_wrapped {s : Sys} {N : Nat} (h : Idle 3 N s) (hN : N % 3 = 1)
    (hw0 : Sys.wireTag ⟨N, 0, 0⟩ = ⟨0, 0, 0⟩) (hw1 : Sys.wireTag ⟨N, 1, 0⟩ = ⟨0, 1, 0⟩) :
    ∃ t, Sys.run (cycleCfg 3) s (rxRun N) = some t ∧
      t.agora.fftQueueArr 0 = [⟨0, 0, 0⟩, ⟨0, 1, 0⟩] ∧ t.agora.fftQueueArr (N % 3) = [] ∧
      t.agora.taskQueue = [] ∧ t.agora.curScheFrameId = N ∧
      Note.downlink 0 N ∈ t.agora.log := by
  have hn : ∀ j, (⟨N, j, 0⟩ : Tag) ∉ s.delivered := fun j hm => lt_irrefl _ (h.delivered _ hm)
  have h3 : ¬ N + 3 ≤ 0 := by omega
  have h2 : ¬ N + 2 ≤ 0 := by omega
  simp [rxRun, Sys.run, Sys.step, Sys.validPacket, hn, hw0, hw1, h.rxQueue, h.batch,
    h.turnIo, Sys.canFetch, h.finish, h.quiet.running, h.taskQueue, Agora.handleEvents,
    Agora.dispatch, EventData.tag0, Agora.handlePacketRX, Agora.updateRxCounters,
    Agora.scheduleDownlinkProcessing, Agora.tryScheduleFft, Agora.note, h.quiet.sche,
    h.quiet.proc, h.quiet.numPkts, h.quiet.encodeDeferral, h.quiet.fftQueueArr, hN, h3, h2,
    Config.getSymbolType, Config.numRxPktsPerFrame, Config.numPilotPktsPerFrame,
    Config.numReciprocityPktsPerFrame, Config.numULCalSyms, Config.numPilotSyms,
    Config.numULSyms, Config.numDLSyms, Config.numDlControlSyms, Config.ulSymbols,
    Config.dlSymbols, Config.dlControlSymbols, positions]

/-- Frame `2`'s pilot arrives before frame `1`'s, both within the window. -/
def deferBehindRun : List Action :=
  [.receive ⟨2, 0, 0⟩, .receive ⟨1, 0, 0⟩, .fetchStreamer 2 0, .handle, .handle]

/-- The frame number is not what the master uses, and deferral is not decided by
    the frame alone.  After `2^32` frames of the steady run with `W = 3`, both
    packets of frame `2^32` arrive and are handled.  Their header id is `0`:
    the frame's downlink is started as frame `0`, and the packets are queued in
    slot `0`.  `TryScheduleFft` reads slot `2^32 mod 3 = 1`, which stays empty,
    so no FFT task is created and the schedule cursor stays at `2^32`.  And at
    the start of a run, frame `1` is deferred behind frame `2` although
    `1 < cur_proc_frame_id_ + kScheduleQueues = 2`. -/
theorem frame_2_32_misqueued_frame_1_deferred :
    (∃ s, Sys.Reachable (cycleCfg 3) s ∧ s.agora.curScheFrameId = 2 ^ 32 ∧
      s.agora.fftQueueArr = (fun _ => []) ∧ s.agora.taskQueue = [] ∧
      ∃ t, Sys.run (cycleCfg 3) s (rxRun (2 ^ 32)) = some t ∧
      t.agora.fftQueueArr 0 = [⟨0, 0, 0⟩, ⟨0, 1, 0⟩] ∧ t.agora.fftQueueArr (2 ^ 32 % 3) = [] ∧
      t.agora.taskQueue = [] ∧ t.agora.curScheFrameId = 2 ^ 32 ∧
      Note.downlink 0 (2 ^ 32) ∈ t.agora.log) ∧
    (∃ s, Sys.Reachable (cycleCfg 3) s ∧ s.agora.curProcFrameId = 0 ∧
      s.agora.encodeDeferral = [2, 1]) :=
  let ⟨s, hs, h⟩ := idle_reachable (W := 3) (by decide) (2 ^ 32) le_rfl
  ⟨⟨s, hs, h.quiet.sche, h.quiet.fftQueueArr, h.taskQueue, rx_wrapped h (by decide) rfl rfl⟩,
   Sys.reach_of_run (cycleCfg 3) (l := deferBehindRun) (by decide)⟩

end Savannah
