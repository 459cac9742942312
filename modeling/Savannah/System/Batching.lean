/-
  Savannah.System.Batching

  Batching against counting.  `TryScheduleFft` cuts the RX queue of the
  schedule frame into FFT events of exactly `FftBlockSize` tags, in queue
  order, and leaves the last `q % FftBlockSize` packets queued: unlike
  `ScheduleAntennas` and `ScheduleCodeblocks` (`blockEvents`), it never emits
  a remainder block.  The `kDecode` case reads `tags_[0]` alone, so the
  completions of the `⌈N / B⌉` code-block events of one symbol step the decode
  counter `⌈N / B⌉` times against a limit of `N`.  In Bigstation mode the
  last demul symbol of a frame schedules the decode of its symbol a second
  time, after the per-symbol branch already did, and the decode counter runs
  past its limit.
-/
import Savannah.System.Step

namespace Savannah

namespace Agora

variable (cfg : Config)

/-! ## `TryScheduleFft` -/

/-- The inner loop pops the first `j` tags of the slot's queue, in order, and
    touches no task queue and no counter. -/
theorem fftPop_spec (slot : Nat) : ∀ (j : Nat) (acc : List Tag) (a : Agora),
    j ≤ (a.fftQueueArr slot).length →
    ∃ b, fftPop cfg slot j acc a = (acc ++ (a.fftQueueArr slot).take j, b) ∧
      b.fftQueueArr slot = (a.fftQueueArr slot).drop j ∧ b.taskQueue = a.taskQueue ∧
      b.counters = a.counters
  | 0, acc, a, _ => ⟨a, by simp [fftPop]⟩
  | j + 1, acc, a, hj => by
    cases hq : a.fftQueueArr slot with
    | nil => simp [hq] at hj
    | cons t rest =>
      obtain ⟨b, hb, h2, h3, h4⟩ := fftPop_spec slot j (acc ++ [t])
        (countFftCreated cfg { a with fftQueueArr := Function.update a.fftQueueArr slot rest })
        (by simp only [countFftCreated_fftQueueArr, Function.update_same]; simp [hq] at hj; omega)
      simp only [countFftCreated_fftQueueArr, countFftCreated_taskQueue, countFftCreated_counters,
        Function.update_same] at h2 h3 h4
      exact ⟨b, by simp [fftPop, hq, hb], h2, h3, h4⟩

/-- The outer loop emits `n` FFT events on `qid`, the `i`-th carrying the tags
    `i·B .. i·B + B - 1` of the slot's queue. -/
theorem fftBlocks_spec (slot qid : Nat) : ∀ (n : Nat) (a : Agora),
    n * cfg.fftBlockSize ≤ (a.fftQueueArr slot).length →
    (fftBlocks cfg slot qid n a).taskQueue = a.taskQueue ++ (List.range n).map (fun i =>
      (qid, ⟨.fft, ((a.fftQueueArr slot).drop (i * cfg.fftBlockSize)).take cfg.fftBlockSize⟩)) ∧
    (fftBlocks cfg slot qid n a).fftQueueArr slot =
      (a.fftQueueArr slot).drop (n * cfg.fftBlockSize) ∧
    (fftBlocks cfg slot qid n a).counters = a.counters
  | 0, a, _ => by simp [fftBlocks]
  | n + 1, a, h => by
    rw [Nat.succ_mul] at h
    obtain ⟨b, hpop, h2, h3, h4⟩ := fftPop_spec cfg slot cfg.fftBlockSize [] a (by omega)
    obtain ⟨ih1, ih2, ih3⟩ := fftBlocks_spec slot qid n
      (b.enqueueTask qid ⟨.fft, (a.fftQueueArr slot).take cfg.fftBlockSize⟩)
      (by simp only [enqueueTask_fftQueueArr, h2, List.length_drop]; omega)
    simp only [enqueueTask_fftQueueArr, enqueueTask_taskQueue, enqueueTask_counters, h2, h3,
      h4] at ih1 ih2 ih3
    simp only [fftBlocks, hpop, List.nil_append]
    refine ⟨?_, ?_, ih3⟩
    · simp [ih1, List.range_succ_eq_map, List.drop_drop, Nat.succ_mul, Function.comp_def,
        Nat.add_comm]
    · simp [ih2, List.drop_drop, Nat.succ_mul, Nat.add_comm]

/-- `TryScheduleFft()`: with `q` the queue of the schedule frame's slot, it emits
    `⌊|q| / B⌋` FFT events on bucket `cur_sche_frame_id_ mod 2`, the `i`-th
    carrying the tags `i·B .. i·B + B - 1` of `q`, and leaves the rest of `q`. -/
theorem tryScheduleFft_spec (a : Agora) :
    let q := a.fftQueueArr (a.curScheFrameId % cfg.frameWnd)
    let n := q.length / cfg.fftBlockSize
    (a.tryScheduleFft cfg).taskQueue = a.taskQueue ++ (List.range n).map (fun i =>
      (a.curScheFrameId % 2, ⟨.fft, (q.drop (i * cfg.fftBlockSize)).take cfg.fftBlockSize⟩)) ∧
    (a.tryScheduleFft cfg).fftQueueArr (a.curScheFrameId % cfg.frameWnd) =
      q.drop (n * cfg.fftBlockSize) ∧
    (a.tryScheduleFft cfg).counters = a.counters := by
  unfold tryScheduleFft
  dsimp only
  split_ifs with h
  · exact fftBlocks_spec cfg _ _ _ a (Nat.div_mul_le_self _ _)
  · simp [Nat.div_eq_of_lt (Nat.lt_of_not_le h)]

/-- The packets `TryScheduleFft` leaves in the queue of the schedule frame's slot
    are the last `|q| mod FftBlockSize` of it: a frame whose packet count is not a
    multiple of the block size keeps that remainder queued. -/
theorem tryScheduleFft_queue_length (a : Agora) :
    ((a.tryScheduleFft cfg).fftQueueArr (a.curScheFrameId % cfg.frameWnd)).length =
      (a.fftQueueArr (a.curScheFrameId % cfg.frameWnd)).length % cfg.fftBlockSize := by
  rw [(tryScheduleFft_spec cfg a).2.1, List.length_drop, Nat.mod_def _ cfg.fftBlockSize,
    Nat.mul_comm]

end Agora

/-- Three packets a frame (a pilot and two uplink symbols, one antenna) in FFT
    blocks of two. -/
def fftRemainderCfg : Config := { Config.oneAntenna with frameSchedule := [.pilot, .ul, .ul] }

/-- Frame 0 arrives whole; the master handles everything the workers finish. -/
def fftRemainderRun : List Action :=
  [.receive ⟨0, 0, 0⟩, .receive ⟨0, 1, 0⟩, .receive ⟨0, 2, 0⟩, .fetchStreamer 3 0,
   .handle, .handle, .handle,
   .work 0, .fetchDoer 1, .handle, .fetchStreamer 0 0,
   .work 0, .fetchDoer 1, .handle, .fetchStreamer 0 0,
   .work 0, .fetchDoer 1, .handle, .fetchStreamer 0 0,
   .work 0, .fetchDoer 1, .handle]

/-- The last packet of frame 0 is accepted and never put in an FFT event: the
    run ends with it alone in the queue of slot 0, the schedule frame still 0,
    and no task, completion or event left anywhere that could emit it. -/
theorem tryScheduleFft_leaves_last_packet :
    ∃ s, Sys.Reachable fftRemainderCfg s ∧
      s.delivered = [⟨0, 0, 0⟩, ⟨0, 1, 0⟩, ⟨0, 2, 0⟩] ∧
      s.agora.fftQueueArr 0 = [⟨0, 2, 0⟩] ∧ s.agora.curScheFrameId = 0 ∧
      s.agora.taskQueue = [] ∧ s.compQueue = [] ∧ s.rxQueue = [] ∧ s.batch = [] :=
  Sys.reach_of_run fftRemainderCfg (l := fftRemainderRun) (by decide)

/-! ## Decode completions against the decode counter -/

/-- Two code blocks a symbol (`ldpcUlBlocks = 2`, one stream) in decode events of
    `EncodeBlockSize = 2`. -/
def decodeBlockCfg : Config :=
  { Config.oneAntenna with encodeBlockSize := 2, ldpcUlBlocks := fun _ => 2 }

/-- Frame 0 arrives whole; the master handles everything the workers finish. -/
def decodeBlockRun : List Action :=
  [.receive ⟨0, 0, 0⟩, .receive ⟨0, 1, 0⟩, .fetchStreamer 2 0, .handle, .handle,
   .work 0, .fetchDoer 1, .handle, .fetchStreamer 0 0,
   .work 0, .fetchDoer 1, .handle, .fetchStreamer 0 0,
   .work 0, .fetchDoer 1, .handle, .fetchStreamer 0 0,
   .work 0, .fetchDoer 1, .handle]

/-- The one decode event of symbol 1 carries both code blocks; handling its
    completion counts one task against a limit of two, and nothing is left to
    count the other. -/
theorem decode_block_counts_once :
    ∃ s, Sys.Reachable decodeBlockCfg s ∧ Note.schedule .decode 0 1 ∈ s.agora.log ∧
      (s.agora.counters .decode).taskCount 0 1 = 1 ∧
      (s.agora.counters .decode).maxTaskCount = 2 ∧
      s.agora.taskQueue = [] ∧ s.compQueue = [] ∧ s.batch = [] :=
  Sys.reach_of_run decodeBlockCfg (l := decodeBlockRun) (by decide)

/-- A frame of one pilot, one uplink and one downlink symbol in Bigstation mode. -/
def bigstationDlCfg : Config := { bigstationCfg with frameSchedule := [.pilot, .ul, .dl] }

/-- Frame 0 arrives whole; the master handles everything the workers finish,
    the two decode events of symbol 1 in one batch. -/
def bigstationDlRun : List Action :=
  [.receive ⟨0, 0, 0⟩, .receive ⟨0, 1, 0⟩, .fetchStreamer 2 0, .handle, .handle,
   .work 1, .fetchDoer 1, .handle, .fetchStreamer 0 0,
   .work 1, .fetchDoer 1, .handle, .fetchStreamer 0 0,
   .work 1, .fetchDoer 1, .handle, .fetchStreamer 0 0,
   .work 1, .work 1, .fetchDoer 2, .handle, .handle]

/-- The decode task count of symbol 1 of frame 0 reaches 2 against a limit of 1:
    `CompleteTask` ran past its limit. -/
theorem decode_task_count_exceeds_limit :
    ∃ s, Sys.Reachable bigstationDlCfg s ∧ (s.agora.counters .decode).taskCount 0 1 = 2 ∧
      (s.agora.counters .decode).maxTaskCount = 1 :=
  Sys.reach_of_run bigstationDlCfg (l := bigstationDlRun) (by decide)

end Savannah
