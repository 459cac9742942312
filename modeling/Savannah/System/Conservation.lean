/-
  Savannah.System.Conservation

  No RX packet is duplicated on its way through FFT.  The header of a packet
  enters the system once for each packet the radio delivers with it.  It
  travels in a `kPacketRX` event through `rx_con_q` and the batch of `Start`,
  waits in the FFT queue of its slot, rides in the tags of an FFT task and of
  its completion, and leaves when the master handles that completion.  In
  every reachable state each header waits along this path at most as often as
  the radio delivered a packet with it; when every delivered packet's ids fit
  in four bytes, at most once.  Headers can be lost on the way: a packet beyond
  the window is dropped, and so is the rest of a batch after `finish`.

  The other queues carry none of these headers.  The handlers emit neither
  `kPacketRX` events nor FFT tasks, send only `kPacketTX` events to the
  streamer and `kPacketToMac` requests to the MAC thread, and the MAC thread's
  own events are neither.  `TryScheduleFft` moves full blocks of the schedule
  frame's queue into FFT tasks; every packet in that queue is of a frame of the
  slot, so a block takes no header that waits in another slot.

  Downstream of the FFT no such count holds: a stage's tasks are released
  neither at least once nor at most once, and not only after their upstream.
  Beside the counters two gates decide the release: the pilot gate of
  `HandleEventFft`, which with reciprocal calibration on drops a pilot closure
  that comes before the frame's calibration closure, and the test
  `last_encoded_frame >= frame_id` of the `kBeam` case on
  `encode_cur_frame_for_symbol_`, which any frame at or above `frame_id`
  passes.  The counters key on the frame slot only, so two frames `kFrameWnd`
  apart that are in flight at once count into one slot.
-/
import Savannah.System.Invariants
import Savannah.System.FrameIds

namespace Savannah

/-- The RX packet headers an event carries on the way through FFT: the header of a
    `kPacketRX` event, the tags of an FFT task or completion. -/
def EventData.fftPath (e : EventData) : List Tag :=
  match e.eventType with
  | .packetRX => [e.tag0]
  | .fft => e.tags
  | _ => []

theorem EventData.fftPath_eq_nil {e : EventData} (h : e.eventType.Emittable) : e.fftPath = [] := by
  unfold fftPath
  split <;> simp_all [EventType.Emittable]

/-! ## Counting along lists -/

/-- Removing the `i`-th element takes its part out of the count. -/
theorem count_flatMap_eraseIdx {α : Type} (f : α → List Tag) (p : Tag) {l : List α} {i : Nat}
    (hi : i < l.length) :
    (l.flatMap f).count p = ((l.eraseIdx i).flatMap f).count p + (f (l.get ⟨i, hi⟩)).count p := by
  conv_lhs => rw [← List.take_append_drop i l, List.drop_eq_getElem_cons hi]
  simp only [List.eraseIdx_eq_take_drop_succ, List.flatMap_append, List.flatMap_cons,
    List.count_append, List.get_eq_getElem]
  omega

/-- Appending tasks the handlers emit adds no header. -/
theorem Appends.count_fftPath {l l' : List (Nat × EventData)} (h : Appends Emitted l l')
    (p : Tag) :
    (l'.flatMap (·.2.fftPath)).count p = (l.flatMap (·.2.fftPath)).count p := by
  obtain ⟨e, rfl, he⟩ := h
  rw [List.flatMap_append, List.count_append,
    List.flatMap_eq_nil_iff.2 fun x hx => EventData.fftPath_eq_nil (he x hx).2.1]
  rfl

/-- A queue that carries no header keeps carrying none when only events of
    emittable types are appended. -/
theorem Appends.fftPath_nil {P : EventData → Prop} (hP : ∀ e, P e → e.eventType.Emittable)
    {l l' : List EventData} (h : Appends P l l') (hl : ∀ e ∈ l, e.fftPath = []) :
    ∀ e ∈ l', e.fftPath = [] := fun e he =>
  (h.mem he).elim (hl e) fun hp => EventData.fftPath_eq_nil (hP e hp)

namespace Agora

variable (cfg : Config) (a : Agora)

/-- How often the master holds the header `p`: in the FFT queue of `p`'s slot, and
    in the tags of its FFT tasks. -/
def holds (p : Tag) : Nat :=
  (a.fftQueueArr (p.frameId % cfg.frameWnd)).count p + (a.taskQueue.flatMap (·.2.fftPath)).count p

/-- `HandleEvents`' switch holds a header at most as often as before and as the
    event carried it: `kPacketRX` queues its packet, the other cases emit no
    header. -/
theorem dispatch_holds (e : EventData) (p : Tag) :
    (a.dispatch cfg e).2.holds cfg p ≤ a.holds cfg p + e.fftPath.count p := by
  have ht : ((a.dispatch cfg e).2.taskQueue.flatMap (·.2.fftPath)).count p =
      (a.taskQueue.flatMap (·.2.fftPath)).count p := (dispatch_le cfg a e).tasks.count_fftPath p
  suffices h : ((a.dispatch cfg e).2.fftQueueArr (p.frameId % cfg.frameWnd)).count p ≤
      (a.fftQueueArr (p.frameId % cfg.frameWnd)).count p + e.fftPath.count p by
    unfold holds
    omega
  by_cases he : e.eventType = .packetRX
  · have hd : a.dispatch cfg e = (false, a.handlePacketRX cfg e.tag0) := by
      simp only [dispatch, he]
    have hpath : e.fftPath = [e.tag0] := by simp only [EventData.fftPath, he]
    obtain ⟨hout, hin⟩ := handlePacketRX_spec cfg a e.tag0
    rw [hd, hpath]
    by_cases hw : a.curScheFrameId + cfg.frameWnd ≤ e.tag0.frameId
    · rw [hout hw]
      exact Nat.le_add_right _ _
    · rw [(hin (Nat.lt_of_not_le hw)).1]
      by_cases hs : p.frameId % cfg.frameWnd = e.tag0.frameId % cfg.frameWnd
      · rw [hs, Function.update_same, List.count_append]
      · rw [Function.update_noteq hs]
        exact Nat.le_add_right _ _
  · have hf : (a.dispatch cfg e).2.fftQueueArr = a.fftQueueArr :=
      (dispatch_progress cfg a e he).fft
    rw [hf]
    exact Nat.le_add_right _ _

/-- The tags of the FFT tasks of `TryScheduleFft` are the first full blocks of the
    queue, in order. -/
theorem fftBlocks_fftPath (q : List Tag) (qid B : Nat) : ∀ n : Nat,
    ((List.range n).map fun i =>
      (qid, (⟨.fft, (q.drop (i * B)).take B⟩ : EventData))).flatMap (·.2.fftPath) = q.take (n * B)
  | 0 => by simp
  | n + 1 => by
    rw [List.range_succ, List.map_append, List.flatMap_append, fftBlocks_fftPath q qid B n,
      Nat.succ_mul, List.take_add]
    simp [EventData.fftPath]

/-- `TryScheduleFft` moves headers from the schedule frame's queue into FFT tasks.
    Every packet in that queue is of the slot's frames, so the headers it moves
    are counted in that queue before and in the tasks after. -/
theorem tryScheduleFft_holds (h : a.FftSlots cfg) (p : Tag) :
    (a.tryScheduleFft cfg).holds cfg p ≤ a.holds cfg p := by
  obtain ⟨htq, hq, -⟩ := tryScheduleFft_spec cfg a
  have hle := ((tryScheduleFft_drains cfg a).fft (p.frameId % cfg.frameWnd)).sublist.count_le p
  have hsplit := congrArg (List.count p) (List.take_append_drop
    ((a.fftQueueArr (a.curScheFrameId % cfg.frameWnd)).length / cfg.fftBlockSize *
      cfg.fftBlockSize) (a.fftQueueArr (a.curScheFrameId % cfg.frameWnd)))
  rw [List.count_append] at hsplit
  unfold holds
  rw [htq, List.flatMap_append, List.count_append, fftBlocks_fftPath]
  by_cases hs : p.frameId % cfg.frameWnd = a.curScheFrameId % cfg.frameWnd
  · rw [hs, hq]
    omega
  · have h0 : ((a.fftQueueArr (a.curScheFrameId % cfg.frameWnd)).take
        ((a.fftQueueArr (a.curScheFrameId % cfg.frameWnd)).length / cfg.fftBlockSize *
          cfg.fftBlockSize)).count p = 0 :=
      List.count_eq_zero.2 fun hp => hs (h _ p (List.mem_of_mem_take hp)).1
    exact Nat.add_le_add hle (by omega)

theorem handleEvents_holds (h : a.FftSlots cfg) (e : EventData) (p : Tag) :
    (a.handleEvents cfg e).2.holds cfg p ≤ a.holds cfg p + e.fftPath.count p := by
  have hd := dispatch_holds cfg a e p
  unfold handleEvents
  dsimp only
  split_ifs
  · exact hd
  · exact (tryScheduleFft_holds cfg _ (h.dispatch e) p).trans hd

/-- `HandleEvents` sends the streamer only `kPacketTX` events and the MAC thread
    only `kPacketToMac` requests. -/
theorem handleEvents_outward (e : EventData) :
    Appends (fun e => e.eventType = .packetTX) a.txQueue (a.handleEvents cfg e).2.txQueue ∧
      Appends (fun e => e.eventType = .packetToMac) a.macRequestQueue
        (a.handleEvents cfg e).2.macRequestQueue := by
  have hd := dispatch_le cfg a e
  unfold handleEvents
  dsimp only
  split_ifs
  · exact ⟨hd.tx, hd.mac⟩
  · have ht := tryScheduleFft_drains cfg (a.dispatch cfg e).2
    exact ⟨hd.tx.trans ht.tx, hd.mac.trans ht.mac⟩

end Agora

namespace Sys

variable (cfg : Config)

/-- How often the header `p` waits on its way through FFT: in `rx_con_q` and the
    batch, in the FFT queue of its slot, and in the tags of the FFT tasks and
    completions. -/
def pending (s : Sys) (p : Tag) : Nat :=
  ((s.rxQueue ++ s.batch).flatMap EventData.fftPath).count p + s.agora.holds cfg p +
    (s.compQueue.flatMap (·.2.fftPath)).count p

/-- `FetchDoerEvent` splits the completion queue into the batch and the rest. -/
theorem takeBucket_perm (q n : Nat) (l : List (Nat × EventData)) :
    List.Perm ((takeBucket q n l).1.map (q, ·) ++ (takeBucket q n l).2) l := by
  induction n, l using takeBucket.induct q with
  | case1 l => simp [takeBucket]
  | case2 n hn => cases n <;> simp_all [takeBucket]
  | case3 n e l ih =>
    simp only [takeBucket, if_true, List.map_cons, List.cons_append]
    exact ih.cons _
  | case4 n p e l hp ih =>
    simp only [takeBucket, hp, if_false]
    exact List.perm_middle.trans (ih.cons _)

/-- What the system keeps along every run: the FFT queues in their slots, no
    header in the queues to the streamer and from and to the MAC thread, every
    delivered packet delivered once, and no header waiting more often than it
    was delivered. -/
structure Conserves (s : Sys) : Prop where
  fft : s.agora.FftSlots cfg
  tx : ∀ e ∈ s.agora.txQueue, e.fftPath = []
  mac : ∀ e ∈ s.agora.macRequestQueue, e.fftPath = []
  macResponse : ∀ e ∈ s.macResponseQueue, e.fftPath = []
  delivered : s.delivered.Nodup
  pending : ∀ p, s.pending cfg p ≤ (s.delivered.map wireTag).count p

theorem init_conserves : (init cfg).Conserves cfg := by
  obtain ⟨_, _, _, hci⟩ := Agora.checkIncrementScheduleFrame_eq cfg (Agora.blank cfg) 0
    kProcessingComplete
  refine ⟨init_fftSlots cfg, ?_, ?_, ?_, List.nodup_nil, fun p => ?_⟩ <;>
    simp only [init, Agora.init, Agora.initializeCounters, hci] <;>
    simp [Agora.blank, pending, Agora.holds]

variable {cfg}

/-- A batch `Start` fetches only when the last one is done. -/
theorem batch_eq_nil {s : Sys} (h : s.canFetch = true) : s.batch = [] := by
  simp only [canFetch, Bool.and_eq_true, List.isEmpty_iff] at h
  exact h.1.1

/-- Every step keeps the conservation of headers: the radio's delivery adds a
    header on both sides, every other step moves headers along the path or
    drops them. -/
theorem step_conserves {s s' : Sys} {act : Action} (h : step cfg s act = some s')
    (hc : s.Conserves cfg) : s'.Conserves cfg := by
  have hf := step_fftSlots cfg h hc.fft
  cases act <;> simp only [step] at h
  case receive pkt =>
    split_ifs at h with hr
    cases h
    refine ⟨hf, hc.tx, hc.mac, hc.macResponse,
      List.nodup_append.2 ⟨hc.delivered, List.nodup_singleton _, by simpa using hr.2⟩,
      fun p => ?_⟩
    have := hc.pending p
    have hnew : (⟨.packetRX, [wireTag pkt]⟩ : EventData).fftPath = [wireTag pkt] := rfl
    simp only [pending, Agora.holds, List.flatMap_append, List.flatMap_cons, List.flatMap_nil,
      hnew, List.append_nil, List.count_append, List.map_append, List.map_cons, List.map_nil]
      at this ⊢
    omega
  case transmit i =>
    split at h
    · rename_i hi
      cases h
      have h0 := hc.tx _ (List.get_mem _ _ hi)
      refine ⟨hf, fun e he => hc.tx e (List.mem_of_mem_eraseIdx he), hc.mac, hc.macResponse,
        hc.delivered, fun p => ?_⟩
      have := hc.pending p
      simp only [pending, Agora.holds, List.append_assoc, List.flatMap_append, List.count_append,
        List.flatMap_cons, h0] at this ⊢
      simpa using this
    · cases h
  case macReply i =>
    split at h
    · rename_i hi
      cases h
      have h0 := hc.mac _ (List.get_mem _ _ hi)
      refine ⟨hf, hc.tx, fun e he => hc.mac e (List.mem_of_mem_eraseIdx he), ?_, hc.delivered,
        hc.pending⟩
      simp only [List.mem_append, List.mem_singleton]
      rintro e (he | rfl)
      exacts [hc.macResponse e he, h0]
    · cases h
  case macDownlink f ue =>
    split_ifs at h
    cases h
    refine ⟨hf, hc.tx, hc.mac, ?_, hc.delivered, hc.pending⟩
    simp only [List.mem_append, List.mem_singleton]
    rintro e (he | rfl)
    exacts [hc.macResponse e he, rfl]
  case ranUpdate mcs =>
    split_ifs at h
    cases h
    refine ⟨hf, hc.tx, hc.mac, ?_, hc.delivered, hc.pending⟩
    simp only [List.mem_append, List.mem_singleton]
    rintro e (he | rfl)
    exacts [hc.macResponse e he, rfl]
  case work i =>
    split at h
    · rename_i hi
      cases h
      refine ⟨hf, hc.tx, hc.mac, hc.macResponse, hc.delivered, fun p => ?_⟩
      have := hc.pending p
      have hw := count_flatMap_eraseIdx (·.2.fftPath) p hi
      simp only [pending, Agora.holds, List.flatMap_append, List.count_append, List.flatMap_cons,
        List.flatMap_nil, List.append_nil, Doer.tryLaunch] at this hw ⊢
      omega
    · cases h
  case fetchStreamer n m =>
    split at h
    · rename_i hg
      cases h
      have hb := batch_eq_nil hg.1
      have hmac : ((if cfg.enableMac then s.macResponseQueue.take m else []).flatMap
          EventData.fftPath) = [] := by
        split_ifs
        · exact List.flatMap_eq_nil_iff.2 fun e he => hc.macResponse e (List.mem_of_mem_take he)
        · rfl
      refine ⟨hf, hc.tx, hc.mac, fun e he => hc.macResponse e (List.mem_of_mem_drop he),
        hc.delivered, fun p => ?_⟩
      have := hc.pending p
      have hsplit := congrArg (List.count p) (congrArg (List.flatMap · EventData.fftPath)
        (List.take_append_drop n s.rxQueue))
      simp only [pending, Agora.holds, hb, List.append_nil, List.flatMap_append,
        List.count_append, hmac, List.count_nil] at this hsplit ⊢
      omega
    · cases h
  case fetchDoer n =>
    split at h
    · rename_i hg
      cases h
      have hb := batch_eq_nil hg.1
      refine ⟨hf, hc.tx, hc.mac, hc.macResponse, hc.delivered, fun p => ?_⟩
      have := hc.pending p
      have hperm := ((takeBucket_perm (s.agora.curProcFrameId % 2) n s.compQueue).flatMap_right
        (·.2.fftPath)).count_eq p
      have hmap : ((takeBucket (s.agora.curProcFrameId % 2) n s.compQueue).1.map
          (s.agora.curProcFrameId % 2, ·)).flatMap (·.2.fftPath) =
          (takeBucket (s.agora.curProcFrameId % 2) n s.compQueue).1.flatMap EventData.fftPath := by
        rw [List.flatMap_map]
      simp only [pending, Agora.holds, hb, List.append_nil, List.flatMap_append,
        List.count_append, hmap] at this hperm ⊢
      omega
    · cases h
  case handle =>
    split at h
    · cases h
    · rename_i e rest hb
      cases h
      have hout := Agora.handleEvents_outward cfg s.agora e
      have hh := Agora.handleEvents_holds cfg s.agora hc.fft e
      refine ⟨hf, hout.1.fftPath_nil (fun e h => by rw [h]; decide) hc.tx,
        hout.2.fftPath_nil (fun e h => by rw [h]; decide) hc.mac, hc.macResponse, hc.delivered,
        fun p => ?_⟩
      have := hc.pending p
      have hrest : ((if (s.agora.handleEvents cfg e).1 then [] else rest).flatMap
          EventData.fftPath).count p ≤ (rest.flatMap EventData.fftPath).count p := by
        split_ifs <;> simp
      have hh := hh p
      simp only [pending, hb, List.flatMap_append, List.flatMap_cons, List.count_append]
        at this hrest ⊢
      omega

theorem Reachable.conserves {s : Sys} (hs : Reachable cfg s) : s.Conserves cfg := by
  induction hs with
  | init => exact init_conserves cfg
  | step _ h ih => exact step_conserves h ih

/-- No RX packet is duplicated on its way through FFT.  In every reachable state,
    each header waits in `rx_con_q`, the batch, the FFT queue of its slot and the
    tags of the FFT tasks and completions, all together, at most as often as the
    radio delivered a packet with that header; at most once when the ids of every
    delivered packet fit in four bytes. -/
theorem reachable_rx_not_duplicated {s : Sys} (hs : Reachable cfg s) (p : Tag) :
    s.pending cfg p ≤ (s.delivered.map wireTag).count p ∧
      ((∀ q ∈ s.delivered, q.frameId < 2 ^ 32 ∧ q.symbolId < 2 ^ 32 ∧ q.innerId < 2 ^ 32) →
        s.pending cfg p ≤ 1) := by
  have hc := hs.conserves
  refine ⟨hc.pending p, fun hq => (hc.pending p).trans ?_⟩
  have hmap : s.delivered.map wireTag = s.delivered :=
    (List.map_congr_left fun q hm => wireTag_eq_self (hq q hm).1 (hq q hm).2.1 (hq q hm).2.2).trans
      (List.map_id _)
  rw [hmap]
  exact List.nodup_iff_count_le_one.1 hc.delivered p

theorem reachable_rx_not_duplicated_queued :
    fftQueuedState.pending Config.oneAntenna ⟨0, 0, 0⟩ = 1 ∧
      (fftQueuedState.pending Config.oneAntenna ⟨0, 0, 0⟩ ≤
          (fftQueuedState.delivered.map wireTag).count ⟨0, 0, 0⟩ ∧
        ((∀ q ∈ fftQueuedState.delivered,
            q.frameId < 2 ^ 32 ∧ q.symbolId < 2 ^ 32 ∧ q.innerId < 2 ^ 32) →
          fftQueuedState.pending Config.oneAntenna ⟨0, 0, 0⟩ ≤ 1)) :=
  ⟨by rfl, reachable_rx_not_duplicated (run_reachable _ (l := fftQueuedRun) .init (by rfl)) _⟩

end Sys

/-! ## Downstream of the FFT -/

/-- Frame 0 arrives whole in Bigstation mode; the master handles everything
    the workers finish, the two decode events of symbol 1 in one batch. -/
def duplicateDecodeRun : List Action :=
  [.receive ⟨0, 0, 0⟩, .receive ⟨0, 1, 0⟩, .fetchStreamer 2 0, .handle, .handle,
   .work 0, .fetchDoer 1, .handle, .fetchStreamer 0 0,
   .work 0, .fetchDoer 1, .handle, .fetchStreamer 0 0,
   .work 0, .fetchDoer 1, .handle, .fetchStreamer 0 0,
   .work 0, .work 0, .fetchDoer 2, .handle, .handle]

/-- Reciprocal calibration on, a frame of a pilot, a calibration and an uplink symbol. -/
def recCalCfg : Config :=
  { Config.oneAntenna with
    recCalEnabled := true
    frameSchedule := [.pilot, .calUL, .ul]
    fftBlockSize := 1 }

/-- Frame 0 arrives whole and its FFT tasks run in order: the pilot closes before
    the calibration symbol. -/
def pilotFirstRun : List Action :=
  [.receive ⟨0, 0, 0⟩, .receive ⟨0, 1, 0⟩, .receive ⟨0, 2, 0⟩, .fetchStreamer 3 0,
   .handle, .handle, .handle,
   .work 0, .fetchDoer 1, .handle, .fetchStreamer 0 0,
   .work 0, .fetchDoer 1, .handle, .fetchStreamer 0 0,
   .work 0, .fetchDoer 1, .handle]

/-- Emission is neither at least once nor at most once.  With the pilot closing
    first, frame 0 is calibrated, its pilot task count is at its limit, every
    packet of the frame has arrived and every queue is empty, and its beam was
    never scheduled.  In Bigstation mode the decode of symbol 1 of frame 0 is
    scheduled twice. -/
theorem downstream_task_lost_or_doubled :
    (∃ s, Sys.Reachable recCalCfg s ∧ s.agora.rcLastFrame = some 0 ∧
      (s.agora.counters .pilotFft).taskCount 0 0 = recCalCfg.bsAntNum ∧
      Note.schedule .beam 0 0 ∉ s.agora.log ∧ s.delivered = [⟨0, 0, 0⟩, ⟨0, 1, 0⟩, ⟨0, 2, 0⟩] ∧
      s.agora.taskQueue = [] ∧ s.compQueue = [] ∧ s.rxQueue = [] ∧ s.batch = []) ∧
    (∃ s, Sys.Reachable bigstationCfg s ∧ s.agora.log.count (.schedule .decode 0 1) = 2) :=
  ⟨Sys.reach_of_run recCalCfg (l := pilotFirstRun) (by decide),
   Sys.reach_of_run bigstationCfg (l := duplicateDecodeRun) (by decide)⟩

/-- Frame 2's encode closes first, then frame 0's beam. -/
def encodeAheadRun : List Action :=
  [.receive ⟨0, 0, 0⟩, .receive ⟨2, 0, 0⟩, .fetchStreamer 2 0, .handle, .handle,
   .work 2, .fetchDoer 1, .handle, .fetchStreamer 0 0,
   .work 1, .fetchDoer 1, .handle, .fetchStreamer 0 0,
   .work 1, .fetchDoer 1, .handle]

/-- Four antennas' worth of a pilot and an uplink symbol in Bigstation mode. -/
def aliasCfg : Config :=
  { bigstationCfg with bsAntNum := 2, bfAntNum := 2, fftBlockSize := 1 }

/-- Frames 0 and 1 arrive whole and frame 2's first pilot packet follows; the
    first FFT tasks of frames 0 and 2 run. -/
def slotAliasRun : List Action :=
  [.receive ⟨0, 0, 0⟩, .receive ⟨0, 0, 1⟩, .receive ⟨0, 1, 0⟩, .receive ⟨0, 1, 1⟩,
   .fetchStreamer 4 0, .handle, .handle, .handle, .handle, .fetchDoer 0,
   .receive ⟨1, 0, 0⟩, .receive ⟨1, 0, 1⟩, .receive ⟨1, 1, 0⟩, .receive ⟨1, 1, 1⟩,
   .fetchStreamer 4 0, .handle, .handle, .handle, .handle, .fetchDoer 0,
   .receive ⟨2, 0, 0⟩, .fetchStreamer 1 0, .handle,
   .work 0, .work 7, .fetchDoer 2, .handle, .handle]

/-- Tasks are released before their upstream closes.  With three schedule queues
    in a window of four, frame 0's precode of symbol 1 is scheduled while its
    encode task is still queued: frame 2's encode set the mark.  In Bigstation
    mode with two of each, frame 2's beam is scheduled from frame 0's and frame
    2's pilot completions, which share a slot, before frame 2's second pilot
    packet has arrived. -/
theorem task_released_before_upstream :
    (∃ s, Sys.Reachable precodeCfg s ∧ Note.schedule .precode 0 1 ∈ s.agora.log ∧
      (0, ⟨.encode, [⟨0, 1, 0⟩]⟩) ∈ s.agora.taskQueue) ∧
    (∃ s, Sys.Reachable aliasCfg s ∧ Note.schedule .beam 2 0 ∈ s.agora.log ∧
      (⟨2, 0, 1⟩ : Tag) ∉ s.delivered) :=
  ⟨Sys.reach_of_run precodeCfg (l := encodeAheadRun) (by decide),
   Sys.reach_of_run aliasCfg (l := slotAliasRun) (by decide)⟩

end Savannah
