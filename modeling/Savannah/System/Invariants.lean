/-
  Savannah.System.Invariants

  What holds along every run of the system, from the one-step facts of
  `Master.Progress`.  Every packet waiting in `fft_queue_arr_` sits in
  the slot of its frame, and its frame lies below the end of the window of the
  schedule frame: `kPacketRX` queues only such packets, and the window only
  moves forward.

  With an even `kFrameWnd`, every task and every completion waits in the bucket
  of its frames' parity.  The emitters put the tasks of frame `f` on bucket
  `f & 0x1`; `TryScheduleFft` puts its FFT tasks on the bucket of the schedule
  frame, and takes their packets from the schedule frame's slot, whose frames
  are congruent to the schedule frame modulo the window.  So a batch of
  `FetchDoerEvent` holds only completions of frames of the parity of the
  processing frame.
-/
import Savannah.Master.Progress
import Savannah.System.Batching

namespace Savannah

namespace Agora

variable (cfg : Config)

/-- Every packet waiting in an FFT queue sits in the slot of its frame, and its
    frame lies below the end of the window of the schedule frame. -/
def FftSlots (a : Agora) : Prop :=
  ∀ j, ∀ t ∈ a.fftQueueArr j,
    t.frameId % cfg.frameWnd = j ∧ t.frameId < a.curScheFrameId + cfg.frameWnd

variable {cfg}

/-- Taking packets off the FFT queues while the window moves forward keeps them
    in their slots and windows. -/
theorem FftSlots.of_drains {a b : Agora} (h : a.FftSlots cfg) (hd : a.progress.Drains b.progress) :
    b.FftSlots cfg := fun j t ht =>
  have ht := h j t ((hd.fft j).subset ht)
  ⟨ht.1, ht.2.trans_le (Nat.add_le_add_right hd.sche _)⟩

theorem FftSlots.dispatch {a : Agora} (h : a.FftSlots cfg) (e : EventData) :
    (a.dispatch cfg e).2.FftSlots cfg := by
  have hs : a.curScheFrameId + cfg.frameWnd ≤ (a.dispatch cfg e).2.curScheFrameId + cfg.frameWnd :=
    Nat.add_le_add_right (dispatch_le cfg a e).sche _
  intro j t ht
  rcases dispatch_fft cfg a e j t ht with ht | ht
  · exact ⟨(h j t ht).1, (h j t ht).2.trans_le hs⟩
  · exact ⟨ht.1, ht.2.trans_le hs⟩

theorem FftSlots.handleEvents {a : Agora} (h : a.FftSlots cfg) (e : EventData) :
    (a.handleEvents cfg e).2.FftSlots cfg := by
  unfold Agora.handleEvents
  dsimp only
  split_ifs
  · exact h.dispatch e
  · exact (h.dispatch e).of_drains (tryScheduleFft_drains cfg _)

/-- With an even window, the FFT tasks `TryScheduleFft` emits from a state whose
    packets sit in their slots are on the bucket of their frames' parity. -/
theorem tryScheduleFft_onParityBucket {a : Agora} (hW : 2 ∣ cfg.frameWnd) (h : a.FftSlots cfg) :
    ∀ x ∈ (a.tryScheduleFft cfg).taskQueue, x ∈ a.taskQueue ∨ OnParityBucket x := by
  rw [(tryScheduleFft_spec cfg a).1]
  simp only [List.mem_append, List.mem_map]
  rintro x (hx | ⟨i, -, rfl⟩)
  · exact .inl hx
  · refine .inr fun t ht => ?_
    have hq := (h _ t (List.mem_of_mem_drop (List.mem_of_mem_take ht))).1
    rw [← Nat.mod_mod_of_dvd t.frameId hW, hq, Nat.mod_mod_of_dvd _ hW]

/-- With an even window, `HandleEvents` puts every task on the bucket of its
    frames' parity. -/
theorem handleEvents_onParityBucket {a : Agora} (hW : 2 ∣ cfg.frameWnd) (h : a.FftSlots cfg)
    (ht : ∀ x ∈ a.taskQueue, OnParityBucket x) (e : EventData) :
    ∀ x ∈ (a.handleEvents cfg e).2.taskQueue, OnParityBucket x := by
  have hd : ∀ x ∈ (a.dispatch cfg e).2.taskQueue, OnParityBucket x := fun x hx =>
    ((dispatch_le cfg a e).tasks.mem hx).elim (ht x) And.left
  unfold handleEvents
  dsimp only
  split_ifs
  · exact hd
  · intro x hx
    exact (tryScheduleFft_onParityBucket hW (h.dispatch e) x hx).elim (hd x) id

end Agora

namespace Sys

variable (cfg : Config)

/-! ## The FFT queues -/

/-- One packet of frame 0, received, fetched and handled: it waits in the FFT
    queue of slot 0, short of a block of two. -/
def fftQueuedRun : List Action := [.receive ⟨0, 0, 0⟩, .fetchStreamer 1 0, .handle]

def fftQueuedState : Sys :=
  (run Config.oneAntenna (init Config.oneAntenna) fftQueuedRun).getD (init Config.oneAntenna)

theorem init_fftSlots : (init cfg).agora.FftSlots cfg := by
  intro j t ht
  simp [init, Agora.init, Agora.initializeCounters, Agora.blank] at ht

theorem step_fftSlots {s s' : Sys} {act : Action} (h : step cfg s act = some s')
    (hi : s.agora.FftSlots cfg) : s'.agora.FftSlots cfg := by
  rcases step_cases cfg h with ⟨e, _, -, -, rfl⟩ | ⟨-, ha, -⟩ | ⟨-, -, _, _, _, ha⟩
  · exact hi.handleEvents e
  all_goals rw [ha]; exact hi

/-- In every reachable state, every packet waiting for FFT sits in the slot of its
    frame, and its frame lies below the end of the window of the schedule frame. -/
theorem reachable_fftSlots {s : Sys} (hs : Reachable cfg s) : s.agora.FftSlots cfg := by
  induction hs with
  | init => exact init_fftSlots cfg
  | step _ h ih => exact step_fftSlots cfg h ih

theorem reachable_fftSlots_queued :
    fftQueuedState.agora.fftQueueArr 0 = [⟨0, 0, 0⟩] ∧
      fftQueuedState.agora.FftSlots Config.oneAntenna :=
  ⟨by rfl, reachable_fftSlots _ (run_reachable _ (l := fftQueuedRun) .init (by rfl))⟩

/-! ## The two buckets -/

/-- `FetchDoerEvent` takes completions of its bucket from the completion queue,
    and leaves a part of it. -/
theorem takeBucket_mem (q n : Nat) (l : List (Nat × EventData)) :
    (∀ e ∈ (takeBucket q n l).1, (q, e) ∈ l) ∧ (takeBucket q n l).2 ⊆ l := by
  induction n, l using takeBucket.induct q with
  | case1 l => simp [takeBucket]
  | case2 n hn => cases n <;> simp_all [takeBucket]
  | case3 n e l ih =>
    simp only [takeBucket, if_true, List.mem_cons]
    exact ⟨by rintro x (rfl | hx); exacts [.inl rfl, .inr (ih.1 x hx)],
      ih.2.trans (List.subset_cons_self _ _)⟩
  | case4 n p e l hp ih =>
    simp only [takeBucket, hp, if_false]
    exact ⟨fun x hx => .tail _ (ih.1 x hx), List.cons_subset_cons _ ih.2⟩

/-- The FFT queues in their slots, and every task and every completion on the
    bucket of its frames' parity. -/
structure Buckets (s : Sys) : Prop where
  fft : s.agora.FftSlots cfg
  tasks : ∀ x ∈ s.agora.taskQueue, OnParityBucket x
  comps : ∀ x ∈ s.compQueue, OnParityBucket x

theorem init_buckets : (init cfg).Buckets cfg := by
  refine ⟨init_fftSlots cfg, fun x hx => ?_, fun x hx => ?_⟩
  · simp [init, Agora.init, Agora.initializeCounters, Agora.blank] at hx
  · simp [init] at hx

variable {cfg}

/-- With an even window, every step keeps every task and completion on its
    bucket: the master adds tasks on their buckets, a worker moves a task to the
    completions of its own bucket, and `FetchDoerEvent` only takes completions. -/
theorem step_buckets (hW : 2 ∣ cfg.frameWnd) {s s' : Sys} {act : Action}
    (h : step cfg s act = some s') (hb : s.Buckets cfg) : s'.Buckets cfg := by
  have hf := step_fftSlots cfg h hb.fft
  cases act <;> simp only [step] at h
  case handle =>
    split at h
    · cases h
    · cases h
      exact ⟨hf, Agora.handleEvents_onParityBucket hW hb.fft hb.tasks _, hb.comps⟩
  case work i =>
    split at h
    · cases h
      refine ⟨hf, fun x hx => hb.tasks x (List.mem_of_mem_eraseIdx hx), ?_⟩
      simp only [List.mem_append, List.mem_singleton]
      rintro x (hx | rfl)
      exacts [hb.comps x hx, hb.tasks _ (List.get_mem _ _ _)]
    · cases h
  case fetchDoer n =>
    split_ifs at h
    cases h
    exact ⟨hf, hb.tasks, fun x hx => hb.comps x ((takeBucket_mem _ _ _).2 hx)⟩
  all_goals split_ifs at h <;> cases h <;> exact ⟨hf, hb.tasks, hb.comps⟩

theorem Reachable.buckets (hW : 2 ∣ cfg.frameWnd) {s : Sys} (hs : Reachable cfg s) :
    s.Buckets cfg := by
  induction hs with
  | init => exact init_buckets cfg
  | step _ h ih => exact step_buckets hW h ih

end Sys

end Savannah
