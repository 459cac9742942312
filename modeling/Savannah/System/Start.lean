/-
  Savannah.System.Start

  The master's loop `Agora::Start` (`agora.cc`) in its `SINGLE_THREAD` build.
  There are no worker threads: `Start` calls `AgoraWorker::RunWorker` after
  every event it handles, unless the event finished the loop.  `RunWorker` is
  one turn of the loop of `WorkerThread`
  without its `Running()` check, so every state that build reaches is one the
  system of `Sys.step` reaches, and its worker keeps its loop variables in
  range.  But that worker turns only when the master handles an event: with
  no event waiting, the master fetches empty batches in turn and no task runs,
  and with two frames to test this happens after the radio's last packet,
  with frame 1's FFT task waiting on the bucket the worker is not on.
-/
import Savannah.System.Worker

namespace Savannah

/-! ## The `SINGLE_THREAD` build -/

/-- The system of the `SINGLE_THREAD` build: its one worker's loop variables are
    members of `AgoraWorker`, and the master runs its turns. -/
structure STSys where
  sys : Sys
  worker : Worker

namespace STSys

variable (cfg : Config)

/-- `InitializeWorker` leaves the loop variables as `WorkerThread` starts them. -/
def init : STSys := ⟨Sys.init cfg, Worker.init⟩

/-- One step; `none` when the action is not enabled.  `Start` handles an event
    and then, unless the event finished the loop, calls `RunWorker`.  The other
    parties step as in `Sys.step`, and a `work` step only runs a `kBroadcast`
    task, whose doer no `computers_vec` holds. -/
def step (w : STSys) : Action → Option STSys
  | .handle => (w.sys.step cfg .handle).map fun s =>
    if s.finish then ⟨s, w.worker⟩ else ⟨(w.worker.iter cfg s).2, (w.worker.iter cfg s).1⟩
  | .work i =>
    if (w.sys.agora.taskQueue[i]?).map (·.2.eventType) = some .broadcast then
      (w.sys.step cfg (.work i)).map (⟨·, w.worker⟩)
    else none
  | act => (w.sys.step cfg act).map (⟨·, w.worker⟩)

/-- The states a run of the `SINGLE_THREAD` build can reach. -/
inductive Reachable : STSys → Prop where
  | init : Reachable (init cfg)
  | step {w w' : STSys} {act : Action} : Reachable w → step cfg w act = some w' → Reachable w'

/-- Runs a list of actions in order; `none` when one is not enabled. -/
def run : STSys → List Action → Option STSys
  | w, [] => some w
  | w, act :: rest => (step cfg w act).bind (run · rest)

theorem run_reachable : ∀ {w w' : STSys} {l : List Action},
    Reachable cfg w → run cfg w l = some w' → Reachable cfg w'
  | _, _, [], hw, h => by cases h; exact hw
  | _, _, _ :: _, hw, h => by
    obtain ⟨w1, h1, hr⟩ := Option.bind_eq_some.1 h
    exact run_reachable (.step hw h1) hr

/-- A worker turn from a reachable state of the system ends in one. -/
theorem iter_reachable {s : Sys} (hs : Sys.Reachable cfg s) (v : Worker) :
    Sys.Reachable cfg (v.iter cfg s).2 := by
  rcases Worker.iter_refines cfg v s with ⟨i, hi⟩ | hi
  · exact .step hs hi
  · rwa [hi]

theorem step_reachable {w w' : STSys} {act : Action} (h : step cfg w act = some w')
    (hs : Sys.Reachable cfg w.sys) (hw : w.worker.Ok) :
    Sys.Reachable cfg w'.sys ∧ w'.worker.Ok := by
  cases act
  case handle =>
    obtain ⟨s, hs', rfl⟩ := Option.map_eq_some'.1 h
    split_ifs
    · exact ⟨.step hs hs', hw⟩
    · exact ⟨iter_reachable cfg (.step hs hs') _, Worker.iter_ok cfg hw s⟩
  case work i =>
    simp only [step] at h
    split_ifs at h
    obtain ⟨s, hs', rfl⟩ := Option.map_eq_some'.1 h
    exact ⟨.step hs hs', hw⟩
  all_goals
    obtain ⟨s, hs', rfl⟩ := Option.map_eq_some'.1 h
    exact ⟨.step hs hs', hw⟩

/-- Every state the `SINGLE_THREAD` build reaches is a state the system of
    `Sys.step` reaches, and its worker keeps `cur_qid` on one of the two buckets
    and `empty_queue_itrs` below five. -/
theorem reachable_sys {w : STSys} (hw : Reachable cfg w) :
    Sys.Reachable cfg w.sys ∧ w.worker.Ok := by
  induction hw with
  | init => exact ⟨.init, Worker.init_ok⟩
  | step _ h ih => exact step_reachable cfg h ih.1 ih.2

end STSys

/-- The two packets of frame 0, fetched and handled: the second makes an FFT task,
    which the worker launches right after. -/
def singleThreadFftRun : List Action :=
  [.receive ⟨0, 0, 0⟩, .receive ⟨0, 1, 0⟩, .fetchStreamer 2 0, .handle, .handle]

def singleThreadFftState : STSys :=
  (STSys.run Config.oneAntenna (STSys.init Config.oneAntenna) singleThreadFftRun).getD
    (STSys.init Config.oneAntenna)

theorem reachable_sys_fft :
    singleThreadFftState.sys.compQueue.length = 1 ∧
      Sys.Reachable Config.oneAntenna singleThreadFftState.sys ∧ singleThreadFftState.worker.Ok :=
  ⟨by rfl,
   STSys.reachable_sys _ (STSys.run_reachable _ (l := singleThreadFftRun) .init (by rfl))⟩

/-! ## The worker of the `SINGLE_THREAD` build waits for events

That build's worker turns only after an event is handled.  When no event waits
for the master, its loop fetches empty batches from the two sources in turn
and the worker does not run, whatever waits in the task queues: the run goes on
only when the radio, the streamer or the MAC thread sends the master an event.
With two frames to test, the radio's last packet can leave the worker four
empty turns into bucket 0 while frame 1's FFT task waits on bucket 1. -/

/-- The master's own steps: `FetchStreamerEvent`, `FetchDoerEvent` and handling an
    event. -/
def Action.isMaster : Action → Bool
  | .fetchStreamer _ _ | .fetchDoer _ | .handle => true
  | _ => false

namespace Sys

/-- No event waits for the master: its batch and the RX queue are empty, no MAC
    response waits when the MAC is on, and no completion waits on the bucket
    `FetchDoerEvent` reads. -/
def NoEvent (cfg : Config) (s : Sys) : Prop :=
  s.batch = [] ∧ s.rxQueue = [] ∧ (cfg.enableMac = true → s.macResponseQueue = []) ∧
    ∀ x ∈ s.compQueue, x.1 ≠ s.agora.curProcFrameId % 2

instance (cfg : Config) (s : Sys) : Decidable (s.NoEvent cfg) :=
  inferInstanceAs (Decidable (_ ∧ _ ∧ _ ∧ _))

/-- With no completion on bucket `q`, `FetchDoerEvent` takes nothing. -/
theorem takeBucket_of_forall_ne (q n : Nat) (l : List (Nat × EventData))
    (h : ∀ x ∈ l, x.1 ≠ q) : takeBucket q n l = ([], l) := by
  induction n, l using takeBucket.induct q with
  | case1 l => simp [takeBucket]
  | case2 n hn => cases n <;> simp [takeBucket]
  | case3 n e l ih => exact absurd rfl (h _ (List.mem_cons_self _ _))
  | case4 n p e l hp ih =>
    rw [takeBucket, if_neg hp, ih fun x hx => h x (List.mem_cons_of_mem _ hx)]

variable (cfg : Config)

/-- With no event waiting, a step of the master only flips
    `is_turn_to_dequeue_from_io`. -/
theorem step_noEvent {s s' : Sys} {act : Action} (ha : act.isMaster = true)
    (h : s.NoEvent cfg) (hs : s.step cfg act = some s') : s' = { s with turnIo := !s.turnIo } := by
  obtain ⟨hb, hrx, hmac, hc⟩ := h
  cases act
  case handle => simp [step, hb] at hs
  case fetchStreamer =>
    simp only [step] at hs
    split_ifs at hs with hf hm <;> cases hs
    · simp only [hrx, hb, hmac hm, hf.2, List.take_nil, List.drop_nil, List.append_nil,
        List.length_nil, List.drop_zero, Bool.not_true]
    · simp only [hrx, hb, hf.2, List.take_nil, List.drop_nil, List.append_nil,
        List.length_nil, List.drop_zero, Bool.not_true]
  case fetchDoer =>
    simp only [step] at hs
    split_ifs at hs with hf
    cases hs
    simp only [takeBucket_of_forall_ne _ _ _ hc, hb, hf.2, Bool.not_false]
  all_goals simp [Action.isMaster] at ha

end Sys

namespace STSys

variable (cfg : Config)

theorem step_noEvent {w w' : STSys} {act : Action} (ha : act.isMaster = true)
    (h : w.sys.NoEvent cfg) (hs : w.step cfg act = some w') :
    w' = ⟨{ w.sys with turnIo := !w.sys.turnIo }, w.worker⟩ := by
  cases act
  case handle => simp [step, Sys.step, h.1] at hs
  case fetchStreamer | fetchDoer =>
    obtain ⟨s, hs', rfl⟩ := Option.map_eq_some'.1 hs
    rw [Sys.step_noEvent cfg ha h hs']
  all_goals simp [Action.isMaster] at ha

/-- In the `SINGLE_THREAD` build, from a state where no event waits for the
    master, the master's own steps, however many, change nothing but
    `is_turn_to_dequeue_from_io`: the worker does not turn and no task is
    launched, whatever waits in the task queues. -/
theorem run_master_without_events : ∀ {w w' : STSys} {l : List Action},
    (∀ a ∈ l, a.isMaster = true) → w.sys.NoEvent cfg → run cfg w l = some w' →
      w'.sys = { w.sys with turnIo := w'.sys.turnIo } ∧ w'.worker = w.worker
  | _, _, [], _, _, h => by cases h; exact ⟨rfl, rfl⟩
  | _, _, _ :: _, hl, h, hr => by
    obtain ⟨w1, h1, hr⟩ := Option.bind_eq_some.1 hr
    have hw1 := step_noEvent cfg (hl _ (List.mem_cons_self _ _)) h h1
    obtain ⟨ih1, ih2⟩ :=
      run_master_without_events (fun a ha => hl a (List.mem_cons_of_mem _ ha))
        (by rw [hw1]; exact h) hr
    rw [ih1, ih2, hw1]
    exact ⟨rfl, rfl⟩

end STSys

/-- `frames_to_test = 2` in the smallest configuration. -/
def twoFramesCfg : Config := { Config.oneAntenna with framesToTest := 2 }

/-- The radio sends every packet of frames 0 and 1, and the master fetches and
    handles greedily: frame 0 is retired, and frame 1's FFT task is created while
    the worker is on bucket 0, which it then leaves only after a fifth empty turn. -/
def stallRun : List Action :=
  [.receive ⟨0, 0, 0⟩, .receive ⟨0, 1, 0⟩, .receive ⟨1, 0, 0⟩, .receive ⟨1, 1, 0⟩,
   .fetchStreamer 8 0, .handle, .handle, .handle, .handle, .fetchDoer 8, .handle,
   .fetchStreamer 8 0, .fetchDoer 8, .handle, .fetchStreamer 8 0, .fetchDoer 8, .handle,
   .fetchStreamer 8 0, .fetchDoer 8, .handle]

def stallState : STSys :=
  (STSys.run twoFramesCfg (STSys.init twoFramesCfg) stallRun).getD (STSys.init twoFramesCfg)

/-- Two more fetches of the master.  A worker thread in the same state would move
    to bucket 1 on its next turn and launch the FFT task on the one after. -/
def stallNext : STSys :=
  (STSys.run twoFramesCfg stallState [.fetchStreamer 8 0, .fetchDoer 8]).getD stallState

theorem run_master_without_events_stall :
    STSys.Reachable twoFramesCfg stallState ∧ stallState.sys.finish = false ∧
      stallState.sys.agora.curProcFrameId = 1 ∧ stallState.worker = ⟨0, 4, true⟩ ∧
      (1, (⟨.fft, [⟨1, 0, 0⟩, ⟨1, 1, 0⟩]⟩ : EventData)) ∈
        stallState.sys.agora.taskQueue ∧
      (stallNext.sys = { stallState.sys with turnIo := stallNext.sys.turnIo } ∧
        stallNext.worker = stallState.worker) ∧
      (Worker.turns twoFramesCfg 2 stallState.worker stallState.sys).2.agora.taskQueue = [] :=
  ⟨STSys.run_reachable _ (l := stallRun) .init (by rfl), by rfl, by rfl, by rfl, by decide,
   STSys.run_master_without_events twoFramesCfg (l := [.fetchStreamer 8 0, .fetchDoer 8])
     (by decide) (by decide) (by rfl), by rfl⟩

end Savannah
