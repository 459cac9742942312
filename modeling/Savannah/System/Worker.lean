/-
  Savannah.System.Worker

  The worker threads, `AgoraWorker::WorkerThread` (`agora_worker.cc`), and the
  refinement of the system's `work` step by them.  A worker keeps its bucket
  `cur_qid`, the count `empty_queue_itrs` of its turns without a task since it
  last moved to a bucket, and the flag `empty_queue`.  Each turn of its loop tries its doers in the order of
  `computers_vec`: beamforming and FFT, then decoding and demodulation when the
  frame has uplink symbols, then IFFT, precoding and encoding when it has
  downlink symbols.  The first doer whose task queue on `cur_qid` holds a task
  dequeues the oldest one, runs it and pushes its completion to the completion
  queue of `cur_qid`.  On its fifth turn without a task since it last moved,
  the worker moves to the other bucket when the two frame cursors differ, and
  to the bucket of the schedule frame when they are equal.  A turn that
  launches a task leaves the count as it is: only a move resets it, so after a
  launch the worker can move after fewer than five empty turns in a row,
  although the comment above the check speaks of five empty iterations.

  A turn launches the task at some position of the task queue, which is a
  `work` step of the system, or launches none and leaves the system as it is.
  So every state the system reaches with its workers running these loops is
  one it reaches with the worker of `Sys.step`, which may run any task, and
  every invariant of `Sys.Reachable` holds of it.  The loop keeps `cur_qid` on
  one of the two buckets and `empty_queue_itrs` below five.

  A worker's own turns, while no other party steps, decide which bucket it
  serves: within six turns it reaches the bucket its fifth empty turn names
  (the other one while the frame cursors differ, the schedule frame's when
  they are equal) and launches what waits for it there, and with the cursors
  equal it stays on the schedule frame's bucket, so a task of the next frame's
  parity waits for a worker until the cursors move.
-/
import Savannah.System.Invariants

namespace Savannah

/-- `events_vec`: the task types of the doers of `computers_vec`, in the order a
    worker tries them. -/
def eventsVec (cfg : Config) : List EventType :=
  [.beam, .fft] ++ (if 0 < cfg.numULSyms then [.decode, .demul] else []) ++
    (if 0 < cfg.numDLSyms then [.ifft, .precode, .encode] else [])

/-- The loop variables of `WorkerThread`. -/
structure Worker where
  curQid : Nat
  emptyQueueItrs : Nat
  emptyQueue : Bool
  deriving DecidableEq, Repr

namespace Sys

/-- The tasks of `GetTaskQueue(type, qid)`: those of the type on bucket `qid`. -/
def inQueue (type : EventType) (qid : Nat) (x : Nat × EventData) : Bool :=
  x.1 == qid && x.2.eventType == type

/-- `Doer::TryLaunch` on `GetTaskQueue(type, qid)` and `GetCompQueue(qid)`: the
    oldest task of the queue, if there is one, leaves it, and its completion
    (`Doer.tryLaunch`) joins the completions of `qid`. -/
def tryLaunch (s : Sys) (type : EventType) (qid : Nat) : Option Sys :=
  match s.agora.taskQueue.find? (inQueue type qid) with
  | some t => some { s with
      agora := { s.agora with taskQueue := s.agora.taskQueue.eraseP (inQueue type qid) },
      compQueue := s.compQueue ++ [(qid, Doer.tryLaunch t.2)] }
  | none => none

/-- The `for` loop over `computers_vec`: the first doer, in order, whose queue on
    bucket `qid` holds a task launches it. -/
def launchFirst (s : Sys) (qid : Nat) : List EventType → Option Sys
  | [] => none
  | type :: rest =>
    match s.tryLaunch type qid with
    | some s' => some s'
    | none => s.launchFirst qid rest

end Sys

namespace Worker

/-- Before the loop: `cur_qid = 0`, `empty_queue_itrs = 0`, `empty_queue = true`. -/
def init : Worker := ⟨0, 0, true⟩

/-- The bucket the fifth empty turn since the last move takes the worker to: the other one
    (`cur_qid ^= 0x1`) while the frame cursors differ, the schedule frame's
    (`cur_sche_frame_id_ & 0x1`) when they are equal. -/
def nextQid (w : Worker) (s : Sys) : Nat :=
  if s.agora.curScheFrameId ≠ s.agora.curProcFrameId then w.curQid ^^^ 1
  else s.agora.curScheFrameId % 2

/-- One turn of the loop `while (config_->Running() == true)` of `WorkerThread`:
    the worker and the system after it. -/
def iter (cfg : Config) (w : Worker) (s : Sys) : Worker × Sys :=
  let r := s.launchFirst w.curQid (eventsVec cfg)
  let emptyQueue := r.isNone && w.emptyQueue
  let s := r.getD s
  if emptyQueue then
    let itrs := w.emptyQueueItrs + 1
    if itrs = 5 then ({ w with curQid := w.nextQid s, emptyQueueItrs := 0 }, s)
    else ({ w with emptyQueueItrs := itrs }, s)
  else ({ w with emptyQueue := true }, s)

end Worker

/-- The system with its workers running `WorkerThread`, by thread id. -/
structure WSys where
  sys : Sys
  workers : Nat → Worker

/-- One step of one party of `WSys`. -/
inductive WAction where
  /-- A turn of the loop of the worker `tid`. -/
  | turn (tid : Nat)
  /-- A step of another party, as in `Sys.step`. -/
  | party (act : Action)

namespace WSys

variable (cfg : Config)

/-- The workers before their loops. -/
def init : WSys := ⟨Sys.init cfg, fun _ => Worker.init⟩

/-- One step; `none` when the action is not enabled.  A worker turns while
    `Running()` holds.  The other parties step as in `Sys.step`, but a `work`
    step only runs a `kBroadcast` task: no worker's `computers_vec` holds the
    doer of those, which a thread outside `src/` runs. -/
def step (w : WSys) : WAction → Option WSys
  | .turn tid =>
    if w.sys.agora.running then
      let r := (w.workers tid).iter cfg w.sys
      some ⟨r.2, Function.update w.workers tid r.1⟩
    else none
  | .party (.work i) =>
    if (w.sys.agora.taskQueue[i]?).map (·.2.eventType) = some .broadcast then
      (w.sys.step cfg (.work i)).map (⟨·, w.workers⟩)
    else none
  | .party act => (w.sys.step cfg act).map (⟨·, w.workers⟩)

/-- The states a run of the system with its worker loops can reach. -/
inductive Reachable : WSys → Prop where
  | init : Reachable (init cfg)
  | step {w w' : WSys} {act : WAction} : Reachable w → step cfg w act = some w' → Reachable w'

/-- Runs a list of actions in order; `none` when one is not enabled. -/
def run : WSys → List WAction → Option WSys
  | w, [] => some w
  | w, act :: rest => (step cfg w act).bind (run · rest)

/-- Every state a run from a reachable state ends in is reachable. -/
theorem run_reachable : ∀ {w w' : WSys} {l : List WAction},
    Reachable cfg w → run cfg w l = some w' → Reachable cfg w'
  | _, _, [], hw, h => by cases h; exact hw
  | w, _, act :: rest, hw, h => by
    simp only [run] at h
    cases hn : step cfg w act with
    | none => simp [hn] at h
    | some w1 => exact run_reachable (Reachable.step hw hn) (by simpa [hn] using h)

end WSys

namespace Sys

variable (cfg : Config)

/-! ## A turn is a `work` step or a stutter -/

/-- A launch dequeues the first task of its queue: the `work` step at that task's
    position, which holds a task of the type on the bucket. -/
theorem tryLaunch_spec {s s' : Sys} {type : EventType} {qid : Nat}
    (h : s.tryLaunch type qid = some s') : ∃ i x, s.agora.taskQueue[i]? = some x ∧
      x.1 = qid ∧ x.2.eventType = type ∧ s.step cfg (.work i) = some s' := by
  unfold tryLaunch at h
  split at h
  · rename_i t ht
    obtain ⟨hp, as, bs, hq, has⟩ := List.find?_eq_some.1 ht
    simp only [inQueue, Bool.and_eq_true, beq_iff_eq] at hp
    have hlt : as.length < s.agora.taskQueue.length := by simp [hq]
    have hget : s.agora.taskQueue.get ⟨as.length, hlt⟩ = t := List.getElem_of_append hq rfl
    have hrest : s.agora.taskQueue.eraseIdx as.length =
        s.agora.taskQueue.eraseP (inQueue type qid) := by
      rw [hq, List.eraseP_append_right _ fun a ha => by simpa using has a ha,
        List.eraseP_cons_of_pos (by simpa [inQueue] using hp),
        List.eraseIdx_append_of_length_le le_rfl]
      simp
    cases h
    refine ⟨as.length, t, by simp [List.getElem?_eq_getElem hlt, ← hget], hp.1, hp.2, ?_⟩
    simp only [step, hlt, dite_true, hget, hrest, hp.1]
  · cases h

/-- The loop over the doers launches a task of one of their types on the bucket. -/
theorem launchFirst_spec {s s' : Sys} {qid : Nat} :
    ∀ {types : List EventType}, s.launchFirst qid types = some s' → ∃ i x,
      s.agora.taskQueue[i]? = some x ∧ x.1 = qid ∧ x.2.eventType ∈ types ∧
        s.step cfg (.work i) = some s'
  | [], h => by cases h
  | type :: rest, h => by
    unfold launchFirst at h
    split at h
    · cases h
      obtain ⟨i, x, hx, hq, ht, hi⟩ := tryLaunch_spec cfg ‹_›
      exact ⟨i, x, hx, hq, ht ▸ List.mem_cons_self _ _, hi⟩
    · obtain ⟨i, x, hx, hq, ht, hi⟩ := launchFirst_spec h
      exact ⟨i, x, hx, hq, List.mem_cons_of_mem _ ht, hi⟩

/-- A worker's `work` step pushes one completion. -/
theorem step_work_compQueue {s s' : Sys} {i : Nat} (h : s.step cfg (.work i) = some s') :
    s'.compQueue.length = s.compQueue.length + 1 := by
  simp only [step] at h
  split at h
  · cases h
    simp
  · cases h

/-! ## When a turn launches nothing -/

theorem tryLaunch_eq_none {s : Sys} {type : EventType} {qid : Nat} :
    s.tryLaunch type qid = none ↔
      ∀ x ∈ s.agora.taskQueue, x.1 = qid → x.2.eventType ≠ type := by
  have h : s.tryLaunch type qid = none ↔ s.agora.taskQueue.find? (inQueue type qid) = none := by
    unfold tryLaunch
    split <;> simp_all
  rw [h, List.find?_eq_none]
  simp [inQueue]

theorem launchFirst_cons_eq_none {s : Sys} {qid : Nat} {type : EventType} {rest : List EventType} :
    s.launchFirst qid (type :: rest) = none ↔
      s.tryLaunch type qid = none ∧ s.launchFirst qid rest = none := by
  rw [launchFirst]
  split <;> simp_all

/-- The loop over the doers launches nothing exactly when the bucket holds no task
    of their types. -/
theorem launchFirst_eq_none {s : Sys} {qid : Nat} : ∀ {types : List EventType},
    s.launchFirst qid types = none ↔
      ∀ x ∈ s.agora.taskQueue, x.1 = qid → x.2.eventType ∉ types
  | [] => by simp [launchFirst]
  | type :: rest => by
    rw [launchFirst_cons_eq_none, tryLaunch_eq_none, launchFirst_eq_none]
    simp only [List.mem_cons, not_or]
    exact ⟨fun h x hx hq => ⟨h.1 x hx hq, h.2 x hx hq⟩,
      fun h => ⟨fun x hx hq => (h x hx hq).1, fun x hx hq => (h x hx hq).2⟩⟩

end Sys

namespace Worker

variable (cfg : Config)

theorem iter_snd (w : Worker) (s : Sys) :
    (w.iter cfg s).2 = (s.launchFirst w.curQid (eventsVec cfg)).getD s := by
  unfold iter
  dsimp only
  split_ifs <;> rfl

/-- A turn of a worker is a `work` step of the system, or leaves it as it is. -/
theorem iter_refines (w : Worker) (s : Sys) :
    (∃ i, s.step cfg (.work i) = some (w.iter cfg s).2) ∨ (w.iter cfg s).2 = s := by
  rw [iter_snd]
  cases h : s.launchFirst w.curQid (eventsVec cfg) with
  | none => exact .inr rfl
  | some s' =>
    obtain ⟨i, -, -, -, -, hi⟩ := Sys.launchFirst_spec cfg h
    exact .inl ⟨i, hi⟩

/-- A turn of a worker leaves the system as it is exactly when the worker's bucket
    holds no task of the types of its doers: a worker never takes a task of the
    other bucket, nor one whose doer its `computers_vec` lacks (`kBroadcast`, and
    the uplink or downlink doers the frame has no symbols for). -/
theorem iter_idle_iff (w : Worker) (s : Sys) :
    (w.iter cfg s).2 = s ↔
      ∀ x ∈ s.agora.taskQueue, x.1 = w.curQid → x.2.eventType ∉ eventsVec cfg := by
  rw [iter_snd, ← Sys.launchFirst_eq_none]
  cases h : s.launchFirst w.curQid (eventsVec cfg) with
  | none => simp
  | some s' =>
    obtain ⟨i, -, -, -, -, hi⟩ := Sys.launchFirst_spec cfg h
    simp only [Option.getD_some, reduceCtorEq, iff_false]
    rintro rfl
    have := Sys.step_work_compQueue cfg hi
    omega

/-! ## The loop variables -/

/-- What the loop keeps at the top of every turn: the bucket is one of the two,
    fewer than five empty turns are counted, and `empty_queue` is set. -/
structure Ok (w : Worker) : Prop where
  curQid : w.curQid < 2
  emptyQueueItrs : w.emptyQueueItrs < 5
  emptyQueue : w.emptyQueue = true

theorem init_ok : init.Ok := ⟨by decide, by decide, rfl⟩

theorem nextQid_lt_two {w : Worker} (h : w.curQid < 2) (s : Sys) : w.nextQid s < 2 := by
  unfold nextQid
  split_ifs
  exacts [Nat.xor_lt_two_pow (n := 1) h (by decide), Nat.mod_lt _ (by decide)]

theorem iter_ok {w : Worker} (h : w.Ok) (s : Sys) : (w.iter cfg s).1.Ok := by
  unfold iter
  dsimp only
  split_ifs with _ h5
  · exact ⟨nextQid_lt_two h.curQid _, (by decide : 0 < 5), h.emptyQueue⟩
  · exact ⟨h.curQid, (by have := h.emptyQueueItrs; omega : w.emptyQueueItrs + 1 < 5),
      h.emptyQueue⟩
  · exact ⟨h.curQid, h.emptyQueueItrs, rfl⟩

end Worker

namespace WSys

variable {cfg : Config}

/-- Every step of the system with its worker loops is a step of `Sys.step` or
    leaves the system part as it is. -/
theorem step_refines {w w' : WSys} {act : WAction} (h : step cfg w act = some w') :
    (∃ a, w.sys.step cfg a = some w'.sys) ∨ w'.sys = w.sys := by
  cases act with
  | turn tid =>
    simp only [step] at h
    split_ifs at h
    cases h
    exact (Worker.iter_refines cfg _ _).imp_left fun ⟨i, hi⟩ => ⟨.work i, hi⟩
  | party act =>
    cases act
    case work i =>
      simp only [step] at h
      split_ifs at h
      obtain ⟨s', hs', rfl⟩ := Option.map_eq_some'.1 h
      exact .inl ⟨_, hs'⟩
    all_goals
      obtain ⟨s', hs', rfl⟩ := Option.map_eq_some'.1 h
      exact .inl ⟨_, hs'⟩

/-- Each worker's loop variables, after any turns of any workers. -/
theorem step_workers {w w' : WSys} {act : WAction} (h : step cfg w act = some w')
    (hw : ∀ tid, (w.workers tid).Ok) : ∀ tid, (w'.workers tid).Ok := by
  cases act with
  | turn tid =>
    simp only [step] at h
    split_ifs at h
    cases h
    intro k
    by_cases hk : k = tid
    · subst hk
      simpa using Worker.iter_ok cfg (hw k) w.sys
    · simpa [Function.update_noteq hk] using hw k
  | party act =>
    cases act
    case work i =>
      simp only [step] at h
      split_ifs at h
      obtain ⟨s', -, rfl⟩ := Option.map_eq_some'.1 h
      exact hw
    all_goals
      obtain ⟨s', -, rfl⟩ := Option.map_eq_some'.1 h
      exact hw

/-- Every state the system reaches with its workers running `WorkerThread` is a
    state the system of `Sys.step` reaches, and every worker's loop keeps
    `cur_qid` on one of the two buckets and `empty_queue_itrs` below five. -/
theorem reachable_refines {w : WSys} (hw : Reachable cfg w) :
    Sys.Reachable cfg w.sys ∧ ∀ tid, (w.workers tid).Ok := by
  induction hw with
  | init => exact ⟨.init, fun _ => Worker.init_ok⟩
  | step _ h ih =>
    refine ⟨?_, step_workers h ih.2⟩
    rcases step_refines h with ⟨a, ha⟩ | ha
    · exact .step ih.1 ha
    · exact ha ▸ ih.1

end WSys

/-- The two packets of frame 0, fetched and handled, which emit one FFT task on
    bucket 0; then worker 0 turns and launches it. -/
def fftLaunchRun : List WAction :=
  [.party (.receive ⟨0, 0, 0⟩), .party (.receive ⟨0, 1, 0⟩), .party (.fetchStreamer 2 0),
   .party .handle, .party .handle, .turn 0]

def fftLaunchState : WSys :=
  (WSys.run Config.oneAntenna (WSys.init Config.oneAntenna) fftLaunchRun).getD
    (WSys.init Config.oneAntenna)

theorem reachable_refines_fftLaunch :
    fftLaunchState.sys.compQueue.length = 1 ∧
      Sys.Reachable Config.oneAntenna fftLaunchState.sys ∧
      ∀ tid, (fftLaunchState.workers tid).Ok :=
  ⟨by rfl, WSys.reachable_refines (WSys.run_reachable _ (l := fftLaunchRun) .init (by rfl))⟩

/-! ## A worker's loop on its own

While no other party steps, a worker with no task for it on its bucket counts
empty turns, and the fifth moves it to `nextQid`.  So a task for it there is
launched within `6 - empty_queue_itrs` turns; with the cursors equal, a worker
on the schedule frame's bucket stays there and launches nothing, whatever waits
on the other bucket. -/

namespace Sys

/-- No task of the types of a worker's doers waits on bucket `qid`. -/
def NoTaskOn (cfg : Config) (s : Sys) (qid : Nat) : Prop :=
  ∀ x ∈ s.agora.taskQueue, x.1 = qid → x.2.eventType ∉ eventsVec cfg

instance (cfg : Config) (s : Sys) (qid : Nat) : Decidable (s.NoTaskOn cfg qid) :=
  inferInstanceAs
    (Decidable (∀ x ∈ s.agora.taskQueue, x.1 = qid → x.2.eventType ∉ eventsVec cfg))

end Sys

namespace Worker

variable (cfg : Config)

/-- `n` turns of a worker's loop while no other party steps. -/
def turns : Nat → Worker → Sys → Worker × Sys
  | 0, w, s => (w, s)
  | n + 1, w, s => turns n (w.iter cfg s).1 (w.iter cfg s).2

theorem turns_succ_right : ∀ (n : Nat) (w : Worker) (s : Sys),
    turns cfg (n + 1) w s = (turns cfg n w s).1.iter cfg (turns cfg n w s).2
  | 0, _, _ => rfl
  | n + 1, w, s => turns_succ_right n (w.iter cfg s).1 (w.iter cfg s).2

/-- A turn leaves `Running()` as it is. -/
theorem iter_running (w : Worker) (s : Sys) :
    (w.iter cfg s).2.agora.running = s.agora.running := by
  rcases iter_refines cfg w s with ⟨i, hi⟩ | hi
  · simp only [Sys.step] at hi
    split at hi
    · rw [← Option.some.inj hi]
    · cases hi
  · rw [hi]

/-- A turn on a bucket with no task for the worker counts one more empty turn,
    and the fifth since the last move moves the worker. -/
theorem iter_noTaskOn {w : Worker} {s : Sys} (hw : w.emptyQueue = true)
    (h : s.NoTaskOn cfg w.curQid) :
    w.iter cfg s = (if w.emptyQueueItrs + 1 = 5 then
      { w with curQid := w.nextQid s, emptyQueueItrs := 0 }
      else { w with emptyQueueItrs := w.emptyQueueItrs + 1 }, s) := by
  have hr : s.launchFirst w.curQid (eventsVec cfg) = none := Sys.launchFirst_eq_none.2 h
  unfold iter
  simp only [hr, Option.isNone_none, hw, Bool.and_self, Option.getD_none, if_true]
  split_ifs <;> rfl

/-- The turns up to the fifth empty one since the last move, on a bucket with no
    task for the worker, end with the worker moved and the system as it was. -/
theorem turns_noTaskOn {w : Worker} {s : Sys} (hw : w.emptyQueue = true)
    (h : s.NoTaskOn cfg w.curQid) : ∀ {n : Nat}, w.emptyQueueItrs + n + 1 = 5 →
      turns cfg (n + 1) w s = ({ w with curQid := w.nextQid s, emptyQueueItrs := 0 }, s)
  | 0, h5 => by
    show w.iter cfg s = _
    rw [iter_noTaskOn cfg hw h, if_pos (by omega)]
  | n + 1, h5 => by
    rw [turns, iter_noTaskOn cfg hw h, if_neg (by omega)]
    exact turns_noTaskOn (w := { w with emptyQueueItrs := w.emptyQueueItrs + 1 }) hw h
      (by simp; omega)

/-- With the frame cursors equal, a worker on the schedule frame's bucket with no
    task for it there stays on that bucket, turn after turn, and every turn
    leaves the system as it is. -/
theorem turns_stay {w : Worker} {s : Sys} (hw : w.emptyQueue = true)
    (heq : s.agora.curScheFrameId = s.agora.curProcFrameId)
    (hq : w.curQid = s.agora.curScheFrameId % 2) (h : s.NoTaskOn cfg w.curQid) :
    ∀ n, (turns cfg n w s).2 = s
  | 0 => rfl
  | n + 1 => by
    rw [turns, iter_noTaskOn cfg hw h, nextQid, if_neg (not_not.2 heq), ← hq]
    split_ifs
    · exact turns_stay (w := { w with emptyQueueItrs := 0 }) hw heq hq h n
    · exact turns_stay (w := { w with emptyQueueItrs := w.emptyQueueItrs + 1 }) hw heq hq h n

end Worker

namespace WSys

variable (cfg : Config)

/-- The turns of one worker while no other party steps are a run of the system
    with its worker loops. -/
theorem run_turns {tid : Nat} : ∀ {w : WSys}, w.sys.agora.running = true → ∀ n,
    run cfg w (List.replicate n (.turn tid)) =
      some ⟨(Worker.turns cfg n (w.workers tid) w.sys).2,
        Function.update w.workers tid (Worker.turns cfg n (w.workers tid) w.sys).1⟩
  | w, _, 0 => by simp [run, Worker.turns]
  | w, hrun, n + 1 => by
    have hr := Worker.iter_running cfg (w.workers tid) w.sys
    rw [List.replicate_succ, run, step, if_pos hrun, Option.some_bind,
      run_turns (by rwa [hr]) n]
    simp only [Function.update_same, Function.update_idem, Worker.turns]

/-- While no other party steps, a worker with no task for it on its bucket launches,
    within `6 - empty_queue_itrs` of its turns, a task for its doers from the
    bucket its fifth empty turn moves it to, when one waits there: the other
    bucket while the frame cursors differ, the schedule frame's when they are
    equal. -/
theorem turns_launch_next_bucket {w : WSys} {tid : Nat} (hrun : w.sys.agora.running = true)
    (hw : (w.workers tid).Ok) (hmine : w.sys.NoTaskOn cfg (w.workers tid).curQid)
    (hnext : ∃ x ∈ w.sys.agora.taskQueue,
      x.1 = (w.workers tid).nextQid w.sys ∧ x.2.eventType ∈ eventsVec cfg) :
    ∃ w', run cfg w (List.replicate (6 - (w.workers tid).emptyQueueItrs) (.turn tid)) =
        some w' ∧
      ∃ i x, w.sys.agora.taskQueue[i]? = some x ∧ x.1 = (w.workers tid).nextQid w.sys ∧
        x.2.eventType ∈ eventsVec cfg ∧ w.sys.step cfg (.work i) = some w'.sys := by
  obtain ⟨y, hy, hyq, hyt⟩ := hnext
  obtain ⟨s', hs'⟩ := Option.ne_none_iff_exists'.1 fun hn =>
    Sys.launchFirst_eq_none.1 hn y hy hyq hyt
  have h6 : 6 - (w.workers tid).emptyQueueItrs = 4 - (w.workers tid).emptyQueueItrs + 1 + 1 := by
    have := hw.emptyQueueItrs
    omega
  refine ⟨_, run_turns cfg hrun _, ?_⟩
  rw [h6, Worker.turns_succ_right, Worker.turns_noTaskOn cfg hw.emptyQueue hmine (by omega),
    Worker.iter_snd]
  simpa [hs'] using Sys.launchFirst_spec cfg hs'

/-- With the frame cursors equal and no other party stepping, a worker on the
    schedule frame's bucket with no task for it there launches nothing, in any
    number of its turns, whatever waits on the other bucket. -/
theorem turns_stay_idle {w : WSys} {tid : Nat} (hrun : w.sys.agora.running = true)
    (hw : (w.workers tid).emptyQueue = true)
    (heq : w.sys.agora.curScheFrameId = w.sys.agora.curProcFrameId)
    (hq : (w.workers tid).curQid = w.sys.agora.curScheFrameId % 2)
    (hmine : w.sys.NoTaskOn cfg (w.workers tid).curQid) (n : Nat) :
    ∃ w', run cfg w (List.replicate n (.turn tid)) = some w' ∧ w'.sys = w.sys :=
  ⟨_, run_turns cfg hrun n, Worker.turns_stay cfg hw heq hq hmine n⟩

end WSys

/-- Worker 0 runs frame 0's FFT, beamforming, demodulation and then its decode
    task; the demodulation moves the schedule frame to 1, and frame 1's two packets
    make an FFT task on bucket 1.  Worker 1 is still on bucket 0. -/
def otherBucketRun : List WAction :=
  [.party (.receive ⟨0, 0, 0⟩), .party (.receive ⟨0, 1, 0⟩), .party (.fetchStreamer 2 0),
   .party .handle, .party .handle, .turn 0, .party (.fetchDoer 1), .party .handle,
   .turn 0, .party (.fetchStreamer 0 0), .party (.fetchDoer 1), .party .handle,
   .turn 0, .party (.fetchStreamer 0 0), .party (.fetchDoer 1), .party .handle, .turn 0,
   .party (.receive ⟨1, 0, 0⟩), .party (.receive ⟨1, 1, 0⟩), .party (.fetchStreamer 2 0),
   .party .handle, .party .handle]

def otherBucketState : WSys :=
  (WSys.run Config.oneAntenna (WSys.init Config.oneAntenna) otherBucketRun).getD
    (WSys.init Config.oneAntenna)

theorem turns_launch_next_bucket_fft :
    WSys.Reachable Config.oneAntenna otherBucketState ∧
    ∃ w', WSys.run Config.oneAntenna otherBucketState
        (List.replicate (6 - (otherBucketState.workers 1).emptyQueueItrs) (.turn 1)) = some w' ∧
      ∃ i x, otherBucketState.sys.agora.taskQueue[i]? = some x ∧
        x.1 = (otherBucketState.workers 1).nextQid otherBucketState.sys ∧
        x.2.eventType ∈ eventsVec Config.oneAntenna ∧
        otherBucketState.sys.step Config.oneAntenna (.work i) = some w'.sys :=
  ⟨WSys.run_reachable _ (l := otherBucketRun) .init (by rfl),
   WSys.turns_launch_next_bucket Config.oneAntenna (w := otherBucketState) (by rfl)
     ⟨by decide, by decide, rfl⟩ (by decide) (by decide)⟩

/-- Frame 1's first packet, a pilot, arrives before any of frame 0's and
    schedules frame 1's encode task on bucket 1, while both frame cursors stay
    at 0. -/
def earlyEncodeRun : List WAction :=
  [.party (.receive ⟨1, 0, 0⟩), .party (.fetchStreamer 1 0), .party .handle]

def earlyEncodeState : WSys :=
  (WSys.run precodeCfg (WSys.init precodeCfg) earlyEncodeRun).getD (WSys.init precodeCfg)

theorem turns_stay_idle_earlyEncode :
    WSys.Reachable precodeCfg earlyEncodeState ∧
    (1, (⟨.encode, [⟨1, 1, 0⟩]⟩ : EventData)) ∈ earlyEncodeState.sys.agora.taskQueue ∧
    ∃ w', WSys.run precodeCfg earlyEncodeState (List.replicate 100 (.turn 0)) = some w' ∧
      w'.sys = earlyEncodeState.sys :=
  ⟨WSys.run_reachable _ (l := earlyEncodeRun) .init (by rfl), by decide,
   WSys.turns_stay_idle precodeCfg (w := earlyEncodeState) (by rfl) rfl (by decide)
     (by decide) (by decide) 100⟩

end Savannah
