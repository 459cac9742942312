/-
  Savannah.System.Step

  The master inside the system it runs in, as a step relation.  The other
  parties are the radio with the streamer threads (RX packets in, TX packets
  out, `rx_con_q` to the master), the worker threads (`AgoraWorker::WorkerThread`)
  and the MAC thread; the master itself is the loop of `Agora::Start`
  (`agora.cc` lines 381-440), which alternates `FetchStreamerEvent` and
  `FetchDoerEvent` and handles every event of a fetched batch before the next
  fetch, stopping early only when `HandleEvents` sets `finish`.

  A worker takes any task of either bucket, runs it, and pushes its completion
  to the completion queue of the bucket it took it from.  `FetchDoerEvent`
  dequeues only the bucket `cur_proc_frame_id_ & 0x1`.  The streamer delivers
  each `(frame, symbol, antenna)` RX packet at most once, and reports each TX
  packet once it is sent.  The MAC thread answers requests and sends downlink
  payloads and RAN updates in any order.  Any interleaving of these steps is a
  run.

  The radio counts frames without bound, but the header of the packet it sends
  holds each id in four bytes: the `kPacketRX` event carries the header, so the
  master reads every id modulo `2^32`.
-/
import Mathlib.Algebra.Group.Nat.Basic
import Mathlib.Logic.Relation
import Savannah.Master.Handlers

namespace Savannah

/-- Modelled from the spec (§4 Worker pool, "a worker pops a task, runs the
    doer, and pushes a completion event carrying the task's tags"):
    `Doer::TryLaunch`, not under `src/`, completes a task with an event of the
    same type and tags. -/
def Doer.tryLaunch (task : EventData) : EventData := task

/-- The system: the master, the queues between the parties, and the state of
    the loop of `Agora::Start`. -/
structure Sys where
  agora : Agora
  /-- `complete_task_queue_[qid]`, each completion with its bucket `qid`. -/
  compQueue : List (Nat × EventData)
  /-- `rx_con_q`: `kPacketRX` and `kPacketTX` events from the streamer. -/
  rxQueue : List EventData
  /-- `mac_response_queue_`. -/
  macResponseQueue : List EventData
  /-- The rest of the batch `Start` is handling (`events_list` from `ev_i` on). -/
  batch : List EventData
  /-- `is_turn_to_dequeue_from_io`. -/
  turnIo : Bool
  /-- `finish`. -/
  finish : Bool
  /-- The RX packets the radio has delivered so far, with their frame numbers
      as the radio counts them. -/
  delivered : List Tag

/-- One step of one party. -/
inductive Action where
  /-- The radio delivers an RX packet to the streamer. -/
  | receive (pkt : Tag)
  /-- The streamer sends the `i`-th `kPacketTX` event and reports it sent. -/
  | transmit (i : Nat)
  /-- The MAC thread answers the `i`-th request. -/
  | macReply (i : Nat)
  /-- The MAC thread delivers a user's downlink payload of a frame. -/
  | macDownlink (frameId ue : Nat)
  /-- The MAC thread sends a `kRANUpdate` with a new uplink MCS. -/
  | ranUpdate (mcs : Nat)
  /-- A worker runs the `i`-th task. -/
  | work (i : Nat)
  /-- `FetchStreamerEvent`: up to `n` RX-queue events, then up to `m` MAC events. -/
  | fetchStreamer (n m : Nat)
  /-- `FetchDoerEvent`: up to `n` completions of bucket `cur_proc_frame_id_ & 0x1`. -/
  | fetchDoer (n : Nat)
  /-- `HandleEvents` on the next event of the batch. -/
  | handle

namespace Sys

variable (cfg : Config)

/-- The system before any step: the master as its constructor leaves it. -/
def init : Sys where
  agora := Agora.init cfg
  compQueue := []
  rxQueue := []
  macResponseQueue := []
  batch := []
  turnIo := true
  finish := false
  delivered := []

/-- The packets the radio sends for a symbol: every antenna for pilots and
    uplink data, the `BfAntNum` beamforming antennas for `L` calibration
    symbols and the reference antennas above them for `C` symbols. -/
def validPacket (pkt : Tag) : Bool :=
  match cfg.getSymbolType pkt.symbolId with
  | .pilot | .ul => pkt.innerId < cfg.bsAntNum
  | .calUL => pkt.innerId < cfg.bfAntNum
  | .calDL => cfg.bfAntNum ≤ pkt.innerId && pkt.innerId < cfg.bsAntNum
  | _ => false

/-- Modelled from the spec (§6, wire protocol: "4-byte frame_id, 4-byte
    symbol_id, 4-byte cell_id, 4-byte ant_id"): the header of the RX packet of
    `(frame, symbol, antenna)`, whose `Packet` type is not under `src/`.  The
    master reads `pkt->frame_id_`, `pkt->symbol_id_` and `pkt->ant_id_` from it. -/
def wireTag (pkt : Tag) : Tag :=
  ⟨pkt.frameId % 2 ^ 32, pkt.symbolId % 2 ^ 32, pkt.innerId % 2 ^ 32⟩

/-- A packet whose ids fit in four bytes has itself as header. -/
theorem wireTag_eq_self {pkt : Tag} (h1 : pkt.frameId < 2 ^ 32) (h2 : pkt.symbolId < 2 ^ 32)
    (h3 : pkt.innerId < 2 ^ 32) : wireTag pkt = pkt := by
  rw [wireTag, Nat.mod_eq_of_lt h1, Nat.mod_eq_of_lt h2, Nat.mod_eq_of_lt h3]

/-- Splits off the first `n` completions of bucket `q`, in order. -/
def takeBucket (q : Nat) : Nat → List (Nat × EventData) → List EventData × List (Nat × EventData)
  | 0, l => ([], l)
  | _, [] => ([], [])
  | n + 1, (p, e) :: l =>
    if p = q then
      let r := takeBucket q n l
      (e :: r.1, r.2)
    else
      let r := takeBucket q (n + 1) l
      (r.1, (p, e) :: r.2)

/-- `Start` may fetch when the batch is done, `Running()` holds and `finish`
    is not set. -/
def canFetch (s : Sys) : Bool := s.batch.isEmpty && s.agora.running && !s.finish

/-- One step; `none` when the action is not enabled. -/
def step (s : Sys) : Action → Option Sys
  | .receive pkt =>
    if validPacket cfg pkt ∧ pkt ∉ s.delivered then
      some { s with rxQueue := s.rxQueue ++ [⟨.packetRX, [wireTag pkt]⟩],
                    delivered := s.delivered ++ [pkt] }
    else none
  | .transmit i =>
    if h : i < s.agora.txQueue.length then
      some { s with agora := { s.agora with txQueue := s.agora.txQueue.eraseIdx i },
                    rxQueue := s.rxQueue ++ [s.agora.txQueue.get ⟨i, h⟩] }
    else none
  | .macReply i =>
    if h : i < s.agora.macRequestQueue.length then
      let a := { s.agora with macRequestQueue := s.agora.macRequestQueue.eraseIdx i }
      some { s with agora := a,
                    macResponseQueue := s.macResponseQueue ++ [s.agora.macRequestQueue.get ⟨i, h⟩] }
    else none
  | .macDownlink f ue =>
    if cfg.enableMac then
      some { s with macResponseQueue := s.macResponseQueue ++ [⟨.packetFromMac, [⟨f, 0, ue⟩]⟩] }
    else none
  | .ranUpdate mcs =>
    if cfg.enableMac then
      let e : EventData := ⟨.ranUpdate, [⟨0, 0, cfg.bsAntNum⟩, ⟨0, 0, mcs⟩, ⟨0, 0, 0⟩]⟩
      some { s with macResponseQueue := s.macResponseQueue ++ [e] }
    else none
  | .work i =>
    if h : i < s.agora.taskQueue.length then
      let t := s.agora.taskQueue.get ⟨i, h⟩
      some { s with agora := { s.agora with taskQueue := s.agora.taskQueue.eraseIdx i },
                    compQueue := s.compQueue ++ [(t.1, Doer.tryLaunch t.2)] }
    else none
  | .fetchStreamer n m =>
    if s.canFetch ∧ s.turnIo then
      let mac := if cfg.enableMac then s.macResponseQueue.take m else []
      some { s with batch := s.rxQueue.take n ++ mac, rxQueue := s.rxQueue.drop n,
                    macResponseQueue := s.macResponseQueue.drop mac.length, turnIo := false }
    else none
  | .fetchDoer n =>
    if s.canFetch ∧ s.turnIo = false then
      let r := takeBucket (s.agora.curProcFrameId % 2) n s.compQueue
      some { s with batch := r.1, compQueue := r.2, turnIo := true }
    else none
  | .handle =>
    match s.batch with
    | [] => none
    | e :: rest =>
      let r := s.agora.handleEvents cfg e
      some { s with agora := r.2, batch := if r.1 then [] else rest, finish := r.1 }

/-- The master handles the head of a nonempty batch. -/
theorem step_handle {s : Sys} {e : EventData} {rest : List EventData} (hb : s.batch = e :: rest) :
    step cfg s .handle = some { s with
      agora := (s.agora.handleEvents cfg e).2,
      batch := if (s.agora.handleEvents cfg e).1 then [] else rest,
      finish := (s.agora.handleEvents cfg e).1 } := by
  simp only [step, hb]

/-- What one step can do: the master handles the head of its batch, `Start`
    fetches a batch and leaves the master's state alone, or another party moves
    and touches at most the master's three outward queues. -/
theorem step_cases {s s' : Sys} {act : Action} (h : step cfg s act = some s') :
    (∃ e rest, act = .handle ∧ s.batch = e :: rest ∧
      s' = { s with agora := (s.agora.handleEvents cfg e).2,
                    batch := if (s.agora.handleEvents cfg e).1 then [] else rest,
                    finish := (s.agora.handleEvents cfg e).1 }) ∨
    (s.canFetch = true ∧ s'.agora = s.agora ∧ s'.finish = s.finish) ∨
    (s'.batch = s.batch ∧ s'.finish = s.finish ∧ ∃ tx mac tasks,
      s'.agora = { s.agora with txQueue := tx, macRequestQueue := mac, taskQueue := tasks }) := by
  cases act
  case handle =>
    simp only [step] at h
    split at h
    · cases h
    · exact .inl ⟨_, _, rfl, ‹_›, (Option.some.inj h).symm⟩
  case fetchStreamer =>
    simp only [step] at h
    split_ifs at h with hc <;> cases h <;> exact .inr (.inl ⟨hc.1, rfl, rfl⟩)
  case fetchDoer =>
    simp only [step] at h
    split_ifs at h with hc
    cases h
    exact .inr (.inl ⟨hc.1, rfl, rfl⟩)
  all_goals
    simp only [step] at h
    split_ifs at h
    cases h
    exact .inr (.inr ⟨rfl, rfl, _, _, _, rfl⟩)

/-- The states a run of the system can reach. -/
inductive Reachable : Sys → Prop where
  | init : Reachable (init cfg)
  | step {s s' : Sys} {act : Action} : Reachable s → step cfg s act = some s' → Reachable s'

/-- The states the system can reach from `s`, in any number of steps. -/
def Steps (s t : Sys) : Prop := Relation.ReflTransGen (fun u v => ∃ act, step cfg u act = some v) s t

/-- Runs a list of actions in order; `none` when one is not enabled. -/
def run : Sys → List Action → Option Sys
  | s, [] => some s
  | s, act :: rest => (step cfg s act).bind (run · rest)

/-- A run of `l₁ ++ l₂` is the run of `l₁` followed by the run of `l₂`. -/
theorem run_append (s : Sys) (l₁ l₂ : List Action) :
    run cfg s (l₁ ++ l₂) = (run cfg s l₁).bind (run cfg · l₂) := by
  induction l₁ generalizing s with
  | nil => rfl
  | cons act l ih => simp only [List.cons_append, run]; cases step cfg s act <;> simp [ih]

/-- Every state a run from a reachable state ends in is reachable. -/
theorem run_reachable : ∀ {s s' : Sys} {l : List Action},
    Reachable cfg s → run cfg s l = some s' → Reachable cfg s'
  | _, _, [], hs, h => by cases h; exact hs
  | s, _, act :: rest, hs, h => by
    simp only [run] at h
    cases hn : step cfg s act with
    | none => simp [hn] at h
    | some s1 => exact run_reachable (Reachable.step hs hn) (by simpa [hn] using h)

/-- A run from the initial state that ends where `p` holds exhibits a
    reachable state where `p` holds. -/
theorem reach_of_run {l : List Action} {p : Sys → Prop} [DecidablePred p]
    (h : (run cfg (init cfg) l).map (fun s => decide (p s)) = some true) :
    ∃ s, Reachable cfg s ∧ p s := by
  cases hr : run cfg (init cfg) l with
  | none => simp [hr] at h
  | some s =>
    simp only [hr, Option.map_some', Option.some.injEq, decide_eq_true_eq] at h
    exact ⟨s, run_reachable cfg Reachable.init hr, h⟩

end Sys

end Savannah
