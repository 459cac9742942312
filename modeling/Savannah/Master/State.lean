/-
  Savannah.Master.State

  The state of the Agora master (the members of `Agora` that the scheduling
  code reads or writes) and the small operations every handler is built
  from: a counter step on one stage, an enqueue on a task queue, a note.

  The twelve `FrameCounters` members are one field indexed by `Stage`.  The
  `std::vector<size_t>` "latest frame" members hold `SIZE_MAX` until a frame is
  written; here that sentinel is `none`.
-/
import Savannah.Frame.Config
import Savannah.Frame.Counters
import Savannah.Master.Event

namespace Savannah

/-- The stage counters of `Agora`: `pilot_fft_counters_`, `uplink_fft_counters_`,
    `rc_counters_`, `beam_counters_`, `demul_counters_`, `decode_counters_`,
    `tomac_counters_`, `encode_counters_`, `precode_counters_`, `ifft_counters_`,
    `tx_counters_` and `mac_to_phy_counters_`. -/
inductive Stage where
  | pilotFft
  | uplinkFft
  | rc
  | beam
  | demul
  | decode
  | tomac
  | encode
  | precode
  | ifft
  | tx
  | macToPhy
  deriving DecidableEq, Repr

/-- The master's state.  `numPkts` is `rx_counters_.num_pkts_`; `taskQueue` holds
    the events `EnqueueEventTaskQueue` put on each bucket (`qid`); `txQueue` and
    `macRequestQueue` the events for the streamer and the MAC thread;
    `ulMcsIndex` the uplink MCS that `UpdateRanConfig` sets in the config. -/
structure Agora where
  curScheFrameId : Nat
  curProcFrameId : Nat
  scheduleProcessFlags : Nat
  counters : Stage → FrameCounters
  numPkts : Nat → Nat
  fftQueueArr : Nat → List Tag
  fftCreatedCount : Nat
  fftCurFrameForSymbol : Nat → Option Nat
  encodeCurFrameForSymbol : Nat → Option Nat
  ifftCurFrameForSymbol : Nat → Option Nat
  ifftNextSymbol : Nat
  beamLastFrame : Option Nat
  rcLastFrame : Option Nat
  encodeDeferral : List Nat
  dlBitsStatus : Nat → Nat → Nat
  ulMcsIndex : Nat
  running : Bool
  taskQueue : List (Nat × EventData)
  txQueue : List EventData
  macRequestQueue : List EventData
  log : List Note

namespace Agora

variable (cfg : Config) (a : Agora)

/-- Appends a note to the log. -/
def note (n : Note) : Agora := { a with log := a.log ++ [n] }

/-- The value of a frame cursor. -/
def cursor : Cursor → Nat
  | .sche => a.curScheFrameId
  | .proc => a.curProcFrameId

@[simp] theorem cursor_sche : a.cursor .sche = a.curScheFrameId := rfl

@[simp] theorem cursor_proc : a.cursor .proc = a.curProcFrameId := rfl

/-- Records `assert(cursor == frame_id)` on the cursor `c`: a note when the check fails. -/
def checkAssert (c : Cursor) (frameId : Nat) : Agora :=
  if a.cursor c = frameId then a else a.note (.assertFails c frameId (a.cursor c))

/-- `message_->EnqueueEventTaskQueue(event_type, qid, event)`. -/
def enqueueTask (qid : Nat) (e : EventData) : Agora :=
  { a with taskQueue := a.taskQueue ++ [(qid, e)] }

/-- Replaces the counter of one stage. -/
def setCounter (st : Stage) (c : FrameCounters) : Agora :=
  { a with counters := Function.update a.counters st c }

/-- `<stage>_counters_.CompleteTask(frame_id, symbol_id)`. -/
def completeTask (st : Stage) (frameId symbolId : Nat) : Bool × Agora :=
  let r := (a.counters st).completeTask cfg.frameWnd frameId symbolId
  (r.1, a.setCounter st r.2)

/-- `<stage>_counters_.CompleteTask(frame_id)` (frame-level counters). -/
def completeFrameTask (st : Stage) (frameId : Nat) : Bool × Agora :=
  let r := (a.counters st).completeFrameTask cfg.frameWnd frameId
  (r.1, a.setCounter st r.2)

/-- `<stage>_counters_.CompleteSymbol(frame_id)`. -/
def completeSymbol (st : Stage) (frameId : Nat) : Bool × Agora :=
  let r := (a.counters st).completeSymbol cfg.frameWnd frameId
  (r.1, a.setCounter st r.2)

/-- `<stage>_counters_.Reset(frame_id)`. -/
def resetCounter (st : Stage) (frameId : Nat) : Agora :=
  a.setCounter st ((a.counters st).reset cfg.frameWnd frameId)

/-- `<stage>_counters_.IsLastSymbol(frame_id)`. -/
def isLastSymbol (st : Stage) (frameId : Nat) : Bool :=
  (a.counters st).isLastSymbol cfg.frameWnd frameId

/-- `<stage>_counters_.GetSymbolCount(frame_id)`. -/
def getSymbolCount (st : Stage) (frameId : Nat) : Nat :=
  (a.counters st).getSymbolCount cfg.frameWnd frameId

@[simp] theorem setCounter_counters_same (st : Stage) (c : FrameCounters) :
    (a.setCounter st c).counters st = c := by simp [setCounter]

@[simp] theorem enqueueTask_taskQueue (qid : Nat) (e : EventData) :
    (a.enqueueTask qid e).taskQueue = a.taskQueue ++ [(qid, e)] := rfl

@[simp] theorem enqueueTask_fftQueueArr (qid : Nat) (e : EventData) :
    (a.enqueueTask qid e).fftQueueArr = a.fftQueueArr := rfl

@[simp] theorem enqueueTask_counters (qid : Nat) (e : EventData) :
    (a.enqueueTask qid e).counters = a.counters := rfl

/-! ## Work downstream of the TX schedule -/

/-- `b` is `a` after work that leaves the processing cursor, the IFFT sweep
    state and the TX queue alone and only appends notes, none of them a sweep
    note. -/
structure Extends (a b : Agora) : Prop where
  curProcFrameId : b.curProcFrameId = a.curProcFrameId
  ifftNextSymbol : b.ifftNextSymbol = a.ifftNextSymbol
  ifftCurFrameForSymbol : b.ifftCurFrameForSymbol = a.ifftCurFrameForSymbol
  txQueue : b.txQueue = a.txQueue
  log : ∃ l, b.log = a.log ++ l ∧ ∀ n ∈ l, n.isSweep = false

theorem Extends.refl : Extends a a := ⟨rfl, rfl, rfl, rfl, [], by simp, by simp⟩

theorem Extends.trans {a b c : Agora} (h1 : Extends a b) (h2 : Extends b c) : Extends a c := by
  obtain ⟨l1, e1, n1⟩ := h1.log
  obtain ⟨l2, e2, n2⟩ := h2.log
  refine ⟨h2.curProcFrameId.trans h1.curProcFrameId, h2.ifftNextSymbol.trans h1.ifftNextSymbol,
    h2.ifftCurFrameForSymbol.trans h1.ifftCurFrameForSymbol, h2.txQueue.trans h1.txQueue, l1 ++ l2,
    ?_, ?_⟩
  · rw [e2, e1, List.append_assoc]
  · intro n hn
    rcases List.mem_append.1 hn with h | h
    exacts [n1 n h, n2 n h]

/-- A fold of steps that each extend the state extends it. -/
theorem Extends.foldl {β : Type} (f : Agora → β → Agora) (hf : ∀ a x, Extends a (f a x)) :
    ∀ (l : List β) (a : Agora), Extends a (l.foldl f a)
  | [], a => .refl a
  | x :: l, a => (hf a x).trans (Extends.foldl f hf l _)

/-- Work that extends the state leaves its sweep notes as they were. -/
theorem Extends.sweepNotes_log {a b : Agora} (h : Extends a b) :
    sweepNotes b.log = sweepNotes a.log := by
  obtain ⟨l, hl, hn⟩ := h.log
  have hl' : l.filter Note.isSweep = [] := List.filter_eq_nil_iff.2 fun n h' => by simp [hn n h']
  rw [hl, sweepNotes, sweepNotes, List.filter_append, hl', List.append_nil]

theorem Extends.setEncodeDeferral {a b : Agora} (h : Extends a b) (l : List Nat) :
    Extends a { b with encodeDeferral := l } :=
  ⟨h.curProcFrameId, h.ifftNextSymbol, h.ifftCurFrameForSymbol, h.txQueue, h.log⟩

theorem note_extends {n : Note} (hn : n.isSweep = false) : Extends a (a.note n) :=
  ⟨rfl, rfl, rfl, rfl, [n], rfl, by simpa using hn⟩

theorem checkAssert_extends (c : Cursor) (frameId : Nat) : Extends a (a.checkAssert c frameId) := by
  unfold checkAssert
  split_ifs
  · exact .refl a
  · exact note_extends a rfl

end Agora

end Savannah
