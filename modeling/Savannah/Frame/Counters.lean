/-
  Savannah.Frame.Counters

  The per-stage completion counters of the master (`FrameCounters`): a grid
  indexed by frame slot (`frame_id % kFrameWnd`) and symbol holding the tasks
  done, a per-slot count of the symbols done, and the two limits that
  `InitializeCounters` sets.

  The counter class is not under `src/`; it is modelled from the spec (§3
  Counter, §4.2): `CompleteTask` increments the task count and reports whether
  it reached the task limit, `CompleteSymbol` does the same one level up, and
  `Reset` zeroes the slot.  The slot stores no frame id: two frames `W` apart
  share it.
-/
import Mathlib.Logic.Function.Basic

namespace Savannah

/-- Modelled from the spec: `FrameCounters` (§3 Counter, §4.2), which is not under
    `src/`.  `taskCount slot symbol` is `tasks_done`, `symbolCount slot` is
    `symbols_done`; a counter that `InitializeCounters` never initialises keeps
    both limits at `0`, as the uplink-only scenario S1 of the spec needs (its
    downlink counters then report their last symbol at once). -/
structure FrameCounters where
  taskCount : Nat → Nat → Nat
  symbolCount : Nat → Nat
  maxSymbolCount : Nat
  maxTaskCount : Nat

namespace FrameCounters

/-- `Init(max_symbol_count, max_task_count)`: zeroed counts and the two limits. -/
def init (maxSymbolCount : Nat) (maxTaskCount : Nat := 0) : FrameCounters :=
  ⟨fun _ _ => 0, fun _ => 0, maxSymbolCount, maxTaskCount⟩

/-- A counter that is never initialised. -/
def empty : FrameCounters := init 0 0

variable (w : Nat) (c : FrameCounters)

/-- Adds one task to `(slot of frameId, symbolId)` and reports whether the count
    reached `limit`. -/
def bump (limit frameId symbolId : Nat) : Bool × FrameCounters :=
  let n := c.taskCount (frameId % w) symbolId + 1
  let row := Function.update (c.taskCount (frameId % w)) symbolId n
  (n == limit, { c with taskCount := Function.update c.taskCount (frameId % w) row })

/-- `CompleteTask(frame_id, symbol_id)`. -/
def completeTask (frameId symbolId : Nat) : Bool × FrameCounters :=
  c.bump w c.maxTaskCount frameId symbolId

/-- `CompleteTask(frame_id)`, the frame-level form of the counters that `Init`
    with a single limit (`rc_counters_`, `beam_counters_`): symbol `0` of the
    slot, counted against that limit. -/
def completeFrameTask (frameId : Nat) : Bool × FrameCounters :=
  c.bump w c.maxSymbolCount frameId 0

/-- `CompleteSymbol(frame_id)`. -/
def completeSymbol (frameId : Nat) : Bool × FrameCounters :=
  let n := c.symbolCount (frameId % w) + 1
  (n == c.maxSymbolCount, { c with symbolCount := Function.update c.symbolCount (frameId % w) n })

/-- `Reset(frame_id)`: zeroes the tasks and the symbol count of the frame's slot. -/
def reset (frameId : Nat) : FrameCounters :=
  { c with taskCount := Function.update c.taskCount (frameId % w) (fun _ => 0),
           symbolCount := Function.update c.symbolCount (frameId % w) 0 }

/-- `GetSymbolCount(frame_id)`. -/
def getSymbolCount (frameId : Nat) : Nat := c.symbolCount (frameId % w)

/-- `IsLastSymbol(frame_id)`. -/
def isLastSymbol (frameId : Nat) : Bool := c.getSymbolCount w frameId == c.maxSymbolCount

@[simp] theorem completeSymbol_fst (frameId : Nat) :
    (c.completeSymbol w frameId).1 = (c.symbolCount (frameId % w) + 1 == c.maxSymbolCount) := rfl

@[simp] theorem completeSymbol_symbolCount_same (frameId : Nat) :
    (c.completeSymbol w frameId).2.symbolCount (frameId % w) = c.symbolCount (frameId % w) + 1 := by
  simp [completeSymbol]

@[simp] theorem completeSymbol_maxSymbolCount (frameId : Nat) :
    (c.completeSymbol w frameId).2.maxSymbolCount = c.maxSymbolCount := rfl

end FrameCounters

end Savannah
