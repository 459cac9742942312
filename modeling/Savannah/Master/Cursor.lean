/-
  Savannah.Master.Cursor

  The schedule cursor `cur_sche_frame_id_` and its flags
  (`Agora::CheckIncrementScheduleFrame`, `agora.cc` lines 1251-1269), and the
  master's initial state: the constructor's call of
  `CheckIncrementScheduleFrame(0, kProcessingComplete)` followed by
  `InitializeCounters` (lines 1054-1119).

  The flags are a `uint8_t` updated with `+=`, not `|=`: adding a flag that is
  already set carries into the other one.  `checkIncrementScheduleFrame_flags`
  says exactly what one call does.
-/
import Savannah.Master.Schedule

namespace Savannah

/-- Modelled from the spec (§3 FrameState, "stage bitset"): the values of
    `ScheduleProcessingFlags`, declared outside `src/`. -/
def kUplinkComplete : Nat := 1
/-- See `kUplinkComplete`. -/
def kDownlinkComplete : Nat := 2
/-- `kUplinkComplete | kDownlinkComplete`. -/
def kProcessingComplete : Nat := 3

namespace Agora

variable (cfg : Config) (a : Agora)

/-- The flags a new schedule frame starts with: a direction with no symbols is
    complete from the start. -/
def preassertedFlags : Nat :=
  (if cfg.numULSyms = 0 then kUplinkComplete else 0) +
    (if cfg.numDLSyms = 0 then kDownlinkComplete else 0)

/-- `CheckIncrementScheduleFrame(frame_id, completed)`. -/
def checkIncrementScheduleFrame (frameId completed : Nat) : Agora :=
  let a := { a with scheduleProcessFlags := (a.scheduleProcessFlags + completed) % 256 }
  let a := a.checkAssert .sche frameId
  if a.scheduleProcessFlags = kProcessingComplete then
    { a with curScheFrameId := a.curScheFrameId + 1,
             scheduleProcessFlags := preassertedFlags cfg }
  else a

/-- One call of `CheckIncrementScheduleFrame`: the flags grow by `completed`
    (modulo 256) and the cursor moves on exactly when they reach
    `kProcessingComplete`, after which the flags restart from the preasserted ones. -/
theorem checkIncrementScheduleFrame_spec (frameId completed : Nat) :
    let b := a.checkIncrementScheduleFrame cfg frameId completed
    let flags := (a.scheduleProcessFlags + completed) % 256
    (flags = kProcessingComplete →
        b.curScheFrameId = a.curScheFrameId + 1 ∧ b.scheduleProcessFlags = preassertedFlags cfg) ∧
      (flags ≠ kProcessingComplete →
        b.curScheFrameId = a.curScheFrameId ∧ b.scheduleProcessFlags = flags) := by
  simp only [checkIncrementScheduleFrame, checkAssert]
  constructor <;> intro h <;> split_ifs <;> simp_all [note]

/-- `CheckIncrementScheduleFrame` touches only the schedule cursor, its flags and
    the log. -/
theorem checkIncrementScheduleFrame_eq (frameId completed : Nat) :
    ∃ sche flags log, a.checkIncrementScheduleFrame cfg frameId completed =
      { a with curScheFrameId := sche, scheduleProcessFlags := flags, log := log } := by
  simp only [checkIncrementScheduleFrame, checkAssert, note]
  split_ifs <;> exact ⟨_, _, _, rfl⟩

theorem checkIncrementScheduleFrame_extends (frameId completed : Nat) :
    Extends a (a.checkIncrementScheduleFrame cfg frameId completed) := by
  have h := checkAssert_extends { a with scheduleProcessFlags := (a.scheduleProcessFlags +
    completed) % 256 } .sche frameId
  simp only [checkIncrementScheduleFrame]
  split_ifs <;> exact ⟨h.curProcFrameId, h.ifftNextSymbol, h.ifftCurFrameForSymbol, h.txQueue, h.log⟩

section Frame

variable (frameId completed : Nat)

@[simp] theorem checkIncrementScheduleFrame_taskQueue :
    (a.checkIncrementScheduleFrame cfg frameId completed).taskQueue = a.taskQueue := by
  obtain ⟨_, _, _, h⟩ := a.checkIncrementScheduleFrame_eq cfg frameId completed; rw [h]

@[simp] theorem checkIncrementScheduleFrame_fftQueueArr :
    (a.checkIncrementScheduleFrame cfg frameId completed).fftQueueArr = a.fftQueueArr := by
  obtain ⟨_, _, _, h⟩ := a.checkIncrementScheduleFrame_eq cfg frameId completed; rw [h]

end Frame

/-- The counters, before any call of `InitializeCounters`. -/
def blank : Agora where
  curScheFrameId := 0
  curProcFrameId := 0
  scheduleProcessFlags := 0
  counters := fun _ => FrameCounters.empty
  numPkts := fun _ => 0
  fftQueueArr := fun _ => []
  fftCreatedCount := 0
  fftCurFrameForSymbol := fun _ => none
  encodeCurFrameForSymbol := fun _ => none
  ifftCurFrameForSymbol := fun _ => none
  ifftNextSymbol := 0
  beamLastFrame := none
  rcLastFrame := none
  encodeDeferral := []
  dlBitsStatus := fun _ _ => 0
  ulMcsIndex := cfg.ulMcsIndex
  running := true
  taskQueue := []
  txQueue := []
  macRequestQueue := []
  log := []

/-- The limits `InitializeCounters` gives each stage counter; the downlink ones
    only when the frame has downlink symbols. -/
def initialCounters : Stage → FrameCounters
  | .pilotFft => .init cfg.numPilotSyms cfg.bsAntNum
  | .uplinkFft => .init cfg.numULSyms cfg.bsAntNum
  | .rc => .init cfg.bsAntNum
  | .beam => .init cfg.beamEventsPerSymbol
  | .demul => .init cfg.numULSyms cfg.demulEventsPerSymbol
  | .decode => .init cfg.numULSyms (cfg.ldpcUlBlocks cfg.ulMcsIndex * cfg.spatialStreamsNum)
  | .tomac => .init cfg.numULSyms cfg.spatialStreamsNum
  | .encode => if cfg.numDLSyms > 0 then
      .init cfg.numDlDataSyms (cfg.dlBlocksInSymbol * cfg.spatialStreamsNum) else .empty
  | .precode => if cfg.numDLSyms > 0 then
      .init cfg.numDLSyms cfg.demulEventsPerSymbol else .empty
  | .ifft => if cfg.numDLSyms > 0 then .init cfg.numDLSyms cfg.bsAntNum else .empty
  | .tx => if cfg.numDLSyms > 0 then
      .init (cfg.numDlControlSyms + cfg.numDLSyms) cfg.bsAntNum else .empty
  | .macToPhy => if cfg.numDLSyms > 0 then .init 1 cfg.spatialStreamsNum else .empty

/-- `InitializeCounters()`: the stage limits, `fft_created_count_ = 0` and the
    "latest frame" vectors filled with `SIZE_MAX`. -/
def initializeCounters : Agora :=
  { a with counters := initialCounters cfg, fftCreatedCount := 0,
           fftCurFrameForSymbol := fun _ => none,
           encodeCurFrameForSymbol := fun _ => none,
           ifftCurFrameForSymbol := fun _ => none }

/-- The state after `Agora::Agora`: `CheckIncrementScheduleFrame(0,
    kProcessingComplete)`, both cursors set to `0`, then `InitializeCounters()`. -/
def init : Agora :=
  let a := (blank cfg).checkIncrementScheduleFrame cfg 0 kProcessingComplete
  initializeCounters cfg { a with curScheFrameId := 0, curProcFrameId := 0 }

end Agora

end Savannah
