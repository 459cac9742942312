/-
  Savannah.Frame.Config

  The configuration the Agora master reads while it schedules: the frame
  schedule (one symbol type per symbol of a frame), the antenna, stream and
  block counts that size each stage's tasks, and the build constants
  `kFrameWnd`, `kScheduleQueues`, `kEnableMac` and `kUplinkHardDemod`.

  The `Config` class, `FrameStats` and `symbols.h` are not under `src/`.  The
  build constants and the counts are therefore fields of `Config`, and the
  schedule queries that `agora.cc` calls (`NumULSyms`, `GetDLSymbol`,
  `GetULSymbolIdx`, ...) are computed from the schedule: the `k`-th uplink
  symbol is the position of the `k`-th `ul` entry, and so on.
-/
import Mathlib.Data.List.GetD
import Mathlib.Data.List.Nodup

namespace Savannah

/-- The symbol types of a frame schedule (`SymbolType`). -/
inductive SymbolType where
  | pilot
  | ul
  | dl
  | dlControl
  | calDL
  | calUL
  | guard
  deriving DecidableEq, Repr

/-- Positions, counted from `i`, of the entries of type `t` in a schedule. -/
def positions (t : SymbolType) : List SymbolType → Nat → List Nat
  | [], _ => []
  | s :: l, i => if s = t then i :: positions t l (i + 1) else positions t l (i + 1)

@[simp] theorem positions_nil (t : SymbolType) (i : Nat) : positions t [] i = [] := rfl

/-- Every position of `t` found from offset `i` is at least `i`. -/
theorem le_of_mem_positions {t : SymbolType} :
    ∀ {l : List SymbolType} {i k : Nat}, k ∈ positions t l i → i ≤ k
  | [], _, _, h => by simp at h
  | s :: l, i, k, h => by
      simp only [positions] at h
      split at h
      · rcases List.mem_cons.1 h with rfl | h
        · exact Nat.le_refl _
        · exact Nat.le_of_succ_le (le_of_mem_positions h)
      · exact Nat.le_of_succ_le (le_of_mem_positions h)

/-- The positions of one symbol type are strictly increasing, so distinct. -/
theorem positions_nodup (t : SymbolType) :
    ∀ (l : List SymbolType) (i : Nat), (positions t l i).Nodup
  | [], _ => List.nodup_nil
  | s :: l, i => by
      simp only [positions]
      split
      · refine List.nodup_cons.2 ⟨fun h => ?_, positions_nodup t l (i + 1)⟩
        exact absurd (le_of_mem_positions h) (Nat.not_succ_le_self i)
      · exact positions_nodup t l (i + 1)

/-- The configuration of one run.  `frameWnd` is `kFrameWnd` (the window `W`),
    `scheduleQueues` is `kScheduleQueues`; `ldpcUlBlocks` gives
    `LdpcConfig(kUplink).NumBlocksInSymbol()` for an uplink MCS index, which a
    `kRANUpdate` event can change at run time. -/
structure Config where
  frameWnd : Nat
  scheduleQueues : Nat
  enableMac : Bool
  uplinkHardDemod : Bool
  bigstationMode : Bool
  recCalEnabled : Bool
  frameSchedule : List SymbolType
  clientDlPilotSymbols : Nat
  bsAntNum : Nat
  bfAntNum : Nat
  fftBlockSize : Nat
  encodeBlockSize : Nat
  spatialStreamsNum : Nat
  ulMcsIndex : Nat
  ldpcUlBlocks : Nat → Nat
  dlBlocksInSymbol : Nat
  demulEventsPerSymbol : Nat
  demulBlockSize : Nat
  beamEventsPerSymbol : Nat
  beamBlockSize : Nat
  framesToTest : Nat

namespace Config

variable (cfg : Config)

/-- `GetSymbolType(symbol_id)`. -/
def getSymbolType (symbolId : Nat) : SymbolType := cfg.frameSchedule.getD symbolId .guard

/-- Symbol ids of the uplink data symbols, in frame order. -/
def ulSymbols : List Nat := positions .ul cfg.frameSchedule 0
/-- Symbol ids of the downlink symbols (pilots first, then data), in frame order. -/
def dlSymbols : List Nat := positions .dl cfg.frameSchedule 0
/-- Symbol ids of the downlink control (broadcast) symbols. -/
def dlControlSymbols : List Nat := positions .dlControl cfg.frameSchedule 0

def numPilotSyms : Nat := (positions .pilot cfg.frameSchedule 0).length
def numULSyms : Nat := cfg.ulSymbols.length
def numDLSyms : Nat := cfg.dlSymbols.length
def numDlControlSyms : Nat := cfg.dlControlSymbols.length
def numULCalSyms : Nat := (positions .calUL cfg.frameSchedule 0).length
def numDLCalSyms : Nat := (positions .calDL cfg.frameSchedule 0).length
/-- `NumDlDataSyms()`: the downlink symbols after the client pilots. -/
def numDlDataSyms : Nat := cfg.numDLSyms - cfg.clientDlPilotSymbols

def getULSymbol (i : Nat) : Nat := cfg.ulSymbols.getD i 0
def getDLSymbol (i : Nat) : Nat := cfg.dlSymbols.getD i 0
def getDLControlSymbol (i : Nat) : Nat := cfg.dlControlSymbols.getD i 0
def getULSymbolIdx (symbolId : Nat) : Nat := cfg.ulSymbols.indexOf symbolId
def getDLSymbolIdx (symbolId : Nat) : Nat := cfg.dlSymbols.indexOf symbolId

/-- `rx_counters_.num_pilot_pkts_per_frame_` as `InitializeCounters` sets it. -/
def numPilotPktsPerFrame : Nat := cfg.bsAntNum * cfg.numPilotSyms
/-- `rx_counters_.num_reciprocity_pkts_per_frame_`: `BfAntNum` antennas per `L`
    symbol, the `BsAntNum - BfAntNum` reference antennas per `C` symbol. -/
def numReciprocityPktsPerFrame : Nat :=
  cfg.numULCalSyms * cfg.bfAntNum + cfg.numDLCalSyms * (cfg.bsAntNum - cfg.bfAntNum)
/-- `rx_counters_.num_rx_pkts_per_frame_`. -/
def numRxPktsPerFrame : Nat :=
  cfg.numPilotPktsPerFrame + cfg.numReciprocityPktsPerFrame + cfg.bsAntNum * cfg.numULSyms

/-- `GetDLSymbolIdx` inverts `GetDLSymbol` on the downlink symbols. -/
theorem getDLSymbolIdx_getDLSymbol {i : Nat} (hi : i < cfg.numDLSyms) :
    cfg.getDLSymbolIdx (cfg.getDLSymbol i) = i := by
  unfold getDLSymbolIdx getDLSymbol numDLSyms at *
  rw [List.getD_eq_getElem _ _ hi]
  exact List.indexOf_getElem (positions_nodup _ _ _) i hi

/-- The smallest configuration the concrete runs start from: one antenna and
    one stream, blocks and events of one, FFT blocks of two, `W = 2`,
    `kScheduleQueues = 2`, no MAC, and a frame of one pilot and one uplink
    symbol; each run changes what it needs. -/
@[simps]
def oneAntenna : Config where
  frameWnd := 2
  scheduleQueues := 2
  enableMac := false
  uplinkHardDemod := false
  bigstationMode := false
  recCalEnabled := false
  frameSchedule := [.pilot, .ul]
  clientDlPilotSymbols := 0
  bsAntNum := 1
  bfAntNum := 1
  fftBlockSize := 2
  encodeBlockSize := 1
  spatialStreamsNum := 1
  ulMcsIndex := 0
  ldpcUlBlocks := fun _ => 1
  dlBlocksInSymbol := 1
  demulEventsPerSymbol := 1
  demulBlockSize := 1
  beamEventsPerSymbol := 1
  beamBlockSize := 1
  framesToTest := 100

end Config

/-- Bigstation mode on the smallest configuration. -/
def bigstationCfg : Config := { Config.oneAntenna with bigstationMode := true }

/-- Frames 0 and 2 of a pilot and a downlink symbol each, with three schedule
    queues in a window of four frames. -/
def precodeCfg : Config :=
  { Config.oneAntenna with
    frameWnd := 4
    scheduleQueues := 3
    frameSchedule := [.pilot, .dl]
    fftBlockSize := 1 }

end Savannah
