/-
  Savannah.Master.Handlers

  The master's event handling: `Agora::TryScheduleFft` (lines 301-338),
  `Agora::UpdateRxCounters` (lines 996-1052), `Agora::HandleEventFft`
  (lines 903-988) and `Agora::HandleEvents` (lines 454-901).

  Each handler returns `(finished, state)`: when `CheckFrameComplete` reports
  the last frame to test, `HandleEvents` sets `finish` and returns at once,
  skipping the trailing `TryScheduleFft`.  Statistics, printing, the recorder
  and the SNR reports to the MAC thread change no scheduling state and are
  left out.
-/
import Savannah.Master.IfftSweep

namespace Savannah

namespace Agora

variable (cfg : Config)

/-! ## FFT batching -/

/-- `fft_created_count_++` for one popped tag: the count wraps at
    `num_rx_pkts_per_frame_`, where Bigstation mode marks the uplink of the
    current schedule frame complete. -/
def countFftCreated (a : Agora) : Agora :=
  if a.fftCreatedCount + 1 = cfg.numRxPktsPerFrame then
    let a := { a with fftCreatedCount := 0 }
    if cfg.bigstationMode then a.checkIncrementScheduleFrame cfg a.curScheFrameId kUplinkComplete
    else a
  else { a with fftCreatedCount := a.fftCreatedCount + 1 }

/-- Counting a created FFT task touches the count, the schedule cursor, its
    flags and the log only. -/
theorem countFftCreated_eq (a : Agora) :
    ∃ cnt sche flags log, countFftCreated cfg a =
      { a with fftCreatedCount := cnt, curScheFrameId := sche, scheduleProcessFlags := flags,
               log := log } := by
  unfold countFftCreated
  split_ifs
  · obtain ⟨sche, flags, log, h⟩ :=
      Agora.checkIncrementScheduleFrame_eq cfg { a with fftCreatedCount := 0 }
        a.curScheFrameId kUplinkComplete
    exact ⟨0, sche, flags, log, h⟩
  · exact ⟨0, _, _, _, rfl⟩
  · exact ⟨_, _, _, _, rfl⟩

section CountFftCreated

variable (a : Agora)

@[simp] theorem countFftCreated_taskQueue : (countFftCreated cfg a).taskQueue = a.taskQueue := by
  obtain ⟨_, _, _, _, h⟩ := countFftCreated_eq cfg a; rw [h]

@[simp] theorem countFftCreated_fftQueueArr :
    (countFftCreated cfg a).fftQueueArr = a.fftQueueArr := by
  obtain ⟨_, _, _, _, h⟩ := countFftCreated_eq cfg a; rw [h]

@[simp] theorem countFftCreated_counters : (countFftCreated cfg a).counters = a.counters := by
  obtain ⟨_, _, _, _, h⟩ := countFftCreated_eq cfg a; rw [h]

end CountFftCreated

/-- The inner loop of `TryScheduleFft`: pops up to `j` tags from the queue of
    `slot`, counting each one created. -/
def fftPop (slot : Nat) : Nat → List Tag → Agora → List Tag × Agora
  | 0, acc, a => (acc, a)
  | j + 1, acc, a =>
    match a.fftQueueArr slot with
    | [] => (acc, a)
    | t :: rest =>
      fftPop slot j (acc ++ [t])
        (countFftCreated cfg { a with fftQueueArr := Function.update a.fftQueueArr slot rest })

/-- The outer loop of `TryScheduleFft`: `n` events of `FftBlockSize` tags on `qid`. -/
def fftBlocks (slot qid : Nat) : Nat → Agora → Agora
  | 0, a => a
  | n + 1, a =>
    let r := fftPop cfg slot cfg.fftBlockSize [] a
    fftBlocks slot qid n (r.2.enqueueTask qid ⟨.fft, r.1⟩)

/-- `TryScheduleFft()`: the queue and the bucket are those of the schedule frame
    at entry; only full blocks are emitted. -/
def tryScheduleFft (a : Agora) : Agora :=
  let slot := a.curScheFrameId % cfg.frameWnd
  let qid := a.curScheFrameId % 2
  if cfg.fftBlockSize ≤ (a.fftQueueArr slot).length then
    fftBlocks cfg slot qid ((a.fftQueueArr slot).length / cfg.fftBlockSize) a
  else a

/-! ## RX packets -/

/-- `UpdateRxCounters(frame_id, symbol_id)`: the first packet of a frame (an empty
    `num_pkts_` slot) starts or defers its downlink when there is no MAC. -/
def updateRxCounters (a : Agora) (frameId : Nat) : Agora :=
  let slot := frameId % cfg.frameWnd
  let a := if a.numPkts slot = 0 ∧ cfg.enableMac = false then
      if a.encodeDeferral ≠ [] ∨ a.curProcFrameId + cfg.scheduleQueues ≤ frameId then
        { a with encodeDeferral := a.encodeDeferral ++ [frameId] }
      else a.scheduleDownlinkProcessing cfg frameId
    else a
  let n := a.numPkts slot + 1
  let cnt := if n = cfg.numRxPktsPerFrame then 0 else n
  { a with numPkts := Function.update a.numPkts slot cnt }

/-- The `kPacketRX` case: a packet beyond the window stops the master; otherwise
    it is counted and queued for FFT in its frame's slot. -/
def handlePacketRX (a : Agora) (pkt : Tag) : Agora :=
  if a.curScheFrameId + cfg.frameWnd ≤ pkt.frameId then { a with running := false }
  else
    let a := a.updateRxCounters cfg pkt.frameId
    let slot := pkt.frameId % cfg.frameWnd
    let q := a.fftQueueArr slot ++ [pkt]
    { a with fftQueueArr := Function.update a.fftQueueArr slot q }

/-! ## Completions -/

/-- `HandleEventFft(tag)`. -/
def handleEventFft (a : Agora) (tag : Tag) : Agora :=
  let f := tag.frameId
  let s := tag.symbolId
  match cfg.getSymbolType s with
  | .pilot =>
    let r := a.completeTask cfg .pilotFft f s
    if r.1 ∧ (cfg.recCalEnabled = false ∨ r.2.rcLastFrame = some f) then
      let r := r.2.completeSymbol cfg .pilotFft f
      if r.1 then (r.2.resetCounter cfg .pilotFft f).scheduleSubcarriers cfg .beam f 0 else r.2
    else r.2
  | .ul =>
    let r := a.completeTask cfg .uplinkFft f s
    if r.1 then
      let cur := Function.update r.2.fftCurFrameForSymbol (cfg.getULSymbolIdx s) (some f)
      let a := { r.2 with fftCurFrameForSymbol := cur }
      let a := if a.beamLastFrame = some f then a.scheduleSubcarriers cfg .demul f s else a
      let r := a.completeSymbol cfg .uplinkFft f
      if r.1 then r.2.resetCounter cfg .uplinkFft f else r.2
    else r.2
  | .calDL | .calUL =>
    let r := a.completeFrameTask cfg .rc f
    if r.1 then { r.2.resetCounter cfg .rc f with rcLastFrame := some f } else r.2
  | _ => a

/-- One turn of the precode loop of the `kBeam` case: DL symbol `i` is released
    for `frameId` when `encode_cur_frame_for_symbol_[i] >= frame_id`. -/
def releasePrecode (a : Agora) (frameId i : Nat) : Agora :=
  match a.encodeCurFrameForSymbol i with
  | some g =>
    if frameId ≤ g then a.scheduleSubcarriers cfg .precode frameId (cfg.getDLSymbol i) else a
  | none => a

/-- One tag of a `kBeam` completion. -/
def handleBeamTag (a : Agora) (tag : Tag) : Agora :=
  let f := tag.frameId
  let r := a.completeFrameTask cfg .beam f
  if r.1 then
    let a := { r.2 with beamLastFrame := some f }.resetCounter cfg .beam f
    let a := (List.range cfg.numULSyms).foldl (fun (a : Agora) (i : Nat) =>
        if a.fftCurFrameForSymbol i = some f then
          a.scheduleSubcarriers cfg .demul f (cfg.getULSymbol i)
        else a) a
    (List.range cfg.numDLSyms).foldl (fun (a : Agora) (i : Nat) => a.releasePrecode cfg f i) a
  else r.2

/-- The `kDemul` case (`tags_[0]` only). -/
def handleDemul (a : Agora) (tag : Tag) : Bool × Agora :=
  let f := tag.frameId
  let s := tag.symbolId
  let r := a.completeTask cfg .demul f s
  if r.1 then
    let a := if cfg.uplinkHardDemod then r.2 else r.2.scheduleCodeblocks cfg .decode .uplink f s
    let r := a.completeSymbol cfg .demul f
    if r.1 then
      if cfg.uplinkHardDemod then
        let a := r.2.checkAssert .proc f
        (a.checkIncrementScheduleFrame cfg f kUplinkComplete).checkFrameComplete cfg f
      else
        let a := r.2.resetCounter cfg .demul f
        if cfg.bigstationMode then (false, a.scheduleCodeblocks cfg .decode .uplink f s)
        else (false, (a.checkAssert .sche f).checkIncrementScheduleFrame cfg f
          kUplinkComplete)
    else (false, r.2)
  else (false, r.2)

/-- The `kDecode` case (`tags_[0]` only). -/
def handleDecode (a : Agora) (tag : Tag) : Bool × Agora :=
  let f := tag.frameId
  let s := tag.symbolId
  let r := a.completeTask cfg .decode f s
  if r.1 then
    let a := if cfg.enableMac then r.2.scheduleUsers cfg f s else r.2
    let r := a.completeSymbol cfg .decode f
    if r.1 ∧ cfg.enableMac = false then
      (r.2.checkAssert .proc f).checkFrameComplete cfg f
    else (false, r.2)
  else (false, r.2)

/-- The `kPacketToMac` case. -/
def handlePacketToMac (a : Agora) (tag : Tag) : Bool × Agora :=
  let f := tag.frameId
  let r := a.completeTask cfg .tomac f tag.symbolId
  if r.1 then
    let r := r.2.completeSymbol cfg .tomac f
    if r.1 then (r.2.checkAssert .proc f).checkFrameComplete cfg f else (false, r.2)
  else (false, r.2)

/-- The `kPacketFromMac` case: the last user's payload of a frame starts or
    defers its downlink. -/
def handlePacketFromMac (a : Agora) (frameId : Nat) : Agora :=
  let r := a.completeTask cfg .macToPhy frameId 0
  if r.1 then
    let a := r.2
    let a := if a.encodeDeferral ≠ [] ∨ a.curProcFrameId + cfg.scheduleQueues ≤ frameId then
        { a with encodeDeferral := a.encodeDeferral ++ [frameId] }
      else a.scheduleDownlinkProcessing cfg frameId
    a.resetCounter cfg .macToPhy frameId
  else r.2

/-- One tag of a `kEncode` completion. -/
def handleEncodeTag (a : Agora) (tag : Tag) : Agora :=
  let f := tag.frameId
  let s := tag.symbolId
  let r := a.completeTask cfg .encode f s
  if r.1 then
    let cur := Function.update r.2.encodeCurFrameForSymbol (cfg.getDLSymbolIdx s) (some f)
    let a := { r.2 with encodeCurFrameForSymbol := cur }
    let a := if a.beamLastFrame = some f then a.scheduleSubcarriers cfg .precode f s else a
    let r := a.completeSymbol cfg .encode f
    if r.1 then r.2.resetCounter cfg .encode f else r.2
  else r.2

/-- The `kPrecode` case (`tags_[0]` only). -/
def handlePrecode (a : Agora) (tag : Tag) : Agora :=
  let f := tag.frameId
  let s := tag.symbolId
  let r := a.completeTask cfg .precode f s
  if r.1 then
    let r := (r.2.scheduleAntennas cfg .ifft f s).completeSymbol cfg .precode f
    if r.1 then r.2.resetCounter cfg .precode f else r.2
  else r.2

/-- The `kIFFT` case: every tag, returning at once when a frame finishes. -/
def handleIfftTags : List Tag → Agora → Bool × Agora
  | [], a => (false, a)
  | t :: ts, a =>
    let r := a.completeTask cfg .ifft t.frameId t.symbolId
    if r.1 then
      let r := r.2.ifftSymbolDone cfg t.frameId t.symbolId
      if r.1 then r else handleIfftTags ts r.2
    else handleIfftTags ts r.2

/-- The `kBroadcast` case: TX of every control symbol. -/
def handleBroadcast (a : Agora) (frameId : Nat) : Agora :=
  (List.range cfg.numDlControlSyms).foldl
    (fun (a : Agora) idx => a.scheduleAntennasTX cfg frameId (cfg.getDLControlSymbol idx)) a

/-- The `kPacketTX` case (`tags_[0]` only). -/
def handlePacketTX (a : Agora) (tag : Tag) : Bool × Agora :=
  let f := tag.frameId
  let r := a.completeTask cfg .tx f tag.symbolId
  if r.1 then
    let r := r.2.completeSymbol cfg .tx f
    if r.1 then r.2.checkFrameComplete cfg f else (false, r.2)
  else (false, r.2)

/-- The switch of `HandleEvents`, before the trailing `TryScheduleFft`. -/
def dispatch (a : Agora) (e : EventData) : Bool × Agora :=
  match e.eventType with
  | .packetRX => (false, a.handlePacketRX cfg e.tag0)
  | .fft => (false, e.tags.foldl (handleEventFft cfg) a)
  | .beam => (false, e.tags.foldl (handleBeamTag cfg) a)
  | .demul => a.handleDemul cfg e.tag0
  | .decode => a.handleDecode cfg e.tag0
  | .ranUpdate => (false, { a with ulMcsIndex := (e.tags.getD 1 ⟨0, 0, 0⟩).innerId })
  | .packetToMac => a.handlePacketToMac cfg e.tag0
  | .packetFromMac => (false, a.handlePacketFromMac cfg e.tag0.frameId)
  | .encode => (false, e.tags.foldl (handleEncodeTag cfg) a)
  | .precode => (false, a.handlePrecode cfg e.tag0)
  | .ifft => handleIfftTags cfg e.tags a
  | .broadcast => (false, a.handleBroadcast cfg e.tag0.frameId)
  | .packetTX => a.handlePacketTX cfg e.tag0

/-- `HandleEvents(event, ..., finish)`: `(finish, state)`. -/
def handleEvents (a : Agora) (e : EventData) : Bool × Agora :=
  let r := a.dispatch cfg e
  if r.1 then r else (false, r.2.tryScheduleFft cfg)

end Agora

end Savannah
