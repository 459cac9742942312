/-
  Savannah.Master.Schedule

  The emitters of the master (`agora.cc` lines 133-299): `ScheduleAntennas`,
  `ScheduleAntennasTX`, `ScheduleSubcarriers`, `ScheduleCodeblocks`,
  `ScheduleUsers` and `ScheduleBroadCastSymbols`.  Each appends events to a
  queue and a `schedule` note to the log; every task event goes on bucket
  `frame_id & 0x1`.

  `ScheduleAntennas` and `ScheduleCodeblocks` run the same blocked loop over
  `n` inner ids with block size `b`, written once as `blockEvents`: `⌈n / b⌉`
  events whose tags enumerate `0 .. n - 1` in ascending order, each with `b`
  tags but a last one with `n % b` when that is non-zero.
-/
import Savannah.Master.State

namespace Savannah

/-- `Direction` of an LDPC configuration. -/
inductive Direction where
  | uplink
  | downlink
  deriving DecidableEq, Repr

/-! ## The blocked loop -/

/-- The events of the blocked loop of `ScheduleAntennas` / `ScheduleCodeblocks`:
    `num_blocks = n / b`, one more when `n % b > 0`; block `i` carries `b` tags,
    the last one `n % b` when that is non-zero.  Every block before block `i`
    carries `b` tags, so the `j`-th tag of block `i` has inner id `i * b + j`
    (the loop's running `ant_id_++` / `cb_id_++`). -/
def blockEvents (eventType : EventType) (mk : Nat → Tag) (n b : Nat) : List EventData :=
  let rem := n % b
  let numBlocks := n / b + (if rem > 0 then 1 else 0)
  (List.range numBlocks).map fun i =>
    let cnt := if i = numBlocks - 1 ∧ rem > 0 then rem else b
    ⟨eventType, (List.range cnt).map fun j => mk (i * b + j)⟩

/-- Every event of the blocked loop has the given event type. -/
theorem blockEvents_eventType (eventType : EventType) (mk : Nat → Tag) (n b : Nat) :
    ∀ e ∈ blockEvents eventType mk n b, e.eventType = eventType := by
  simp [blockEvents]

/-! ## The emitters -/

namespace Agora

variable (cfg : Config) (a : Agora)

/-- Puts a list of events on bucket `qid`, in order. -/
def enqueueAll (qid : Nat) (es : List EventData) : Agora :=
  { a with taskQueue := a.taskQueue ++ es.map (qid, ·) }

/-- `LdpcConfig(dir).NumBlocksInSymbol()`; the uplink one follows the current MCS. -/
def numBlocksInSymbol : Direction → Nat
  | .uplink => cfg.ldpcUlBlocks a.ulMcsIndex
  | .downlink => cfg.dlBlocksInSymbol

/-- `ScheduleAntennas(event_type, frame_id, symbol_id)`: `BsAntNum` antenna tags
    in blocks of `FftBlockSize`. -/
def scheduleAntennas (eventType : EventType) (frameId symbolId : Nat) : Agora :=
  (a.note (.schedule eventType frameId symbolId)).enqueueAll (frameId % 2)
    (blockEvents eventType (fun j => ⟨frameId, symbolId, j⟩) cfg.bsAntNum cfg.fftBlockSize)

/-- `ScheduleCodeblocks(event_type, dir, frame_id, symbol_idx)`: the code blocks of
    all spatial streams in blocks of `EncodeBlockSize`. -/
def scheduleCodeblocks (eventType : EventType) (dir : Direction) (frameId symbolId : Nat) :
    Agora :=
  (a.note (.schedule eventType frameId symbolId)).enqueueAll (frameId % 2)
    (blockEvents eventType (fun j => ⟨frameId, symbolId, j⟩)
      (cfg.spatialStreamsNum * a.numBlocksInSymbol cfg dir) cfg.encodeBlockSize)

/-- `ScheduleSubcarriers(event_type, frame_id, symbol_id)`: one event per
    subcarrier block, bases `0, B, 2B, ...`; `kBeam` uses the beam block and
    count and a frame-level tag, `kDemul` and `kPrecode` the demul ones. -/
def scheduleSubcarriers (eventType : EventType) (frameId symbolId : Nat) : Agora :=
  let (base, numEvents, blockSize) := match eventType with
    | .beam => ((⟨frameId, 0, 0⟩ : Tag), cfg.beamEventsPerSymbol, cfg.beamBlockSize)
    | _ => (⟨frameId, symbolId, 0⟩, cfg.demulEventsPerSymbol, cfg.demulBlockSize)
  (a.note (.schedule eventType frameId symbolId)).enqueueAll (frameId % 2)
    ((List.range numEvents).map fun i =>
      ⟨eventType, [{ base with innerId := base.innerId + i * blockSize }]⟩)

/-- `ScheduleUsers(kPacketToMac, frame_id, symbol_id)`: one request per spatial
    stream to the MAC thread. -/
def scheduleUsers (frameId symbolId : Nat) : Agora :=
  let a := a.note (.schedule .packetToMac frameId symbolId)
  { a with macRequestQueue := a.macRequestQueue ++
      (List.range cfg.spatialStreamsNum).map fun u => ⟨.packetToMac, [⟨frameId, symbolId, u⟩]⟩ }

/-- `ScheduleAntennasTX(frame_id, symbol_id)`: one `kPacketTX` event per antenna to
    the streamer.  The code groups them by the TX thread of each antenna; the
    streamer sends them in any order, so the grouping is not kept. -/
def scheduleAntennasTX (frameId symbolId : Nat) : Agora :=
  let a := a.note (.schedule .packetTX frameId symbolId)
  { a with txQueue := a.txQueue ++
      (List.range cfg.bsAntNum).map fun ant => ⟨.packetTX, [⟨frameId, symbolId, ant⟩]⟩ }

/-- `ScheduleBroadCastSymbols(event_type, frame_id)`. -/
def scheduleBroadCastSymbols (eventType : EventType) (frameId : Nat) : Agora :=
  (a.note (.schedule eventType frameId 0)).enqueueTask (frameId % 2) ⟨eventType, [⟨frameId, 0, 0⟩]⟩

/-! ## What the emitters leave alone -/

section Extends

variable (frameId symbolId : Nat) {eventType : EventType} (h : eventType ≠ .packetTX)
include h

theorem scheduleCodeblocks_extends (dir : Direction) :
    Extends a (a.scheduleCodeblocks cfg eventType dir frameId symbolId) :=
  ⟨rfl, rfl, rfl, rfl, _, rfl, by simpa using h⟩

theorem scheduleSubcarriers_extends :
    Extends a (a.scheduleSubcarriers cfg eventType frameId symbolId) := by
  unfold scheduleSubcarriers
  split
  exact ⟨rfl, rfl, rfl, rfl, _, rfl, by simpa using h⟩

omit h in
theorem scheduleBroadCastSymbols_extends :
    Extends a (a.scheduleBroadCastSymbols .broadcast frameId) :=
  ⟨rfl, rfl, rfl, rfl, _, rfl, by simp⟩

end Extends

end Agora

end Savannah
