/-
  Savannah.Master.Event

  Tags and events, as they flow through the master's queues (spec §3 Tag,
  Event).  A `gen_tag_t` packs a frame id, a symbol id and one inner id (an
  antenna, a subcarrier base, a code block or a user); an `EventData` is an
  event type with its tags (`num_tags_` of them).

  `Note` is the model's record of what the master did, kept beside the state
  so that run properties can be stated: the calls of the `Schedule*`
  functions, the frames `CheckFrameComplete` retires, and the `assert`s of
  `agora.cc` whose check fails (release builds drop them, so they change
  nothing else).
-/
import Mathlib.Logic.Basic

namespace Savannah

/-- `gen_tag_t`: frame, symbol and the inner id (`ant_id_`, `sc_id_`, `cb_id_`
    or `ue_id_`, by context).  An RX packet's header is a tag of the same shape. -/
structure Tag where
  frameId : Nat
  symbolId : Nat
  innerId : Nat
  deriving DecidableEq, Repr

/-- The event types the master handles (`EventType`). -/
inductive EventType where
  | packetRX
  | fft
  | beam
  | demul
  | decode
  | ranUpdate
  | packetToMac
  | packetFromMac
  | encode
  | precode
  | ifft
  | broadcast
  | packetTX
  deriving DecidableEq, Repr

/-- `EventData`: an event type and its tags.  The raw words of a `kRANUpdate`
    (`tags_[0..2]`: antennas, MCS index, frame) are the inner ids of its tags;
    for `kPacketFromMac` the tag holds the frame id of the MAC packet the event
    points to and the user in its inner id. -/
structure EventData where
  eventType : EventType
  tags : List Tag
  deriving DecidableEq, Repr

/-- `tags_[0]` of an event. -/
def EventData.tag0 (e : EventData) : Tag := e.tags.headD ⟨0, 0, 0⟩

/-- The two frame cursors of `Agora`, `cur_sche_frame_id_` and `cur_proc_frame_id_`,
    as the `assert(cursor == frame_id)`s of `agora.cc` name them. -/
inductive Cursor where
  | sche
  | proc
  deriving DecidableEq, Repr

/-- What the master did, in the order it did it. -/
inductive Note where
  /-- A call `Schedule*(event_type, frame_id, symbol_id)` (symbol `0` for beam and
      broadcast, which take no symbol). -/
  | schedule (eventType : EventType) (frameId symbolId : Nat)
  /-- A call `ScheduleDownlinkProcessing(frame_id)`, with the `cur_proc_frame_id_`
      of that moment. -/
  | downlink (frameId curProcFrameId : Nat)
  /-- `CheckFrameComplete(frame_id)` retired a frame: it incremented `cur_proc_frame_id_`. -/
  | retire (frameId : Nat)
  /-- An `assert(cursor == frame_id)` of `agora.cc` whose check fails: the cursor
      it checks, the frame and the cursor's value. -/
  | assertFails (c : Cursor) (frameId value : Nat)
  /-- The `RtAssert(deferred_frame >= cur_proc_frame_id_)` of `CheckFrameComplete` fails. -/
  | rtAssertFails (frameId : Nat)
  /-- A `std::vector::at(index)` out of range, which throws. -/
  | atOutOfRange (index : Nat)
  deriving DecidableEq, Repr

/-- Whether a note is one the IFFT sweep of the `kIFFT` handler makes: a call of
    `ScheduleAntennasTX`, or an index out of range. -/
def Note.isSweep : Note → Bool
  | .schedule .packetTX _ _ => true
  | .atOutOfRange _ => true
  | _ => false

@[simp] theorem Note.isSweep_schedule (eventType : EventType) (frameId symbolId : Nat) :
    (Note.schedule eventType frameId symbolId).isSweep = (eventType == .packetTX) := by
  cases eventType <;> rfl

/-- The sweep notes of a log, in order. -/
def sweepNotes (l : List Note) : List Note := l.filter Note.isSweep

end Savannah
