/-
  Savannah.Master.Progress

  What the master's handling does to the part of its state that its runs
  only move forward: the two frame cursors, the log, the task queue and the
  FFT queues.

  Every case of `HandleEvents` but `kPacketRX` moves the cursors only forward,
  only appends to the log and to the task queue, and leaves the FFT queues
  alone.  Every task it appends is on the bucket of its frame's parity:
  each `Schedule*` emitter tags its events with the frame it schedules and
  enqueues them on `frame_id & 0x1`.  `Progress.Le` is that relation; the
  counters, the "latest frame" vectors and the other members do not enter
  it, so the updates of those are invisible to it.

  The two exceptions are stated on their own.  The `kPacketRX` case appends
  its packet to the FFT queue of the packet's slot.  `TryScheduleFft` pops
  packets from the schedule frame's slot and puts their FFT events on the
  bucket of the schedule frame, whatever frames the packets come from.
-/
import Savannah.Master.Handlers

namespace Savannah

/-- A task whose tags all belong to frames of the parity of its bucket. -/
def OnParityBucket (x : Nat × EventData) : Prop := ∀ t ∈ x.2.tags, t.frameId % 2 = x.1

/-- The task types the handlers emit: all but RX packets and FFT tasks, which come
    only from the streamer and from `TryScheduleFft`. -/
def EventType.Emittable (t : EventType) : Prop := t ≠ .packetRX ∧ t ≠ .fft

instance : DecidablePred EventType.Emittable := fun _ => inferInstanceAs (Decidable (_ ∧ _))

/-- A task the handlers emit: on the bucket of its frames' parity, of an emittable
    type, with at least one tag. -/
def Emitted (x : Nat × EventData) : Prop :=
  OnParityBucket x ∧ x.2.eventType.Emittable ∧ x.2.tags ≠ []

/-- `l'` is `l` with elements that satisfy `P` appended. -/
def Appends {α : Type} (P : α → Prop) (l l' : List α) : Prop :=
  ∃ e, l' = l ++ e ∧ ∀ x ∈ e, P x

namespace Appends

variable {α : Type} {P : α → Prop} {l₁ l₂ l₃ : List α}

theorem refl (l : List α) : Appends P l l := ⟨[], (List.append_nil _).symm, nofun⟩

theorem trans (h1 : Appends P l₁ l₂) (h2 : Appends P l₂ l₃) : Appends P l₁ l₃ := by
  obtain ⟨e1, rfl, p1⟩ := h1
  obtain ⟨e2, rfl, p2⟩ := h2
  refine ⟨e1 ++ e2, List.append_assoc _ _ _, fun x hx => ?_⟩
  rcases List.mem_append.1 hx with h | h
  exacts [p1 x h, p2 x h]

theorem of_forall {e : List α} (h : ∀ x ∈ e, P x) : Appends P l₁ (l₁ ++ e) :=
  ⟨e, rfl, h⟩

/-- An element of the longer list was there before or satisfies `P`. -/
theorem mem (h : Appends P l₁ l₂) {x : α} (hx : x ∈ l₂) : x ∈ l₁ ∨ P x := by
  obtain ⟨e, rfl, p⟩ := h
  exact (List.mem_append.1 hx).imp_right (p x)

end Appends

/-- The part of the master's state that its handling only moves forward. -/
structure Progress where
  sche : Nat
  proc : Nat
  log : List Note
  tasks : List (Nat × EventData)
  fft : Nat → List Tag
  tx : List EventData
  mac : List EventData

/-- The master's progress: `cur_sche_frame_id_`, `cur_proc_frame_id_`, the log, the
    task queue, `fft_queue_arr_`, the TX events for the streamer and the requests
    to the MAC thread. -/
def Agora.progress (a : Agora) : Progress :=
  ⟨a.curScheFrameId, a.curProcFrameId, a.log, a.taskQueue, a.fftQueueArr, a.txQueue,
    a.macRequestQueue⟩

/-- `p.Le q`: from `p` to `q` neither cursor has moved back, the log and the three
    outward queues have only grown at their ends, every new task is an emitted
    one, every new TX event a `kPacketTX` and every new MAC request a
    `kPacketToMac`, and the FFT queues are as they were. -/
structure Progress.Le (p q : Progress) : Prop where
  sche : p.sche ≤ q.sche
  proc : p.proc ≤ q.proc
  log : p.log <+: q.log
  tasks : Appends Emitted p.tasks q.tasks
  fft : q.fft = p.fft
  tx : Appends (fun e => e.eventType = .packetTX) p.tx q.tx
  mac : Appends (fun e => e.eventType = .packetToMac) p.mac q.mac

namespace Progress.Le

theorem refl (p : Progress) : p.Le p :=
  ⟨le_rfl, le_rfl, List.prefix_refl _, .refl _, rfl, .refl _, .refl _⟩

theorem trans {p q r : Progress} (h1 : p.Le q) (h2 : q.Le r) : p.Le r :=
  ⟨h1.sche.trans h2.sche, h1.proc.trans h2.proc, h1.log.trans h2.log, h1.tasks.trans h2.tasks,
    h2.fft.trans h1.fft, h1.tx.trans h2.tx, h1.mac.trans h2.mac⟩

/-- A fold of steps that each move the progress forward moves it forward. -/
theorem foldl {β : Type} (f : Agora → β → Agora)
    (hf : ∀ (a : Agora) (x : β), a.progress.Le (f a x).progress) :
    ∀ (l : List β) (a : Agora), a.progress.Le (l.foldl f a).progress
  | [], a => refl a.progress
  | x :: l, a => trans (hf a x) (foldl f hf l _)

/-- Both arms of an `if` move the progress forward. -/
theorem ite {p : Progress} {c : Prop} [Decidable c] {x y : Agora} (hx : p.Le x.progress)
    (hy : p.Le y.progress) : p.Le (if c then x else y).progress := by
  split_ifs
  exacts [hx, hy]

/-- `ite` for the handlers that also return `finish`. -/
theorem ite₂ {p : Progress} {c : Prop} [Decidable c] {x y : Bool × Agora}
    (hx : p.Le x.2.progress) (hy : p.Le y.2.progress) : p.Le (if c then x else y).2.progress := by
  split_ifs
  exacts [hx, hy]

/-- The FFT queues put back as they were. -/
theorem withFft {p q : Progress} (h : p.Le q) : p.Le { q with fft := p.fft } :=
  ⟨h.sche, h.proc, h.log, h.tasks, rfl, h.tx, h.mac⟩

end Progress.Le

/-- `p.Drains q`: from `p` to `q` neither cursor has moved back, the log and the
    two queues to the streamer and the MAC thread have only grown at their ends as
    in `Le`, and every FFT queue has only lost packets at its front.  What happens
    to the task queue is left out. -/
structure Progress.Drains (p q : Progress) : Prop where
  sche : p.sche ≤ q.sche
  proc : p.proc ≤ q.proc
  log : p.log <+: q.log
  fft : ∀ j, q.fft j <:+ p.fft j
  tx : Appends (fun e => e.eventType = .packetTX) p.tx q.tx
  mac : Appends (fun e => e.eventType = .packetToMac) p.mac q.mac

namespace Progress.Drains

theorem trans {p q r : Progress} (h1 : p.Drains q) (h2 : q.Drains r) : p.Drains r :=
  ⟨h1.sche.trans h2.sche, h1.proc.trans h2.proc, h1.log.trans h2.log,
    fun j => (h2.fft j).trans (h1.fft j), h1.tx.trans h2.tx, h1.mac.trans h2.mac⟩

theorem of_le {p q : Progress} (h : p.Le q) : p.Drains q :=
  ⟨h.sche, h.proc, h.log, fun _ => h.fft ▸ List.suffix_refl _, h.tx, h.mac⟩

end Progress.Drains

namespace Agora

variable (cfg : Config) (a : Agora)

/-! ## Counter steps, which the progress does not see -/

theorem completeTask_progress (st : Stage) (frameId symbolId : Nat) :
    a.progress.Le (a.completeTask cfg st frameId symbolId).2.progress := .refl _

theorem completeFrameTask_progress (st : Stage) (frameId : Nat) :
    a.progress.Le (a.completeFrameTask cfg st frameId).2.progress := .refl _

theorem completeSymbol_progress (st : Stage) (frameId : Nat) :
    a.progress.Le (a.completeSymbol cfg st frameId).2.progress := .refl _

theorem resetCounter_progress (st : Stage) (frameId : Nat) :
    a.progress.Le (a.resetCounter cfg st frameId).progress := .refl _

/-- Closing a symbol of a stage and resetting the stage's counter when it was the
    frame's last, as the FFT, encode and precode cases do. -/
theorem closeSymbol_progress {p : Progress} {b : Agora} {st st' : Stage} {frameId frameId' : Nat}
    (h : p.Le b.progress) :
    p.Le (if (b.completeSymbol cfg st frameId).1 then
      (b.completeSymbol cfg st frameId).2.resetCounter cfg st' frameId'
      else (b.completeSymbol cfg st frameId).2).progress :=
  .ite h h

/-! ## The emitters -/

theorem note_progress (n : Note) : a.progress.Le (a.note n).progress :=
  ⟨le_rfl, le_rfl, List.prefix_append _ _, .refl _, rfl, .refl _, .refl _⟩

theorem checkAssert_progress (c : Cursor) (frameId : Nat) :
    a.progress.Le (a.checkAssert c frameId).progress := by
  unfold checkAssert
  split_ifs
  exacts [.refl _, note_progress a _]

theorem enqueueAll_progress (qid : Nat) (es : List EventData)
    (h : ∀ e ∈ es, ∀ t ∈ e.tags, t.frameId % 2 = qid)
    (hty : ∀ e ∈ es, e.eventType.Emittable) (hne : ∀ e ∈ es, e.tags ≠ []) :
    a.progress.Le (a.enqueueAll qid es).progress :=
  ⟨le_rfl, le_rfl, List.prefix_refl _,
    .of_forall (by simpa [Emitted, OnParityBucket] using fun e he => ⟨h e he, hty e he, hne e he⟩),
    rfl, .refl _, .refl _⟩

/-- Every tag of the blocked loop is one of the tags `mk j`. -/
theorem mem_blockEvents_tags {eventType : EventType} {mk : Nat → Tag} {n b : Nat} {e : EventData}
    {t : Tag} (he : e ∈ blockEvents eventType mk n b) (ht : t ∈ e.tags) : ∃ j, t = mk j := by
  simp only [blockEvents, List.mem_map, List.mem_range] at he
  obtain ⟨i, -, rfl⟩ := he
  simp only [List.mem_map, List.mem_range] at ht
  obtain ⟨j, -, rfl⟩ := ht
  exact ⟨_, rfl⟩

/-- Every event of the blocked loop carries a tag. -/
theorem blockEvents_tags_ne_nil (eventType : EventType) (mk : Nat → Tag) (n b : Nat) :
    ∀ e ∈ blockEvents eventType mk n b, e.tags ≠ [] := by
  intro e he
  obtain ⟨i, hi, rfl⟩ := List.mem_map.1 he
  rw [List.mem_range] at hi
  dsimp only
  rw [ne_eq, List.map_eq_nil_iff, List.range_eq_nil]
  by_cases hc : i = (n / b + if n % b > 0 then 1 else 0) - 1 ∧ n % b > 0
  · rw [if_pos hc]
    exact Nat.pos_iff_ne_zero.1 hc.2
  · rw [if_neg hc]
    rintro rfl
    simp only [Nat.div_zero, Nat.mod_zero, Nat.zero_add] at hi hc
    split_ifs at hi hc <;> omega

section Emitters

variable {eventType : EventType} (frameId symbolId : Nat) (hty : eventType.Emittable)
include hty

theorem scheduleAntennas_progress :
    a.progress.Le (a.scheduleAntennas cfg eventType frameId symbolId).progress :=
  (note_progress a _).trans <| enqueueAll_progress _ _ _
    (fun _ he _ ht => by
      obtain ⟨j, rfl⟩ := mem_blockEvents_tags he ht
      rfl)
    (fun e he => blockEvents_eventType _ _ _ _ e he ▸ hty) (blockEvents_tags_ne_nil _ _ _ _)

theorem scheduleCodeblocks_progress (dir : Direction) :
    a.progress.Le (a.scheduleCodeblocks cfg eventType dir frameId symbolId).progress :=
  (note_progress a _).trans <| enqueueAll_progress _ _ _
    (fun _ he _ ht => by
      obtain ⟨j, rfl⟩ := mem_blockEvents_tags he ht
      rfl)
    (fun e he => blockEvents_eventType _ _ _ _ e he ▸ hty) (blockEvents_tags_ne_nil _ _ _ _)

theorem scheduleSubcarriers_progress :
    a.progress.Le (a.scheduleSubcarriers cfg eventType frameId symbolId).progress := by
  unfold scheduleSubcarriers
  cases eventType <;>
  · refine (note_progress a _).trans (enqueueAll_progress _ _ _ (fun _ he _ ht => ?_) ?_ ?_)
    · simp only [List.mem_map, List.mem_range] at he
      obtain ⟨i, -, rfl⟩ := he
      rw [List.mem_singleton.1 ht]
    · intro e he
      obtain ⟨i, -, rfl⟩ := List.mem_map.1 he
      exact hty
    · intro e he
      obtain ⟨i, -, rfl⟩ := List.mem_map.1 he
      exact List.cons_ne_nil _ _

theorem scheduleBroadCastSymbols_progress :
    a.progress.Le (a.scheduleBroadCastSymbols eventType frameId).progress :=
  (note_progress a _).trans <| enqueueAll_progress _ _ [_]
    (by simp only [List.mem_singleton, forall_eq]) (by simpa using hty) (by simp)

omit hty

theorem scheduleUsers_progress : a.progress.Le (a.scheduleUsers cfg frameId symbolId).progress :=
  (note_progress a _).trans
    ⟨le_rfl, le_rfl, List.prefix_refl _, .refl _, rfl, .refl _, .of_forall (by simp)⟩

theorem scheduleAntennasTX_progress :
    a.progress.Le (a.scheduleAntennasTX cfg frameId symbolId).progress :=
  (note_progress a _).trans
    ⟨le_rfl, le_rfl, List.prefix_refl _, .refl _, rfl, .of_forall (by simp), .refl _⟩

end Emitters

/-! ## Cursors, downlink admission and retirement -/

theorem checkIncrementScheduleFrame_progress (frameId completed : Nat) :
    a.progress.Le (a.checkIncrementScheduleFrame cfg frameId completed).progress := by
  unfold checkIncrementScheduleFrame
  dsimp only
  have h := checkAssert_progress
    { a with scheduleProcessFlags := (a.scheduleProcessFlags + completed) % 256 } .sche frameId
  split_ifs
  · exact h.trans ⟨Nat.le_succ _, le_rfl, List.prefix_refl _, .refl _, rfl, .refl _, .refl _⟩
  · exact h

theorem scheduleDownlinkProcessing_progress (frameId : Nat) :
    a.progress.Le (a.scheduleDownlinkProcessing cfg frameId).progress := by
  have hb (b : Agora) : b.progress.Le (if cfg.numDlControlSyms > 0 then
      b.scheduleBroadCastSymbols .broadcast frameId else b).progress := by
    split_ifs
    exacts [scheduleBroadCastSymbols_progress _ _ (by decide), .refl _]
  unfold scheduleDownlinkProcessing
  dsimp only
  refine (note_progress a _).trans ((hb _).trans ((Progress.Le.foldl _ (fun b i => ?_) _ _).trans
    (Progress.Le.foldl _ (fun b i => scheduleCodeblocks_progress cfg b _ _ (by decide) _) _ _)))
  split_ifs
  exacts [scheduleSubcarriers_progress cfg b _ _ (by decide), .refl _]

theorem releaseDeferred_progress :
    ∀ (fuel : Nat) (a : Agora), a.progress.Le (releaseDeferred cfg fuel a).progress
  | 0, a => .refl _
  | fuel + 1, a => by
    unfold releaseDeferred
    split
    · exact .refl _
    · split_ifs
      · refine .trans ?_ (releaseDeferred_progress fuel _)
        exact scheduleDownlinkProcessing_progress cfg a _
      · refine .trans ?_ (releaseDeferred_progress fuel _)
        exact (note_progress a _).trans (scheduleDownlinkProcessing_progress cfg _ _)
      · exact .refl _

/-- `cur_proc_frame_id_++`. -/
theorem procStep_progress :
    a.progress.Le { a with curProcFrameId := a.curProcFrameId + 1 }.progress :=
  ⟨le_rfl, Nat.le_succ _, List.prefix_refl _, .refl _, rfl, .refl _, .refl _⟩

theorem retire_progress (frameId : Nat) : a.progress.Le (a.retire cfg frameId).progress := by
  unfold retire
  dsimp only
  refine .trans ?_ (note_progress _ _)
  refine .trans ?_ (procStep_progress _)
  refine .ite ((?h).trans (.refl _)) ?h
  refine .trans ?_ (resetCounter_progress cfg _ _ _)
  refine .trans ?_ (resetCounter_progress cfg _ _ _)
  refine .trans ?_ (resetCounter_progress cfg _ _ _)
  refine .trans ?_ (resetCounter_progress cfg _ _ _)
  have h := checkAssert_progress a .proc frameId
  exact .ite (h.trans (resetCounter_progress cfg _ _ _)) h

theorem checkFrameComplete_progress (frameId : Nat) :
    a.progress.Le (a.checkFrameComplete cfg frameId).2.progress := by
  unfold checkFrameComplete
  split_ifs
  · exact retire_progress cfg a frameId
  · exact (retire_progress cfg a frameId).trans (releaseDeferred_progress cfg _ _)
  · exact .refl _

/-! ## The IFFT sweep -/

theorem ifftSweep_progress (frameId : Nat) :
    ∀ (fuel symId : Nat) (a : Agora), a.progress.Le (ifftSweep cfg frameId fuel symId a).progress
  | 0, _, a => .refl _
  | fuel + 1, symId, a => by
    unfold ifftSweep
    refine .ite (.ite (.trans ?_ (ifftSweep_progress frameId fuel _ _)) (.refl _))
      (note_progress a _)
    exact (scheduleAntennasTX_progress cfg a _ _).trans (.refl _)

theorem ifftRecord_progress (frameId d : Nat) :
    a.progress.Le (a.ifftRecord cfg frameId d).progress := by
  unfold ifftRecord
  dsimp only
  have h : a.progress.Le { a with
      ifftCurFrameForSymbol := Function.update a.ifftCurFrameForSymbol d (some frameId) }.progress :=
    .refl _
  exact .ite (h.trans (ifftSweep_progress cfg frameId _ _ _)) h

theorem ifftSymbolDone_progress (frameId symbolId : Nat) :
    a.progress.Le (a.ifftSymbolDone cfg frameId symbolId).2.progress := by
  unfold ifftSymbolDone
  dsimp only
  have h := (ifftRecord_progress cfg a frameId (cfg.getDLSymbolIdx symbolId)).trans
    (completeSymbol_progress cfg _ .ifft frameId)
  refine .ite₂ ?_ h
  refine .trans ?_ (checkFrameComplete_progress cfg _ _)
  refine .trans ?_ (checkIncrementScheduleFrame_progress cfg _ _ _)
  refine .trans ?_ (checkAssert_progress _ _ _)
  exact h.trans (.refl _)

/-! ## The cases of `HandleEvents` -/

section Handlers

variable (tag : Tag)

theorem handleEventFft_progress : a.progress.Le (a.handleEventFft cfg tag).progress := by
  unfold handleEventFft
  dsimp only
  split
  · -- pilot: the beam once the frame's last pilot closes
    have h := (completeTask_progress cfg a .pilotFft tag.frameId tag.symbolId).trans
      (completeSymbol_progress cfg _ .pilotFft tag.frameId)
    exact .ite (.ite (h.trans ((resetCounter_progress cfg _ _ _).trans
      (scheduleSubcarriers_progress cfg _ _ _ (by decide)))) h) (completeTask_progress cfg a _ _ _)
  · -- uplink: the symbol's demul once the frame's beam is done
    refine .ite (closeSymbol_progress cfg ?_) (completeTask_progress cfg a _ _ _)
    refine .ite (.trans ?_ (scheduleSubcarriers_progress cfg _ _ _ (by decide))) ?_
    all_goals
      exact (completeTask_progress cfg a .uplinkFft tag.frameId tag.symbolId).trans (.refl _)
  case h_3 | h_4 => -- calibration: the reciprocity counter
    have h := completeFrameTask_progress cfg a .rc tag.frameId
    exact .ite ((h.trans (resetCounter_progress cfg _ .rc tag.frameId)).trans (.refl _)) h
  · exact .refl _

theorem releasePrecode_progress (frameId i : Nat) :
    a.progress.Le (a.releasePrecode cfg frameId i).progress := by
  unfold releasePrecode
  split
  · exact .ite (scheduleSubcarriers_progress cfg a _ _ (by decide)) (.refl _)
  · exact .refl _

theorem handleBeamTag_progress : a.progress.Le (a.handleBeamTag cfg tag).progress := by
  unfold handleBeamTag
  dsimp only
  refine .ite ?_ (completeFrameTask_progress cfg a _ _)
  refine .trans ?_ (Progress.Le.foldl _ (fun b i => releasePrecode_progress cfg b _ i) _ _)
  refine .trans ?_ (Progress.Le.foldl _
    (fun b i => .ite (scheduleSubcarriers_progress cfg b _ _ (by decide)) (.refl _)) _ _)
  refine .trans ?_ (resetCounter_progress cfg _ _ _)
  exact (completeFrameTask_progress cfg a .beam tag.frameId).trans (.refl _)

theorem handleDemul_progress : a.progress.Le (a.handleDemul cfg tag).2.progress := by
  unfold handleDemul
  dsimp only
  refine .ite₂ (.ite₂ (.ite₂ ((?h).trans ?_) (.ite₂ ((?h).trans ?_) ((?h).trans ?_))) ?h)
    (completeTask_progress cfg a _ _ _)
  · refine .trans ?_ (completeSymbol_progress cfg _ _ _)
    exact .ite (completeTask_progress cfg a _ _ _)
      ((completeTask_progress cfg a _ _ _).trans
        (scheduleCodeblocks_progress cfg _ _ _ (by decide) _))
  · -- hard demod: the frame's uplink is done and it may retire
    exact (checkAssert_progress _ _ _).trans
      ((checkIncrementScheduleFrame_progress cfg _ _ _).trans (checkFrameComplete_progress cfg _ _))
  · -- Bigstation: the decode of the symbol a second time
    exact (resetCounter_progress cfg _ _ _).trans
      (scheduleCodeblocks_progress cfg _ _ _ (by decide) _)
  · -- the frame's uplink is done
    exact (resetCounter_progress cfg _ _ _).trans
      ((checkAssert_progress _ _ _).trans (checkIncrementScheduleFrame_progress cfg _ _ _))

theorem handleDecode_progress : a.progress.Le (a.handleDecode cfg tag).2.progress := by
  unfold handleDecode
  dsimp only
  refine .ite₂ (.ite₂ ((?h).trans ((checkAssert_progress _ _ _).trans
    (checkFrameComplete_progress cfg _ _))) ?h) (completeTask_progress cfg a _ _ _)
  refine .trans ?_ (completeSymbol_progress cfg _ _ _)
  exact .ite ((completeTask_progress cfg a _ _ _).trans (scheduleUsers_progress cfg _ _ _))
    (completeTask_progress cfg a _ _ _)

theorem handlePacketToMac_progress : a.progress.Le (a.handlePacketToMac cfg tag).2.progress := by
  unfold handlePacketToMac
  dsimp only
  refine .ite₂ (.ite₂ ((?h).trans ((checkAssert_progress _ _ _).trans
    (checkFrameComplete_progress cfg _ _))) ?h) (completeTask_progress cfg a _ _ _)
  exact (completeTask_progress cfg a _ _ _).trans (completeSymbol_progress cfg _ _ _)

theorem handlePacketFromMac_progress (frameId : Nat) :
    a.progress.Le (a.handlePacketFromMac cfg frameId).progress := by
  unfold handlePacketFromMac
  dsimp only
  refine .ite (.trans ?_ (resetCounter_progress cfg _ _ _)) (completeTask_progress cfg a _ _ _)
  have h := completeTask_progress cfg a .macToPhy frameId 0
  exact .ite (h.trans (.refl _)) (h.trans (scheduleDownlinkProcessing_progress cfg _ _))

theorem handleEncodeTag_progress : a.progress.Le (a.handleEncodeTag cfg tag).progress := by
  unfold handleEncodeTag
  dsimp only
  refine .ite (closeSymbol_progress cfg ?_) (completeTask_progress cfg a _ _ _)
  refine .ite (.trans ?_ (scheduleSubcarriers_progress cfg _ _ _ (by decide))) ?_
  all_goals exact (completeTask_progress cfg a .encode tag.frameId tag.symbolId).trans (.refl _)

theorem handlePrecode_progress : a.progress.Le (a.handlePrecode cfg tag).progress := by
  unfold handlePrecode
  dsimp only
  exact .ite (closeSymbol_progress cfg
    ((completeTask_progress cfg a _ _ _).trans (scheduleAntennas_progress cfg _ _ _ (by decide))))
    (completeTask_progress cfg a _ _ _)

theorem handleIfftTags_progress :
    ∀ (tags : List Tag) (a : Agora), a.progress.Le (handleIfftTags cfg tags a).2.progress
  | [], a => .refl _
  | t :: ts, a => by
    unfold handleIfftTags
    dsimp only
    have h := completeTask_progress cfg a .ifft t.frameId t.symbolId
    have h' := h.trans (ifftSymbolDone_progress cfg _ t.frameId t.symbolId)
    exact .ite₂ (.ite₂ h' (h'.trans (handleIfftTags_progress ts _)))
      (h.trans (handleIfftTags_progress ts _))

theorem handleBroadcast_progress (frameId : Nat) :
    a.progress.Le (a.handleBroadcast cfg frameId).progress :=
  Progress.Le.foldl _ (fun b _ => scheduleAntennasTX_progress cfg b _ _) _ _

theorem handlePacketTX_progress : a.progress.Le (a.handlePacketTX cfg tag).2.progress := by
  unfold handlePacketTX
  dsimp only
  refine .ite₂ (.ite₂ ((?h).trans (checkFrameComplete_progress cfg _ _)) ?h)
    (completeTask_progress cfg a _ _ _)
  exact (completeTask_progress cfg a _ _ _).trans (completeSymbol_progress cfg _ _ _)

end Handlers

/-- Every case of `HandleEvents`' switch but `kPacketRX` moves the progress forward. -/
theorem dispatch_progress (e : EventData) (he : e.eventType ≠ .packetRX) :
    a.progress.Le (a.dispatch cfg e).2.progress := by
  unfold dispatch
  split
  · exact absurd ‹_› he
  · exact Progress.Le.foldl _ (fun b t => handleEventFft_progress cfg b t) _ _
  · exact Progress.Le.foldl _ (fun b t => handleBeamTag_progress cfg b t) _ _
  · exact handleDemul_progress cfg a _
  · exact handleDecode_progress cfg a _
  · exact .refl _
  · exact handlePacketToMac_progress cfg a _
  · exact handlePacketFromMac_progress cfg a _
  · exact Progress.Le.foldl _ (fun b t => handleEncodeTag_progress cfg b t) _ _
  · exact handlePrecode_progress cfg a _
  · exact handleIfftTags_progress cfg _ _
  · exact handleBroadcast_progress cfg a _
  · exact handlePacketTX_progress cfg a _

/-! ## The `kPacketRX` case -/

theorem numPkts_progress (b : Agora) (n : Nat → Nat) :
    b.progress.Le { b with numPkts := n }.progress := .refl _

theorem updateRxCounters_progress (frameId : Nat) :
    a.progress.Le (a.updateRxCounters cfg frameId).progress := by
  unfold updateRxCounters
  dsimp only
  refine .trans ?_ (numPkts_progress _ _)
  split_ifs
  · exact .refl _
  · exact scheduleDownlinkProcessing_progress cfg a frameId
  · exact .refl _

/-- The `kPacketRX` case moves the progress forward but for its FFT queue, which
    gains the packet at the end of its slot's queue when the packet is within the
    window, and is left alone otherwise. -/
theorem handlePacketRX_progress (pkt : Tag) :
    a.progress.Le { (a.handlePacketRX cfg pkt).progress with fft := a.fftQueueArr } ∧
      ∀ j, ∀ t ∈ (a.handlePacketRX cfg pkt).fftQueueArr j, t ∈ a.fftQueueArr j ∨
        (t = pkt ∧ j = pkt.frameId % cfg.frameWnd ∧
          pkt.frameId < a.curScheFrameId + cfg.frameWnd) := by
  unfold handlePacketRX
  split_ifs with hw
  · exact ⟨.refl _, fun j t ht => .inl ht⟩
  have hu := updateRxCounters_progress cfg a pkt.frameId
  have hf : (a.updateRxCounters cfg pkt.frameId).fftQueueArr = a.fftQueueArr := hu.fft
  refine ⟨⟨hu.sche, hu.proc, hu.log, hu.tasks, rfl, hu.tx, hu.mac⟩, fun j t ht => ?_⟩
  dsimp only at ht
  rw [hf] at ht
  by_cases hj : j = pkt.frameId % cfg.frameWnd
  · subst hj
    simp only [Function.update_same, List.mem_append, List.mem_singleton] at ht
    exact ht.imp_right fun h => ⟨h, rfl, Nat.lt_of_not_le hw⟩
  · exact .inl (by simpa [Function.update_noteq hj] using ht)

/-! ## `TryScheduleFft` -/

theorem countFftCreated_progress : a.progress.Le (countFftCreated cfg a).progress := by
  unfold countFftCreated
  dsimp only
  split_ifs
  · exact checkIncrementScheduleFrame_progress cfg { a with fftCreatedCount := 0 } _ _
  · exact .refl _
  · exact .refl _

theorem fftPop_drains (slot : Nat) :
    ∀ (j : Nat) (acc : List Tag) (a : Agora),
      a.progress.Drains (fftPop cfg slot j acc a).2.progress
  | 0, _, a => .of_le (.refl _)
  | j + 1, acc, a => by
    unfold fftPop
    split
    · exact .of_le (.refl _)
    · rename_i t rest hq
      have hpop : a.progress.Drains
          { a with fftQueueArr := Function.update a.fftQueueArr slot rest }.progress := by
        refine ⟨le_rfl, le_rfl, List.prefix_refl _, fun i => ?_, .refl _, .refl _⟩
        by_cases hi : i = slot
        · subst hi
          simp only [Agora.progress, Function.update_same, hq]
          exact List.suffix_cons _ _
        · simp only [Agora.progress, Function.update_noteq hi, List.suffix_refl]
      exact hpop.trans ((Progress.Drains.of_le (countFftCreated_progress cfg _)).trans
        (fftPop_drains slot j _ _))

theorem enqueueTask_drains (b : Agora) (qid : Nat) (e : EventData) :
    b.progress.Drains (b.enqueueTask qid e).progress :=
  ⟨le_rfl, le_rfl, List.prefix_refl _, fun _ => List.suffix_refl _, .refl _, .refl _⟩

theorem fftBlocks_drains (slot qid : Nat) :
    ∀ (n : Nat) (a : Agora), a.progress.Drains (fftBlocks cfg slot qid n a).progress
  | 0, a => .of_le (.refl _)
  | n + 1, a => by
    have h := fftPop_drains cfg slot cfg.fftBlockSize [] a
    exact h.trans ((enqueueTask_drains _ _ _).trans (fftBlocks_drains slot qid n _))

/-- `TryScheduleFft` moves neither cursor back, only appends to the log, and only
    takes packets off the FFT queues. -/
theorem tryScheduleFft_drains : a.progress.Drains (a.tryScheduleFft cfg).progress := by
  unfold tryScheduleFft
  dsimp only
  split_ifs
  · exact fftBlocks_drains cfg _ _ _ a
  · exact .of_le (.refl _)

/-! ## `HandleEvents` -/

/-- `HandleEvents`' switch moves the progress forward, the FFT queues apart. -/
theorem dispatch_le (e : EventData) :
    a.progress.Le { (a.dispatch cfg e).2.progress with fft := a.fftQueueArr } := by
  by_cases he : e.eventType = .packetRX
  · have hd : a.dispatch cfg e = (false, a.handlePacketRX cfg e.tag0) := by
      simp only [dispatch, he]
    rw [hd]
    exact (handlePacketRX_progress cfg a e.tag0).1
  · exact (dispatch_progress cfg a e he).withFft

/-- Only `kPacketRX` adds to an FFT queue, and only a packet of the slot's frames
    that lies within the window of the schedule frame. -/
theorem dispatch_fft (e : EventData) : ∀ j, ∀ t ∈ (a.dispatch cfg e).2.fftQueueArr j,
    t ∈ a.fftQueueArr j ∨
      (t.frameId % cfg.frameWnd = j ∧ t.frameId < a.curScheFrameId + cfg.frameWnd) := by
  by_cases he : e.eventType = .packetRX
  · have hd : a.dispatch cfg e = (false, a.handlePacketRX cfg e.tag0) := by
      simp only [dispatch, he]
    intro j t ht
    rw [hd] at ht
    exact ((handlePacketRX_progress cfg a e.tag0).2 j t ht).imp_right
      fun ⟨ht, hj, hw⟩ => ⟨ht ▸ hj.symm, ht ▸ hw⟩
  · have hf : (a.dispatch cfg e).2.fftQueueArr = a.fftQueueArr :=
      (dispatch_progress cfg a e he).fft
    exact fun j t ht => .inl (hf ▸ ht)

/-- `HandleEvents` moves neither cursor back and only appends to the log. -/
theorem handleEvents_moves (e : EventData) :
    a.curScheFrameId ≤ (a.handleEvents cfg e).2.curScheFrameId ∧
      a.curProcFrameId ≤ (a.handleEvents cfg e).2.curProcFrameId ∧
      a.log <+: (a.handleEvents cfg e).2.log := by
  have hd := dispatch_le cfg a e
  unfold handleEvents
  dsimp only
  split_ifs
  · exact ⟨hd.sche, hd.proc, hd.log⟩
  · have ht := tryScheduleFft_drains cfg (a.dispatch cfg e).2
    exact ⟨hd.sche.trans ht.sche, hd.proc.trans ht.proc, hd.log.trans ht.log⟩

end Agora

end Savannah
