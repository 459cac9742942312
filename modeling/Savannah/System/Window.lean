/-
  Savannah.System.Window

  The upper side of the frame window outside Bigstation mode.  The schedule
  cursor moves only in `CheckIncrementScheduleFrame(frame_id, completed)`
  (`agora.cc` lines 1251-1269), which asserts `cur_sche_frame_id_ == frame_id`;
  outside Bigstation mode only the `kDemul` and `kIFFT` cases call it, with the
  frame of a tag of the completion they handle.  `FetchDoerEvent` takes
  completions from the bucket `cur_proc_frame_id_ & 1` only, and with an even
  window every completion waits on the bucket of its frames' parity.  So while
  the asserts hold, the events of a batch move the cursor on only from a frame
  of the parity the processing frame had at the fetch, and at most once, since
  the frame it moves onto has the other parity.  The processing frame has to
  move before the cursor can move again: in every reachable state in which no
  assert on the schedule cursor has failed, the schedule frame is at most one
  frame ahead of the processing frame.  The asserts on the processing cursor
  play no part: runs in which they fail are covered too.

  `Agora.ScheStep p` is the move of the cursor one handler makes, given the
  parity `p` of the frames of the completion it handles; `Sys.Ahead` is the
  system invariant built on it.

  In Bigstation mode the bound fails.  There the uplink flag comes from
  `TryScheduleFft` when the frame's last FFT task is created, whatever the
  flags already hold, so with the workers idle the schedule cursor runs a
  window ahead, and the flags, a `uint8_t` updated with `+=`, can skip
  `kProcessingComplete`.
-/
import Savannah.System.Shutdown
import Savannah.System.Conservation

namespace Savannah

/-! ## Failed asserts on one cursor -/

/-- Whether a note records an `assert(cursor == frame_id)` on the cursor `c`
    whose check fails. -/
def Note.failsOn (c : Cursor) : Note → Bool
  | .assertFails c' _ _ => c' == c
  | _ => false

/-- No `assert(cursor == frame_id)` on the cursor `c` has failed in the log. -/
def NoAssertFailsOn (c : Cursor) (l : List Note) : Prop := ∀ n ∈ l, n.failsOn c = false

instance (c : Cursor) : DecidablePred (NoAssertFailsOn c) :=
  fun _ => inferInstanceAs (Decidable (∀ _ ∈ _, _))

theorem NoAssertFailsOn.of_prefix {c : Cursor} {l l' : List Note} (h : l <+: l')
    (h' : NoAssertFailsOn c l') : NoAssertFailsOn c l := fun n hn => h' n (h.subset hn)

/-- The events whose handling calls `CheckIncrementScheduleFrame` outside
    Bigstation mode. -/
def EventData.MovesSche (e : EventData) : Prop := e.eventType = .demul ∨ e.eventType = .ifft

theorem EventData.tag0_mem {e : EventData} (h : e.tags ≠ []) : e.tag0 ∈ e.tags := by
  obtain ⟨t, l, hl⟩ := List.exists_cons_of_ne_nil h
  simp [EventData.tag0, hl]

namespace Agora

variable (cfg : Config) (a : Agora)

/-! ## The handlers that leave the schedule cursor alone -/

theorem foldl_curScheFrameId {β : Type} (step : Agora → β → Agora)
    (h : ∀ a x, (step a x).curScheFrameId = a.curScheFrameId) :
    ∀ (l : List β) (a : Agora), (l.foldl step a).curScheFrameId = a.curScheFrameId
  | [], _ => rfl
  | x :: l, a => (foldl_curScheFrameId step h l _).trans (h a x)

section Sche

variable (eventType : EventType) (st : Stage) (f s : Nat)

@[simp] theorem checkAssert_curScheFrameId (c : Cursor) :
    (a.checkAssert c f).curScheFrameId = a.curScheFrameId := by
  unfold checkAssert; split_ifs <;> rfl

@[simp] theorem completeTask_curScheFrameId :
    (a.completeTask cfg st f s).2.curScheFrameId = a.curScheFrameId := rfl

@[simp] theorem completeFrameTask_curScheFrameId :
    (a.completeFrameTask cfg st f).2.curScheFrameId = a.curScheFrameId := rfl

@[simp] theorem completeSymbol_curScheFrameId :
    (a.completeSymbol cfg st f).2.curScheFrameId = a.curScheFrameId := rfl

@[simp] theorem resetCounter_curScheFrameId :
    (a.resetCounter cfg st f).curScheFrameId = a.curScheFrameId := rfl

@[simp] theorem scheduleAntennas_curScheFrameId :
    (a.scheduleAntennas cfg eventType f s).curScheFrameId = a.curScheFrameId := rfl

@[simp] theorem scheduleCodeblocks_curScheFrameId (dir : Direction) :
    (a.scheduleCodeblocks cfg eventType dir f s).curScheFrameId = a.curScheFrameId := rfl

@[simp] theorem scheduleSubcarriers_curScheFrameId :
    (a.scheduleSubcarriers cfg eventType f s).curScheFrameId = a.curScheFrameId := by
  cases eventType <;> rfl

@[simp] theorem scheduleUsers_curScheFrameId :
    (a.scheduleUsers cfg f s).curScheFrameId = a.curScheFrameId := rfl

@[simp] theorem scheduleAntennasTX_curScheFrameId :
    (a.scheduleAntennasTX cfg f s).curScheFrameId = a.curScheFrameId := rfl

@[simp] theorem scheduleDownlinkProcessing_curScheFrameId :
    (a.scheduleDownlinkProcessing cfg f).curScheFrameId = a.curScheFrameId := by
  unfold scheduleDownlinkProcessing
  rw [foldl_curScheFrameId _ (fun _ _ => scheduleCodeblocks_curScheFrameId ..),
    foldl_curScheFrameId]
  · split_ifs <;> rfl
  · intro b i
    split_ifs <;> simp

@[simp] theorem releaseDeferred_curScheFrameId :
    ∀ (fuel : Nat) (a : Agora), (releaseDeferred cfg fuel a).curScheFrameId = a.curScheFrameId
  | 0, _ => rfl
  | fuel + 1, a => by
    unfold releaseDeferred
    split
    · rfl
    · split_ifs <;> simp [releaseDeferred_curScheFrameId fuel, note]

@[simp] theorem retire_curScheFrameId : (a.retire cfg f).curScheFrameId = a.curScheFrameId := by
  simp only [retire, note]
  split_ifs <;> simp

@[simp] theorem checkFrameComplete_curScheFrameId :
    (a.checkFrameComplete cfg f).2.curScheFrameId = a.curScheFrameId := by
  unfold checkFrameComplete
  split_ifs <;> simp

@[simp] theorem ifftSweep_curScheFrameId :
    ∀ (fuel symId : Nat) (a : Agora), (ifftSweep cfg f fuel symId a).curScheFrameId = a.curScheFrameId
  | 0, _, _ => rfl
  | fuel + 1, symId, a => by
    unfold ifftSweep
    split_ifs <;> simp [ifftSweep_curScheFrameId fuel, note]

@[simp] theorem ifftRecord_curScheFrameId (d : Nat) :
    (a.ifftRecord cfg f d).curScheFrameId = a.curScheFrameId := by
  unfold ifftRecord
  dsimp only
  split_ifs <;> simp

@[simp] theorem updateRxCounters_curScheFrameId :
    (a.updateRxCounters cfg f).curScheFrameId = a.curScheFrameId := by
  simp only [updateRxCounters]
  split_ifs <;> simp

@[simp] theorem handlePacketRX_curScheFrameId (pkt : Tag) :
    (a.handlePacketRX cfg pkt).curScheFrameId = a.curScheFrameId := by
  unfold handlePacketRX
  split_ifs <;> simp

@[simp] theorem handleEventFft_curScheFrameId (tag : Tag) :
    (a.handleEventFft cfg tag).curScheFrameId = a.curScheFrameId := by
  unfold handleEventFft
  dsimp only
  split <;> (try split_ifs) <;> simp

@[simp] theorem releasePrecode_curScheFrameId :
    (a.releasePrecode cfg f s).curScheFrameId = a.curScheFrameId := by
  unfold releasePrecode
  split <;> (try split_ifs) <;> simp

@[simp] theorem handleBeamTag_curScheFrameId (tag : Tag) :
    (a.handleBeamTag cfg tag).curScheFrameId = a.curScheFrameId := by
  unfold handleBeamTag
  dsimp only
  split_ifs
  · rw [foldl_curScheFrameId _ (fun _ _ => releasePrecode_curScheFrameId ..), foldl_curScheFrameId]
    · rfl
    · intro b i
      split_ifs <;> simp
  · rfl

@[simp] theorem handleDecode_curScheFrameId (tag : Tag) :
    (a.handleDecode cfg tag).2.curScheFrameId = a.curScheFrameId := by
  unfold handleDecode
  dsimp only
  split_ifs <;> simp

@[simp] theorem handlePacketToMac_curScheFrameId (tag : Tag) :
    (a.handlePacketToMac cfg tag).2.curScheFrameId = a.curScheFrameId := by
  unfold handlePacketToMac
  dsimp only
  split_ifs <;> simp

@[simp] theorem handlePacketFromMac_curScheFrameId :
    (a.handlePacketFromMac cfg f).curScheFrameId = a.curScheFrameId := by
  unfold handlePacketFromMac
  dsimp only
  split_ifs <;> simp

@[simp] theorem handleEncodeTag_curScheFrameId (tag : Tag) :
    (a.handleEncodeTag cfg tag).curScheFrameId = a.curScheFrameId := by
  unfold handleEncodeTag
  dsimp only
  split_ifs <;> simp

@[simp] theorem handlePrecode_curScheFrameId (tag : Tag) :
    (a.handlePrecode cfg tag).curScheFrameId = a.curScheFrameId := by
  unfold handlePrecode
  dsimp only
  split_ifs <;> simp

@[simp] theorem handleBroadcast_curScheFrameId :
    (a.handleBroadcast cfg f).curScheFrameId = a.curScheFrameId :=
  foldl_curScheFrameId _ (fun _ _ => scheduleAntennasTX_curScheFrameId ..) _ _

@[simp] theorem handlePacketTX_curScheFrameId (tag : Tag) :
    (a.handlePacketTX cfg tag).2.curScheFrameId = a.curScheFrameId := by
  unfold handlePacketTX
  dsimp only
  split_ifs <;> simp

end Sche

/-- The cases other than `kDemul` and `kIFFT` leave the schedule cursor alone. -/
theorem dispatch_curScheFrameId {e : EventData} (he : ¬ e.MovesSche) :
    (a.dispatch cfg e).2.curScheFrameId = a.curScheFrameId := by
  unfold EventData.MovesSche at he
  unfold dispatch
  split <;> simp_all [foldl_curScheFrameId]

/-- Outside Bigstation mode `TryScheduleFft` leaves the schedule cursor alone. -/
theorem tryScheduleFft_curScheFrameId (hbig : cfg.bigstationMode = false) :
    (a.tryScheduleFft cfg).curScheFrameId = a.curScheFrameId := by
  unfold tryScheduleFft
  dsimp only
  split_ifs
  exacts [fftBlocks_curScheFrameId hbig _ _ _ _, rfl]

/-! ## One move of the schedule cursor -/

/-- `ScheStep p a b`: from `a` to `b` the processing cursor has not moved back
    and the log has only grown; and unless an assert on the schedule cursor
    failed in `b`'s log, the schedule cursor has stayed, or moved on by one from
    a frame of parity `p`. -/
structure ScheStep (p : Nat) (a b : Agora) : Prop where
  proc : a.curProcFrameId ≤ b.curProcFrameId
  log : a.log <+: b.log
  sche : NoAssertFailsOn .sche b.log → b.curScheFrameId = a.curScheFrameId ∨
    a.curScheFrameId % 2 = p ∧ b.curScheFrameId = a.curScheFrameId + 1

namespace ScheStep

variable {p : Nat}

theorem refl (a : Agora) : ScheStep p a a := ⟨le_rfl, List.prefix_refl _, fun _ => .inl rfl⟩

/-- Work that moves the master's progress forward and leaves the schedule
    cursor alone. -/
theorem of_le {a b : Agora} (h : a.progress.Le b.progress)
    (hs : b.curScheFrameId = a.curScheFrameId) : ScheStep p a b :=
  ⟨h.proc, h.log, fun _ => .inl hs⟩

/-- Two moves are at most one: the first leaves the cursor on a frame of the
    other parity, so a second one would rest on a failed assert. -/
theorem trans {a b c : Agora} (h1 : ScheStep p a b) (h2 : ScheStep p b c) : ScheStep p a c := by
  refine ⟨h1.proc.trans h2.proc, h1.log.trans h2.log, fun hc => ?_⟩
  have hb := h1.sche (hc.of_prefix h2.log)
  rcases h2.sche hc with h | h <;> omega

theorem ite₂ {c : Prop} [Decidable c] {a : Agora} {x y : Bool × Agora} (hx : ScheStep p a x.2)
    (hy : ScheStep p a y.2) : ScheStep p a (if c then x else y).2 := by
  split_ifs
  exacts [hx, hy]

end ScheStep

variable {p : Nat}

/-- `CheckIncrementScheduleFrame(frame_id, ...)` for a frame of parity `p`: its
    assert holds only when the cursor is at `frame_id`, from where it may move on
    by one. -/
theorem checkIncrementScheduleFrame_scheStep {f : Nat} (hf : f % 2 = p) (completed : Nat) :
    ScheStep p a (a.checkIncrementScheduleFrame cfg f completed) := by
  have hle := checkIncrementScheduleFrame_progress cfg a f completed
  refine ⟨hle.proc, hle.log, fun hok => ?_⟩
  have hcur : a.curScheFrameId = f := by
    by_contra hne
    have hn : Note.assertFails .sche f a.curScheFrameId ∈
        (a.checkIncrementScheduleFrame cfg f completed).log := by
      simp only [checkIncrementScheduleFrame, checkAssert, cursor_sche, note, if_neg hne]
      split_ifs <;> simp
    exact absurd (hok _ hn) (by simp [Note.failsOn])
  obtain ⟨h1, h2⟩ := checkIncrementScheduleFrame_spec cfg a f completed
  by_cases hc : (a.scheduleProcessFlags + completed) % 256 = kProcessingComplete
  · exact .inr ⟨hcur ▸ hf, (h1 hc).1⟩
  · exact .inl (h2 hc).1

/-- The `kDemul` case moves the cursor at most once, from the frame of its tag. -/
theorem handleDemul_scheStep {tag : Tag} (hf : tag.frameId % 2 = p) :
    ScheStep p a (a.handleDemul cfg tag).2 := by
  unfold handleDemul
  dsimp only
  refine .ite₂ (.ite₂ (.ite₂ ((?h).trans ?_) (.ite₂ ((?h).trans ?_) ((?h).trans ?_))) ?h)
    (.of_le (completeTask_progress cfg a _ _ _) rfl)
  · refine .of_le (.trans ?_ (completeSymbol_progress cfg _ _ _)) (by split_ifs <;> simp)
    exact .ite (completeTask_progress cfg a _ _ _)
      ((completeTask_progress cfg a _ _ _).trans
        (scheduleCodeblocks_progress cfg _ _ _ (by decide) _))
  · -- hard demod: the frame's uplink is done and it may retire
    exact (ScheStep.of_le (checkAssert_progress _ _ _) (by simp)).trans
      ((checkIncrementScheduleFrame_scheStep cfg _ hf _).trans
        (.of_le (checkFrameComplete_progress cfg _ _) (by simp)))
  · -- Bigstation: the decode of the symbol a second time
    exact .of_le ((resetCounter_progress cfg _ _ _).trans
      (scheduleCodeblocks_progress cfg _ _ _ (by decide) _)) (by simp)
  · -- the frame's uplink is done
    exact (ScheStep.of_le ((resetCounter_progress cfg _ _ _).trans (checkAssert_progress _ _ _))
      (by simp)).trans (checkIncrementScheduleFrame_scheStep cfg _ hf _)

/-- The `kIFFT` handler of one closed symbol moves the cursor at most once,
    from the symbol's frame. -/
theorem ifftSymbolDone_scheStep {f : Nat} (hf : f % 2 = p) (symbolId : Nat) :
    ScheStep p a (a.ifftSymbolDone cfg f symbolId).2 := by
  unfold ifftSymbolDone
  dsimp only
  have h := (ifftRecord_progress cfg a f (cfg.getDLSymbolIdx symbolId)).trans
    (completeSymbol_progress cfg _ .ifft f)
  refine .ite₂ ?_ (.of_le h (by simp))
  refine .trans (.of_le (.trans ?_ (checkAssert_progress _ _ _)) (by simp))
    ((checkIncrementScheduleFrame_scheStep cfg _ hf _).trans
      (.of_le (checkFrameComplete_progress cfg _ _) (by simp)))
  exact h.trans (.refl _)

/-- The `kIFFT` case over tags of frames of parity `p`. -/
theorem handleIfftTags_scheStep : ∀ (tags : List Tag) (a : Agora),
    (∀ t ∈ tags, t.frameId % 2 = p) → ScheStep p a (handleIfftTags cfg tags a).2
  | [], a, _ => .refl a
  | t :: ts, a, h => by
    have hts := fun b => handleIfftTags_scheStep ts b fun t' ht => h t' (List.mem_cons_of_mem _ ht)
    have hc : ScheStep p a (a.completeTask cfg .ifft t.frameId t.symbolId).2 :=
      .of_le (completeTask_progress cfg a _ _ _) rfl
    unfold handleIfftTags
    dsimp only
    have hd := hc.trans (ifftSymbolDone_scheStep cfg _ (h t (List.mem_cons_self _ _)) t.symbolId)
    split_ifs
    exacts [hd, hd.trans (hts _), hc.trans (hts _)]

/-- One event of a batch whose demul and IFFT tags are of frames of parity `p`. -/
theorem handleEvents_scheStep (hbig : cfg.bigstationMode = false) {e : EventData}
    (hne : e.eventType = .demul → e.tags ≠ [])
    (hp : e.MovesSche → ∀ t ∈ e.tags, t.frameId % 2 = p) :
    ScheStep p a (a.handleEvents cfg e).2 := by
  have hd : ScheStep p a (a.dispatch cfg e).2 := by
    by_cases hm : e.MovesSche
    · have hdm : e.eventType = .demul → (a.dispatch cfg e).2 = (a.handleDemul cfg e.tag0).2 :=
        fun h => by simp only [dispatch, h]
      have hif : e.eventType = .ifft → (a.dispatch cfg e).2 = (handleIfftTags cfg e.tags a).2 :=
        fun h => by simp only [dispatch, h]
      rcases hm with h | h
      · rw [hdm h]
        exact handleDemul_scheStep cfg a (hp (.inl h) _ (EventData.tag0_mem (hne h)))
      · rw [hif h]
        exact handleIfftTags_scheStep cfg _ a (hp (.inr h))
    · have hle := dispatch_le cfg a e
      exact ⟨hle.proc, hle.log, fun _ => .inl (dispatch_curScheFrameId cfg a hm)⟩
  unfold handleEvents
  dsimp only
  split_ifs
  · exact hd
  · have ht := tryScheduleFft_drains cfg (a.dispatch cfg e).2
    exact hd.trans ⟨ht.proc, ht.log, fun _ => .inl (tryScheduleFft_curScheFrameId cfg _ hbig)⟩

/-- `HandleEvents` adds only emitted tasks and FFT tasks. -/
theorem handleEvents_tasks (e : EventData) : ∀ x ∈ (a.handleEvents cfg e).2.taskQueue,
    x ∈ a.taskQueue ∨ Emitted x ∨ x.2.eventType = .fft := by
  have hd : ∀ x ∈ (a.dispatch cfg e).2.taskQueue, x ∈ a.taskQueue ∨ Emitted x ∨
      x.2.eventType = .fft := fun x hx =>
    ((dispatch_le cfg a e).tasks.mem hx).imp_right .inl
  unfold handleEvents
  dsimp only
  split_ifs
  · exact hd
  · intro x hx
    rw [(tryScheduleFft_spec cfg _).1, List.mem_append, List.mem_map] at hx
    rcases hx with hx | ⟨i, -, rfl⟩
    exacts [hd x hx, .inr (.inr rfl)]

end Agora

namespace Sys

variable {cfg : Config}

/-! ## The window invariant -/

/-- What keeps the schedule frame within one frame of the processing frame: no
    demul or IFFT event on its way to the master through the streamer or the MAC
    thread, a tag on every demul task, completion and event of the batch, and,
    while no assert on the schedule cursor has failed, the bound, with a parity
    `p` of the frames of the batch's demul and IFFT events from which the
    schedule cursor cannot run ahead. -/
structure Ahead (s : Sys) : Prop where
  tx : ∀ e ∈ s.agora.txQueue, ¬ e.MovesSche
  mac : ∀ e ∈ s.agora.macRequestQueue, ¬ e.MovesSche
  rx : ∀ e ∈ s.rxQueue, ¬ e.MovesSche
  macResponse : ∀ e ∈ s.macResponseQueue, ¬ e.MovesSche
  tasks : ∀ x ∈ s.agora.taskQueue, x.2.eventType = .demul → x.2.tags ≠ []
  comps : ∀ x ∈ s.compQueue, x.2.eventType = .demul → x.2.tags ≠ []
  batch : ∀ e ∈ s.batch, e.eventType = .demul → e.tags ≠ []
  window : NoAssertFailsOn .sche s.agora.log →
    s.agora.curScheFrameId ≤ s.agora.curProcFrameId + 1 ∧
    ∃ p, (s.agora.curScheFrameId % 2 = p → s.agora.curScheFrameId ≤ s.agora.curProcFrameId) ∧
      ∀ e ∈ s.batch, e.MovesSche → ∀ t ∈ e.tags, t.frameId % 2 = p

variable (cfg) in
theorem init_ahead : (init cfg).Ahead := by
  obtain ⟨_, _, _, hci⟩ := Agora.checkIncrementScheduleFrame_eq cfg (Agora.blank cfg) 0
    kProcessingComplete
  refine ⟨?_, ?_, ?_, ?_, ?_, ?_, ?_, fun _ => ⟨?_, 0, ?_, ?_⟩⟩ <;>
    simp only [init, Agora.init, Agora.initializeCounters, hci] <;> simp [Agora.blank]

/-- A handled event keeps the invariant: the handler's move of the schedule
    cursor is from a frame of the batch's parity, after which the cursor is on
    the other parity. -/
theorem handle_ahead (hbig : cfg.bigstationMode = false) {s : Sys} {e : EventData}
    {rest : List EventData} (hb : s.batch = e :: rest) (hi : s.Ahead) :
    { s with agora := (s.agora.handleEvents cfg e).2,
             batch := if (s.agora.handleEvents cfg e).1 then [] else rest,
             finish := (s.agora.handleEvents cfg e).1 }.Ahead := by
  have hrest : ∀ x ∈ (if (s.agora.handleEvents cfg e).1 then [] else rest), x ∈ rest := by
    split_ifs <;> simp
  have he : ∀ x ∈ s.batch, x = e ∨ x ∈ rest := by simp [hb]
  have hout := Agora.handleEvents_outward cfg s.agora e
  refine ⟨fun x hx => ?_, fun x hx => ?_, hi.rx, hi.macResponse, fun x hx => ?_, hi.comps,
    fun x hx => hi.batch x (hb ▸ List.mem_cons_of_mem _ (hrest x hx)), fun hok => ?_⟩
  · rcases hout.1.mem hx with h | h
    exacts [hi.tx x h, by simp [EventData.MovesSche, h]]
  · rcases hout.2.mem hx with h | h
    exacts [hi.mac x h, by simp [EventData.MovesSche, h]]
  · rcases Agora.handleEvents_tasks cfg s.agora e x hx with h | h | h
    · exact hi.tasks x h
    · exact fun _ => h.2.2
    · simp [h]
  · obtain ⟨hwin, p, hpar, hbatch⟩ := hi.window (hok.of_prefix (Agora.handleEvents_moves cfg _ e).2.2)
    have hstep := Agora.handleEvents_scheStep cfg s.agora hbig (p := p)
      (hi.batch e (hb ▸ List.mem_cons_self _ _)) (hbatch e (hb ▸ List.mem_cons_self _ _))
    refine ⟨?_, p, ?_, fun x hx => hbatch x (hb ▸ List.mem_cons_of_mem _ (hrest x hx))⟩ <;>
      rcases hstep.sche hok with h | h <;> have := hstep.proc <;> dsimp only at * <;> omega

/-- Every step keeps the invariant. -/
theorem step_ahead (hbig : cfg.bigstationMode = false) {s s' : Sys} {act : Action}
    (h : step cfg s act = some s') (hb : s.Buckets cfg) (hi : s.Ahead) : s'.Ahead := by
  cases act <;> simp only [step] at h
  case receive pkt =>
    split_ifs at h
    cases h
    refine { hi with rx := ?_ }
    simp only [List.mem_append, List.mem_singleton]
    rintro e (he | rfl)
    exacts [hi.rx e he, by simp [EventData.MovesSche]]
  case transmit i =>
    split at h
    · rename_i hl
      cases h
      refine { hi with tx := fun e he => hi.tx e (List.mem_of_mem_eraseIdx he), rx := ?_ }
      simp only [List.mem_append, List.mem_singleton]
      rintro e (he | rfl)
      exacts [hi.rx e he, hi.tx _ (List.get_mem _ _ hl)]
    · cases h
  case macReply i =>
    split at h
    · rename_i hl
      cases h
      refine { hi with mac := fun e he => hi.mac e (List.mem_of_mem_eraseIdx he),
                       macResponse := ?_ }
      simp only [List.mem_append, List.mem_singleton]
      rintro e (he | rfl)
      exacts [hi.macResponse e he, hi.mac _ (List.get_mem _ _ hl)]
    · cases h
  case macDownlink f ue =>
    split_ifs at h
    cases h
    refine { hi with macResponse := ?_ }
    simp only [List.mem_append, List.mem_singleton]
    rintro e (he | rfl)
    exacts [hi.macResponse e he, by simp [EventData.MovesSche]]
  case ranUpdate mcs =>
    split_ifs at h
    cases h
    refine { hi with macResponse := ?_ }
    simp only [List.mem_append, List.mem_singleton]
    rintro e (he | rfl)
    exacts [hi.macResponse e he, by simp [EventData.MovesSche]]
  case work i =>
    split at h
    · rename_i hl
      cases h
      refine { hi with tasks := fun x hx => hi.tasks x (List.mem_of_mem_eraseIdx hx),
                       comps := ?_ }
      simp only [List.mem_append, List.mem_singleton]
      rintro x (hx | rfl)
      exacts [hi.comps x hx, hi.tasks _ (List.get_mem _ _ hl)]
    · cases h
  case fetchStreamer n m =>
    split at h
    · cases h
      have hbatch : ∀ e ∈ s.rxQueue.take n ++ (if cfg.enableMac then s.macResponseQueue.take m
          else []), ¬ e.MovesSche := by
        simp only [List.mem_append]
        rintro e (he | he)
        · exact hi.rx e (List.mem_of_mem_take he)
        · split_ifs at he
          exacts [hi.macResponse e (List.mem_of_mem_take he), absurd he (List.not_mem_nil _)]
      refine { hi with rx := fun e he => hi.rx e (List.mem_of_mem_drop he),
                       macResponse := fun e he => hi.macResponse e (List.mem_of_mem_drop he),
                       batch := fun e he hd => absurd (.inl hd) (hbatch e he),
                       window := fun hok => ⟨(hi.window hok).1, s.agora.curScheFrameId + 1,
                         by dsimp only; omega,
                         fun e he hm => absurd hm (hbatch e he)⟩ }
    · cases h
  case fetchDoer n =>
    split at h
    · cases h
      have hmem := (takeBucket_mem (s.agora.curProcFrameId % 2) n s.compQueue)
      refine { hi with comps := fun x hx => hi.comps x (hmem.2 hx),
                       batch := fun e he => hi.comps _ (hmem.1 e he),
                       window := fun hok => ⟨(hi.window hok).1, s.agora.curProcFrameId % 2,
                         fun hp => by have := (hi.window hok).1; dsimp only at hp ⊢; omega,
                         fun e he _ t ht => hb.comps _ (hmem.1 e he) t ht⟩ }
    · cases h
  case handle =>
    split at h
    · cases h
    · rename_i e rest hbt
      cases h
      exact handle_ahead hbig hbt hi

theorem Reachable.ahead (hbig : cfg.bigstationMode = false) (hW : 2 ∣ cfg.frameWnd) {s : Sys}
    (hs : Reachable cfg s) : s.Ahead := by
  induction hs with
  | init => exact init_ahead cfg
  | step hr h ih => exact step_ahead hbig h (hr.buckets hW) ih

/-- Outside Bigstation mode and with an even window, in every reachable state in
    which no `assert(cur_sche_frame_id_ == frame_id)` has failed, the schedule
    frame is at most one frame ahead of the processing frame. -/
theorem reachable_sche_le_proc_succ (hbig : cfg.bigstationMode = false) (hW : 2 ∣ cfg.frameWnd)
    {s : Sys} (hs : Reachable cfg s) (hok : NoAssertFailsOn .sche s.agora.log) :
    s.agora.curScheFrameId ≤ s.agora.curProcFrameId + 1 :=
  ((hs.ahead hbig hW).window hok).1

end Sys

/-- Frame 0 arrives whole; its FFT, beam and demul tasks run and their
    completions are handled in turn. -/
def uplinkDoneRun : List Action :=
  [.receive ⟨0, 0, 0⟩, .receive ⟨0, 1, 0⟩, .fetchStreamer 2 0, .handle, .handle,
   .work 0, .fetchDoer 1, .handle, .fetchStreamer 0 0,
   .work 0, .fetchDoer 1, .handle, .fetchStreamer 0 0,
   .work 0, .fetchDoer 1, .handle]

def uplinkDoneState : Sys :=
  (Sys.run Config.oneAntenna (Sys.init Config.oneAntenna) uplinkDoneRun).getD
    (Sys.init Config.oneAntenna)

/-- The bound is reached: frame 0's uplink is done and the schedule cursor is on
    frame 1 while frame 0 waits for its decode, with the asserts on the schedule
    cursor holding. -/
theorem reachable_sche_le_proc_succ_uplinkDone :
    Sys.Reachable Config.oneAntenna uplinkDoneState ∧
      NoAssertFailsOn .sche uplinkDoneState.agora.log ∧
      uplinkDoneState.agora.curScheFrameId = uplinkDoneState.agora.curProcFrameId + 1 ∧
      uplinkDoneState.agora.curScheFrameId ≤ uplinkDoneState.agora.curProcFrameId + 1 :=
  have hs : Sys.Reachable Config.oneAntenna uplinkDoneState :=
    Sys.run_reachable _ (l := uplinkDoneRun) .init (by rfl)
  have hok : NoAssertFailsOn .sche uplinkDoneState.agora.log := by decide
  ⟨hs, hok, by decide, Sys.reachable_sche_le_proc_succ rfl (by decide) hs hok⟩

/-! ## Bigstation mode -/

/-- A frame of one pilot and one downlink symbol, in Bigstation mode, FFT blocks of one. -/
def noUplinkCfg : Config :=
  { bigstationCfg with frameSchedule := [.pilot, .dl], fftBlockSize := 1 }

/-- Frame 0's one pilot packet arrives; then each task is run and its completion
    handled in turn, and the TX packet is sent. -/
def noUplinkRun : List Action :=
  [.receive ⟨0, 0, 0⟩, .fetchStreamer 1 0, .handle, .fetchDoer 0, .fetchStreamer 0 0,
   .work 0, .fetchDoer 1, .handle, .fetchStreamer 0 0,
   .work 0, .fetchDoer 1, .handle, .fetchStreamer 0 0,
   .work 0, .fetchDoer 1, .handle, .fetchStreamer 0 0,
   .work 0, .fetchDoer 1, .handle, .fetchStreamer 0 0,
   .work 0, .fetchDoer 1, .handle, .fetchStreamer 0 0,
   .transmit 0, .fetchDoer 0, .fetchStreamer 1 0, .handle]

/-- Frame 0 is retired while the schedule cursor stays at 0: the uplink flag was
    added on top of the preasserted one, and the downlink flag then took the
    flags past `kProcessingComplete`. -/
theorem uplink_flag_added_twice :
    ∃ s, Sys.Reachable noUplinkCfg s ∧ Note.retire 0 ∈ s.agora.log ∧
      s.agora.curScheFrameId = 0 ∧
      s.agora.scheduleProcessFlags = 2 * kUplinkComplete + kDownlinkComplete :=
  Sys.reach_of_run noUplinkCfg (l := noUplinkRun) (by decide)

/-- All packets of frames 0 and 1 arrive in one streamer batch and nothing else
    is handled. -/
def runAheadRun : List Action :=
  [.receive ⟨0, 0, 0⟩, .receive ⟨0, 1, 0⟩, .receive ⟨1, 0, 0⟩, .receive ⟨1, 1, 0⟩,
   .fetchStreamer 4 0, .handle, .handle, .handle, .handle]

/-- The window bound fails both ways in Bigstation mode: after the double
    retirement `cur_proc_frame_id_` passes `cur_sche_frame_id_`, and with the
    workers idle `cur_sche_frame_id_` reaches `cur_proc_frame_id_ + W`. -/
theorem schedule_cursor_leaves_window :
    (∃ s, Sys.Reachable bigstationCfg s ∧ s.agora.curScheFrameId < s.agora.curProcFrameId) ∧
    (∃ s, Sys.Reachable bigstationCfg s ∧
      s.agora.curProcFrameId + bigstationCfg.frameWnd ≤ s.agora.curScheFrameId) :=
  ⟨Sys.reach_of_run bigstationCfg (l := duplicateDecodeRun) (by decide),
   Sys.reach_of_run bigstationCfg (l := runAheadRun) (by decide)⟩

end Savannah
