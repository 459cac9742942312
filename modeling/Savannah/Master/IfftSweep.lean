/-
  Savannah.Master.IfftSweep

  The part of the `kIFFT` handler (`agora.cc` lines 789-824) that runs when an
  IFFT symbol of a frame closes: it records the frame in
  `ifft_cur_frame_for_symbol_`, and when the closed symbol is the next one to
  transmit it sweeps forward, calling `ScheduleAntennasTX` for every symbol
  that has closed for the frame, up to `GetSymbolCount(frame_id)`.  The last
  symbol resets `ifft_next_symbol_`, marks the downlink complete and checks
  the frame for retirement.

  `ifftSymbolDone_in_order` is the sweep's loop invariant carried over every
  closing order: when the downlink symbols of one frame close in any order,
  the TX of symbol `k` is released once, in increasing `k`, at the closure
  that completes the prefix `0 .. k`: the call `ScheduleAntennasTX` and its
  `kPacketTX` events, one per antenna, on the TX queue (`TxReleased`).  The
  loop reads no index out of range and `ifft_next_symbol_` ends at `0`.
-/
import Savannah.Master.Retire
import Mathlib.Data.List.Perm.Subperm

namespace Savannah

/-! ## The closed prefix -/

/-- The number of leading symbols `0, 1, ...` below `n` that are all in `closed`. -/
def prefixLen (closed : List Nat) : Nat → Nat
  | 0 => 0
  | n + 1 => if prefixLen closed n = n ∧ n ∈ closed then n + 1 else prefixLen closed n

/-- `prefixLen closed n` is a prefix of closed symbols that stops at `n` or at the
    first symbol not closed. -/
theorem prefixLen_spec (closed : List Nat) : ∀ n,
    prefixLen closed n ≤ n ∧ (∀ i < prefixLen closed n, i ∈ closed) ∧
      (prefixLen closed n < n → prefixLen closed n ∉ closed)
  | 0 => by simp [prefixLen]
  | n + 1 => by
    obtain ⟨h1, h2, h3⟩ := prefixLen_spec closed n
    unfold prefixLen
    split_ifs with h
    · refine ⟨le_rfl, fun i hi => ?_, by omega⟩
      rcases Nat.lt_succ_iff_lt_or_eq.1 hi with hi | rfl
      exacts [h2 i (by omega), h.2]
    · refine ⟨by omega, h2, fun hlt => ?_⟩
      rcases Nat.lt_or_ge (prefixLen closed n) n with hn | hn
      · exact h3 hn
      · intro hm; exact h ⟨by omega, by rwa [show prefixLen closed n = n by omega] at hm⟩

/-- The prefix is the only length with these properties. -/
theorem prefixLen_eq {closed : List Nat} {n p : Nat} (hp : p ≤ n) (hin : ∀ i < p, i ∈ closed)
    (hout : p < n → p ∉ closed) : prefixLen closed n = p := by
  obtain ⟨h1, h2, h3⟩ := prefixLen_spec closed n
  rcases Nat.lt_trichotomy (prefixLen closed n) p with h | h | h
  · exact absurd (hin _ h) (h3 (by omega))
  · exact h
  · exact absurd (h2 p h) (hout (by omega))

/-- Closing a symbol other than the first open one keeps the prefix. -/
theorem prefixLen_append_of_ne {closed : List Nat} {n k : Nat} (hk : k ≠ prefixLen closed n) :
    prefixLen (closed ++ [k]) n = prefixLen closed n := by
  obtain ⟨h1, h2, h3⟩ := prefixLen_spec closed n
  refine prefixLen_eq h1 (fun i hi => List.mem_append_left _ (h2 i hi)) fun hlt hm => ?_
  rcases List.mem_append.1 hm with hm | hm
  exacts [h3 hlt hm, hk (List.mem_singleton.1 hm).symm]

/-- Closing more symbols never shortens the prefix. -/
theorem prefixLen_le_append (closed : List Nat) (n k : Nat) :
    prefixLen closed n ≤ prefixLen (closed ++ [k]) n := by
  obtain ⟨h1, h2, -⟩ := prefixLen_spec closed n
  obtain ⟨-, -, h3⟩ := prefixLen_spec (closed ++ [k]) n
  by_contra h
  exact h3 (by omega) (List.mem_append_left _ (h2 _ (by omega)))

/-- The list of closed symbols is at least as long as the prefix. -/
theorem prefixLen_le_length (closed : List Nat) (n : Nat) :
    prefixLen closed n ≤ closed.length := by
  obtain ⟨-, h2, -⟩ := prefixLen_spec closed n
  have hsub : List.range (prefixLen closed n) ⊆ closed := fun i hi => h2 i (List.mem_range.1 hi)
  simpa using (List.subperm_of_subset (List.nodup_range _) hsub).length_le

/-- When every symbol below `n` has closed, the prefix is all of them. -/
theorem prefixLen_of_forall {closed : List Nat} {n : Nat} (h : ∀ i < n, i ∈ closed) :
    prefixLen closed n = n :=
  prefixLen_eq le_rfl h (fun h' => absurd h' (Nat.lt_irrefl n))

namespace Agora

variable (cfg : Config)

/-! ## The sweep -/

/-- The call `ScheduleAntennasTX(frame_id, GetDLSymbol(k))` as the log records it. -/
def txNote (frameId k : Nat) : Note := .schedule .packetTX frameId (cfg.getDLSymbol k)

/-- The `kPacketTX` events `ScheduleAntennasTX(frame_id, GetDLSymbol(k))` puts on
    the TX queue: one per antenna. -/
def txEvents (frameId k : Nat) : List EventData :=
  (List.range cfg.bsAntNum).map fun ant => ⟨.packetTX, [⟨frameId, cfg.getDLSymbol k, ant⟩]⟩

/-- From `a` to `b` the master has released the TX of the downlink symbols `ks`
    of frame `frameId`, in this order, and no other: the `ScheduleAntennasTX`
    calls, and their `kPacketTX` events on the TX queue. -/
structure TxReleased (frameId : Nat) (a b : Agora) (ks : List Nat) : Prop where
  notes : sweepNotes b.log = sweepNotes a.log ++ ks.map (txNote cfg frameId)
  txQueue : b.txQueue = a.txQueue ++ ks.flatMap (txEvents cfg frameId)

namespace TxReleased

variable {cfg} {f : Nat}

theorem refl (a : Agora) : TxReleased cfg f a a [] := ⟨by simp, by simp⟩

theorem trans {a b c : Agora} {ks ks' : List Nat} (h1 : TxReleased cfg f a b ks)
    (h2 : TxReleased cfg f b c ks') : TxReleased cfg f a c (ks ++ ks') :=
  ⟨by rw [h2.notes, h1.notes, List.map_append, List.append_assoc],
    by rw [h2.txQueue, h1.txQueue, List.flatMap_append, List.append_assoc]⟩

end TxReleased

/-- The sweep loop from `symId`: while the symbol's IFFT has closed for
    `frameId`, schedule its TX and advance `ifft_next_symbol_`.  `fuel` is the
    number of iterations the bound `sym_id <= GetSymbolCount(frame_id)` allows;
    `ifft_cur_frame_for_symbol_` has `NumDLSyms()` entries. -/
def ifftSweep (frameId : Nat) : Nat → Nat → Agora → Agora
  | 0, _, a => a
  | fuel + 1, symId, a =>
    if symId < cfg.numDLSyms then
      if a.ifftCurFrameForSymbol symId = some frameId then
        ifftSweep frameId fuel (symId + 1)
          { (a.scheduleAntennasTX cfg frameId (cfg.getDLSymbol symId)) with
            ifftNextSymbol := a.ifftNextSymbol + 1 }
      else a
    else a.note (.atOutOfRange symId)

/-- `ifft_cur_frame_for_symbol_.at(symbol_idx_dl) = frame_id`, then the sweep when
    the symbol is the next one to transmit. -/
def ifftRecord (a : Agora) (frameId d : Nat) : Agora :=
  let cur := Function.update a.ifftCurFrameForSymbol d (some frameId)
  let a := { a with ifftCurFrameForSymbol := cur }
  if d = a.ifftNextSymbol then ifftSweep cfg frameId (a.getSymbolCount cfg .ifft frameId + 1 - d) d a
  else a

/-- The `kIFFT` handler after `ifft_counters_.CompleteTask(frame_id, symbol_id)`
    returned `true`: `(finished, state)`. -/
def ifftSymbolDone (a : Agora) (frameId symbolId : Nat) : Bool × Agora :=
  let a := a.ifftRecord cfg frameId (cfg.getDLSymbolIdx symbolId)
  let r := a.completeSymbol cfg .ifft frameId
  if r.1 then
    let a := { r.2 with ifftNextSymbol := 0 }
    let a := a.checkAssert .proc frameId
    (a.checkIncrementScheduleFrame cfg frameId kDownlinkComplete).checkFrameComplete cfg frameId
  else (false, r.2)

/-- `ScheduleAntennasTX(frame_id, GetDLSymbol(k))` releases the TX of symbol `k`. -/
theorem scheduleAntennasTX_txReleased (a : Agora) (frameId k : Nat) :
    TxReleased cfg frameId a (a.scheduleAntennasTX cfg frameId (cfg.getDLSymbol k)) [k] :=
  ⟨by simp [scheduleAntennasTX, sweepNotes, note, txNote, List.filter_append],
    by simp [scheduleAntennasTX, note, txEvents]⟩

/-- The sweep from `symId` over closed symbols up to `e`: when every symbol in
    `[symId, e)` has closed for the frame and the loop stops at `e` (its bound
    or an open symbol), it releases the TX of `symId .. e - 1` in order, moves
    `ifft_next_symbol_` past them, and reads no index out of range. -/
theorem ifftSweep_spec (f : Nat) : ∀ (fuel symId e : Nat) (a : Agora),
    symId ≤ e → e ≤ symId + fuel → symId + fuel ≤ cfg.numDLSyms →
    (∀ i, symId ≤ i → i < e → a.ifftCurFrameForSymbol i = some f) →
    (e < symId + fuel → a.ifftCurFrameForSymbol e ≠ some f) →
    (ifftSweep cfg f fuel symId a).ifftNextSymbol = a.ifftNextSymbol + (e - symId) ∧
    (ifftSweep cfg f fuel symId a).ifftCurFrameForSymbol = a.ifftCurFrameForSymbol ∧
    (ifftSweep cfg f fuel symId a).counters = a.counters ∧
    TxReleased cfg f a (ifftSweep cfg f fuel symId a) (List.range' symId (e - symId))
  | 0, symId, e, a, h1, h2, _, _, _ => by
    obtain rfl : e = symId := by omega
    simpa [ifftSweep] using TxReleased.refl a
  | fuel + 1, symId, e, a, h1, h2, h3, hc, hs => by
    have hlt : symId < cfg.numDLSyms := by omega
    rcases Nat.eq_or_lt_of_le h1 with rfl | hgt
    · simpa [ifftSweep, hlt, hs (by omega)] using TxReleased.refl a
    · obtain ⟨ih1, ih2, ih3, ih4⟩ := ifftSweep_spec f fuel (symId + 1) e
        { a.scheduleAntennasTX cfg f (cfg.getDLSymbol symId) with
          ifftNextSymbol := a.ifftNextSymbol + 1 }
        hgt (by omega) (by omega) (fun i h h' => hc i (by omega) h') (fun h => hs (by omega))
      have he : e - symId = e - (symId + 1) + 1 := by omega
      simp only [ifftSweep, hlt, hc symId le_rfl hgt, if_true]
      refine ⟨by rw [ih1, he]; simp [scheduleAntennasTX, note]; omega, ih2, ih3, ?_⟩
      have h1 := scheduleAntennasTX_txReleased cfg a f symId
      rw [he, List.range'_succ]
      exact TxReleased.trans (b := { a.scheduleAntennasTX cfg f (cfg.getDLSymbol symId) with
        ifftNextSymbol := a.ifftNextSymbol + 1 }) ⟨h1.notes, h1.txQueue⟩ ih4

/-! ## Closing the symbols of one frame in any order -/

/-- The sweep state after the downlink symbols `closed` of frame `f` have closed,
    starting from `a`: the next symbol to transmit is the first open one, the
    recorded frames and the IFFT symbol count match `closed`, and the TX of the
    closed prefix, and nothing else, has been released since `a`. -/
structure SweepInv (f : Nat) (a b : Agora) (closed : List Nat) : Prop where
  next : b.ifftNextSymbol = prefixLen closed cfg.numDLSyms
  cur : ∀ i < cfg.numDLSyms, b.ifftCurFrameForSymbol i = some f ↔ i ∈ closed
  count : (b.counters .ifft).symbolCount (f % cfg.frameWnd) = closed.length
  max : (b.counters .ifft).maxSymbolCount = cfg.numDLSyms
  released : TxReleased cfg f a b (List.range (prefixLen closed cfg.numDLSyms))

/-- Recording the closure of `k` adds `k` to the closed symbols. -/
theorem SweepInv.cur_update {f : Nat} {a b : Agora} {closed : List Nat}
    (h : SweepInv cfg f a b closed) (k : Nat) :
    ∀ i < cfg.numDLSyms,
      Function.update b.ifftCurFrameForSymbol k (some f) i = some f ↔ i ∈ closed ++ [k] := by
  intro i hi
  by_cases hik : i = k
  · subst hik; simp
  · simp [Function.update_noteq hik, h.cur i hi, hik]

section Step

variable {cfg} {f k : Nat} {a b : Agora} {closed : List Nat}
  (h : SweepInv cfg f a b closed) (hk : k < cfg.numDLSyms) (hkc : k ∉ closed)
  (hlen : closed.length + 1 ≤ cfg.numDLSyms)
include h hk hkc hlen

/-- Recording the closure of symbol `k` moves the next symbol to the new prefix
    and releases the TX of the symbols the prefix gained. -/
theorem ifftRecord_spec :
    (b.ifftRecord cfg f k).ifftNextSymbol = prefixLen (closed ++ [k]) cfg.numDLSyms ∧
    (b.ifftRecord cfg f k).ifftCurFrameForSymbol =
      Function.update b.ifftCurFrameForSymbol k (some f) ∧
    (b.ifftRecord cfg f k).counters = b.counters ∧
    TxReleased cfg f a (b.ifftRecord cfg f k) (List.range (prefixLen (closed ++ [k]) cfg.numDLSyms)) := by
  have hmono := prefixLen_le_append closed cfg.numDLSyms k
  have hcur := SweepInv.cur_update cfg h k
  unfold ifftRecord
  dsimp only
  set a1 : Agora :=
    { b with ifftCurFrameForSymbol := Function.update b.ifftCurFrameForSymbol k (some f) }
  have hc1 : a1.getSymbolCount cfg .ifft f = closed.length := h.count
  split_ifs with hnext
  · -- `k` is the first open symbol: the sweep runs from it to the new prefix
    have hkp : k = prefixLen closed cfg.numDLSyms := hnext.trans h.next
    subst hkp
    set p := prefixLen closed cfg.numDLSyms
    set q := prefixLen (closed ++ [p]) cfg.numDLSyms
    obtain ⟨he1, he2, he3⟩ := prefixLen_spec (closed ++ [p]) cfg.numDLSyms
    have hpq : p < q := lt_of_le_of_ne hmono fun heq =>
      he3 (by omega) (List.mem_append_right closed (List.mem_singleton.2 heq.symm))
    have hle := prefixLen_le_length (closed ++ [p]) cfg.numDLSyms
    rw [List.length_append, List.length_singleton] at hle
    obtain ⟨s1, s2, s3, s4⟩ := ifftSweep_spec cfg f (a1.getSymbolCount cfg .ifft f + 1 - p) _ _ a1
      hpq.le (by omega) (by omega)
      (fun i _ hi => (hcur i (by omega)).2 (he2 i hi))
      (fun hlt hm => he3 (by omega) ((hcur _ (by omega)).1 hm))
    refine ⟨by rw [s1]; show b.ifftNextSymbol + _ = _; omega, s2, s3, ?_⟩
    have hr : List.range q = List.range p ++ List.range' p (q - p) := by
      rw [List.range'_eq_map_range, ← List.range_add, Nat.add_sub_cancel' hpq.le]
    rw [hr]
    exact TxReleased.trans (b := a1) ⟨h.released.notes, h.released.txQueue⟩ s4
  · -- `k` is not the first open symbol: nothing is swept
    rw [prefixLen_append_of_ne (h.next ▸ hnext)]
    exact ⟨h.next, rfl, rfl, h.released.notes, h.released.txQueue⟩

/-- A closure that is not the frame's last keeps the invariant. -/
theorem ifftSymbolDone_open (hopen : closed.length + 1 < cfg.numDLSyms) :
    (b.ifftSymbolDone cfg f (cfg.getDLSymbol k)).1 = false ∧
      SweepInv cfg f a (b.ifftSymbolDone cfg f (cfg.getDLSymbol k)).2 (closed ++ [k]) := by
  obtain ⟨r1, r2, r3, r4⟩ := ifftRecord_spec h hk hkc hlen
  have hlast : ((b.ifftRecord cfg f k).completeSymbol cfg .ifft f).1 = false := by
    simp only [completeSymbol, FrameCounters.completeSymbol_fst, r3, h.count, h.max,
      beq_eq_false_iff_ne]
    omega
  simp only [ifftSymbolDone, cfg.getDLSymbolIdx_getDLSymbol hk, hlast, Bool.false_eq_true,
    if_false, true_and]
  refine ⟨r1, fun i hi => ?_, ?_, ?_, r4.notes, r4.txQueue⟩
  · exact r2 ▸ SweepInv.cur_update cfg h k i hi
  · simp [completeSymbol, r3, h.count]
  · simp [completeSymbol, r3, h.max]

/-- The frame's last closure leaves `ifft_next_symbol_` at `0` and releases the
    TX of the new prefix, and nothing after it. -/
theorem ifftSymbolDone_last (hfull : closed.length + 1 = cfg.numDLSyms) :
    (b.ifftSymbolDone cfg f (cfg.getDLSymbol k)).2.ifftNextSymbol = 0 ∧
      TxReleased cfg f a (b.ifftSymbolDone cfg f (cfg.getDLSymbol k)).2
        (List.range (prefixLen (closed ++ [k]) cfg.numDLSyms)) := by
  obtain ⟨-, -, r3, r4⟩ := ifftRecord_spec h hk hkc hlen
  have hlast : ((b.ifftRecord cfg f k).completeSymbol cfg .ifft f).1 = true := by
    simp only [completeSymbol, FrameCounters.completeSymbol_fst, r3, h.count, h.max, hfull,
      beq_self_eq_true]
  simp only [ifftSymbolDone, cfg.getDLSymbolIdx_getDLSymbol hk, hlast, if_true]
  set c := { ((b.ifftRecord cfg f k).completeSymbol cfg .ifft f).2 with ifftNextSymbol := 0 }
  set d := ((b.ifftRecord cfg f k).completeSymbol cfg .ifft f).2
  have h1 := (checkAssert_extends c .proc f).trans
    (checkIncrementScheduleFrame_extends cfg _ f kDownlinkComplete)
  have h2 := checkFrameComplete_extends cfg
    ((c.checkAssert .proc f).checkIncrementScheduleFrame cfg f kDownlinkComplete) f
  exact ⟨h2.ifftNextSymbol.trans h1.ifftNextSymbol,
    (h2.sweepNotes_log.trans h1.sweepNotes_log).trans r4.notes,
    (h2.txQueue.trans h1.txQueue).trans r4.txQueue⟩

end Step

/-- The IFFT closures of the downlink symbols `order` of frame `frameId`, one
    after another. -/
def closeIfftSymbols (frameId : Nat) : List Nat → Agora → Agora
  | [], a => a
  | k :: ks, a => closeIfftSymbols frameId ks (a.ifftSymbolDone cfg frameId (cfg.getDLSymbol k)).2

/-- The run lemma: from the invariant after `closed`, closing the remaining
    symbols `R` keeps the TX released at the closed prefix after every closure
    and ends with `ifft_next_symbol_ = 0`. -/
theorem closeIfftSymbols_spec (f : Nat) (a : Agora) : ∀ (R closed : List Nat) (b : Agora),
    SweepInv cfg f a b closed → (closed ++ R).Perm (List.range cfg.numDLSyms) → R ≠ [] →
    (∀ j, TxReleased cfg f a (closeIfftSymbols cfg f (R.take j) b)
      (List.range (prefixLen (closed ++ R.take j) cfg.numDLSyms))) ∧
    (closeIfftSymbols cfg f R b).ifftNextSymbol = 0
  | [], _, _, _, _, hR => absurd rfl hR
  | k :: R, closed, b, h, hp, _ => by
    have hnd := hp.nodup_iff.2 (List.nodup_range _)
    have hk : k < cfg.numDLSyms := List.mem_range.1 (hp.mem_iff.1 (by simp))
    have hkc : k ∉ closed := fun hm => (List.nodup_append.1 hnd).2.2 hm (List.mem_cons_self k R)
    have hlen := hp.length_eq
    simp only [List.length_append, List.length_cons, List.length_range] at hlen
    -- the closure of `k`, then those of `R`
    have hrest : (∀ j, TxReleased cfg f a (closeIfftSymbols cfg f (R.take j)
          (b.ifftSymbolDone cfg f (cfg.getDLSymbol k)).2)
        (List.range (prefixLen (closed ++ k :: R.take j) cfg.numDLSyms))) ∧
        (closeIfftSymbols cfg f R (b.ifftSymbolDone cfg f (cfg.getDLSymbol k)).2).ifftNextSymbol
          = 0 := by
      cases R with
      | nil =>
        simp only [List.length_nil] at hlen
        obtain ⟨l1, l2⟩ := ifftSymbolDone_last h hk hkc (by omega) (by omega)
        exact ⟨fun j => by simpa [closeIfftSymbols] using l2, l1⟩
      | cons k' R' =>
        simp only [List.length_cons] at hlen
        obtain ⟨-, hi⟩ := ifftSymbolDone_open h hk hkc (by omega) (by omega)
        obtain ⟨ih1, ih2⟩ := closeIfftSymbols_spec f a (k' :: R') (closed ++ [k]) _ hi
          (by simpa using hp) (List.cons_ne_nil _ _)
        exact ⟨fun j => by simpa using ih1 j, ih2⟩
    refine ⟨fun j => ?_, by simpa [closeIfftSymbols] using hrest.2⟩
    cases j with
    | zero => simpa [closeIfftSymbols] using h.released
    | succ j => simpa [closeIfftSymbols] using hrest.1 j

/-- In-order TX release: when the `n = NumDLSyms` downlink symbols of frame `f`
    close their IFFT in any order, each once, from a state where none of them
    has closed and `ifft_next_symbol_ = 0`, then after the first `j` closures
    the TX released is exactly that of the symbols `0 .. p - 1`, in that order,
    where `p` is the length of the closed prefix: the `ScheduleAntennasTX` calls
    and, on the TX queue, one `kPacketTX` event per antenna for each of these
    symbols; no index is read out of range; at the end every symbol's TX has
    been released once, in increasing order, and `ifft_next_symbol_` is `0`
    again. -/
theorem ifftSymbolDone_in_order (a : Agora) (f : Nat) (order : List Nat)
    (horder : order.Perm (List.range cfg.numDLSyms)) (hnext : a.ifftNextSymbol = 0)
    (hfresh : ∀ i < cfg.numDLSyms, a.ifftCurFrameForSymbol i ≠ some f)
    (hcount : (a.counters .ifft).symbolCount (f % cfg.frameWnd) = 0)
    (hmax : (a.counters .ifft).maxSymbolCount = cfg.numDLSyms) :
    (∀ j, TxReleased cfg f a (closeIfftSymbols cfg f (order.take j) a)
      (List.range (prefixLen (order.take j) cfg.numDLSyms))) ∧
    TxReleased cfg f a (closeIfftSymbols cfg f order a) (List.range cfg.numDLSyms) ∧
    (closeIfftSymbols cfg f order a).ifftNextSymbol = 0 := by
  have h0 : prefixLen [] cfg.numDLSyms = 0 := prefixLen_eq (Nat.zero_le _) (by simp) (by simp)
  have hinv : SweepInv cfg f a a [] :=
    ⟨by rw [hnext, h0], fun i hi => by simp [hfresh i hi], hcount, hmax, by rw [h0]; exact .refl a⟩
  -- the run lemma from the empty prefix, or no closure at all
  have hrun : (∀ j, TxReleased cfg f a (closeIfftSymbols cfg f (order.take j) a)
      (List.range (prefixLen (order.take j) cfg.numDLSyms))) ∧
      (closeIfftSymbols cfg f order a).ifftNextSymbol = 0 := by
    cases order with
    | nil => exact ⟨fun _ => by simpa [closeIfftSymbols, h0] using TxReleased.refl a, hnext⟩
    | cons k ks =>
      simpa using closeIfftSymbols_spec cfg f a (k :: ks) [] a hinv (by simpa using horder)
        (List.cons_ne_nil _ _)
  have hfull := hrun.1 order.length
  rw [List.take_length, prefixLen_of_forall fun i hi =>
    horder.mem_iff.2 (List.mem_range.2 hi)] at hfull
  exact ⟨hrun.1, hfull, hrun.2⟩

/-- Two downlink symbols closing in reverse order, from the state the
    constructor leaves. -/
theorem ifftSymbolDone_in_order_reversed :
    let cfg := { Config.oneAntenna with frameSchedule := [.pilot, .dl, .dl] }
    [1, 0].Perm (List.range cfg.numDLSyms) ∧ (init cfg).ifftNextSymbol = 0 ∧
    (∀ i < cfg.numDLSyms, (init cfg).ifftCurFrameForSymbol i ≠ some 0) ∧
    ((init cfg).counters .ifft).symbolCount (0 % cfg.frameWnd) = 0 ∧
    ((init cfg).counters .ifft).maxSymbolCount = cfg.numDLSyms ∧
    ((∀ j, TxReleased cfg 0 (init cfg) (closeIfftSymbols cfg 0 ([1, 0].take j) (init cfg))
      (List.range (prefixLen ([1, 0].take j) cfg.numDLSyms))) ∧
    TxReleased cfg 0 (init cfg) (closeIfftSymbols cfg 0 [1, 0] (init cfg))
      (List.range cfg.numDLSyms) ∧
    (closeIfftSymbols cfg 0 [1, 0] (init cfg)).ifftNextSymbol = 0) :=
  ⟨by decide, rfl, by decide, rfl, rfl,
    ifftSymbolDone_in_order _ _ 0 [1, 0] (by decide) rfl (by decide) rfl rfl⟩

end Agora

end Savannah
