import Malincam.Base.Ring
import Malincam.Pump.Calls
import Malincam.Pump.Conservation

/-!
# The queue of idle destination buffers

`available` is meant to hold the destination buffers that are not acquired. A pop leaves its size as
it is, and no returned buffer is pushed, so it holds all of them all the time. The accounts are right
only as long as no frame has come in.
-/

open Base

namespace Malincam

def availableItems (q : Queue (BitVec 32)) : List Nat :=
  (window q.data.capacity q.front q.data.size).map fun i => (slotItem q i).toInt.toNat

/-- The queue holds each destination buffer that is not acquired once, and no other. -/
def Accounted (s : PumpState) : Prop :=
  ∀ d, (availableItems s.pump.available).count d =
    if s.pump.acquiredToSource[d]? = some (-1) then 1 else 0

/-- All `m` destination buffers are held, and none of them is done during the call. -/
def AllStayHeld (m : Nat) (c : Call) (s : PumpState) : Prop :=
  s.dst.held.Perm (List.range m) ∧ ∀ t ∈ c.completions.head?, m ≤ t.dequeue.pick

/-- The pending buffer after these events, if none of them delivers it. -/
def newestPending (next : Int) (events : List PumpEvent) : Int :=
  events.foldl (fun next e => match e with | .dequeued i _ => (i : Int) | _ => next) next

/-- The call keeps the newest frame pending and does not touch the destination. A `QBUF` would be
refused, as all buffers are held, and the call would return its error. -/
structure BackPressure (s s' : PumpState) (result : Int) : Prop where
  result : result = 0
  pending : ∀ events, s'.log = s.log ++ events →
    s'.pump.nextInQueue = newestPending s.pump.nextInQueue events
  held : s'.dst.held = s.dst.held
  records : s'.dst.dev = s.dst.dev

/-- In all states of a run the accounts are right, and a full destination is not offered another frame. -/
structure KeepsAccounts (m : Nat) (s : PumpState) (calls : List Call) : Prop where
  accounted : ∀ t, Passes pumpStep s calls t → Accounted t
  backPressure : ∀ pre c t t' result, pre ++ [c] <+: calls → run pumpStep s pre = .ok t →
    pumpPump c t = .ok (t', result) → AllStayHeld m c t → BackPressure t t' result

/-- No `QBUF` fails, unless the buffer is queued already. -/
structure Call.Reliable (c : Call) : Prop where
  allowed : c.Allowed anyOrder
  dest : c.dstFault = none

/-- The first `DQBUF` on a source with `n` buffers fails. -/
def SourceSilent (n : Nat) (c : Call) : Prop := ∀ t ∈ c.frames.head?, n ≤ t.dequeue.pick

section Accounts

variable {n m : Nat} {s s' : PumpState}

theorem AllAvailable.availableItems {q : Queue (BitVec 32)} (h : AllAvailable m q)
    (hbound : m < 2 ^ 31) : (availableItems q).Perm (List.range m) := by
  have hitems : Malincam.availableItems q = window m q.front m := by
    rw [Malincam.availableItems, h.size, h.capacity, List.map_congr_left, List.map_id]
    intro i hi
    have hlt : i < m := by
      obtain ⟨j, hj, rfl⟩ := mem_window.mp hi
      exact Nat.mod_lt _ (by omega)
    have : (BitVec.ofNat 32 i).toInt = i :=
      (BitVec.toInt_ofNat' ..).trans (Int.bmod_eq_of_le (by omega) (by omega))
    rw [h.slots i hlt, this]
    exact Int.toNat_natCast i
  rw [hitems]
  exact window_full

theorem accounted_iff (h : Tracked n m s) : Accounted s ↔ s.dst.held = [] := by
  have hbound : m < 2 ^ 31 := h.dst_indexed.count ▸ loopCount_lt _
  have hcount : ∀ d, (availableItems s.pump.available).count d = if d < m then 1 else 0 := by
    intro d
    rw [(h.available.availableItems hbound).count_eq, List.count_range]
  constructor
  · intro hacc
    rw [List.eq_nil_iff_forall_not_mem]
    intro d hd
    have hdm := h.dst_lt d hd
    have hone := hacc d
    rw [hcount, if_pos hdm] at hone
    by_cases hfree : s.pump.acquiredToSource[d]? = some (-1)
    · have := (h.lent d (-1) hfree).mpr hd
      omega
    · rw [if_neg hfree] at hone
      omega
  · intro hheld d
    rw [hcount]
    by_cases hdm : d < m
    · rw [if_pos hdm, if_pos (h.acquired_free (by simp [hheld]) hdm)]
    · rw [if_neg hdm, List.getElem?_eq_none (by rw [h.acquired_length]; omega), if_neg (by simp)]

/-- A pump that was just connected. -/
structure Fresh (n m : Nat) (s : PumpState) : Prop where
  tracked : Tracked n m s
  src_held : s.src.held.length = n
  dst_held : s.dst.held = []
  next : s.pump.nextInQueue < 0

theorem Connected.fresh {src dst : Stream} {pump : Pump} (h : Connected n m src dst pump) :
    Fresh n m (pumpStart pump src dst) where
  tracked := h.tracked
  src_held := by rw [pumpStart, h.src_held.length_eq, List.length_range]
  dst_held := h.dst_held
  next := by rw [pumpStart, h.pump_eq.1]; omega

theorem returnCompleted_fresh (h : Fresh n m s) (hm : 0 < m) (ts : List Turn) :
    returnCompleted ts s = .ok (s, 0) := by
  cases ts with
  | nil => exact returnCompleted_nil h.tracked hm
  | cons t ts =>
    unfold returnCompleted
    obtain ⟨-, hpull⟩ | ⟨d, -, hd, -⟩ :=
      deviceStreamPullBuffer_cases h.tracked.dst_indexed hm h.tracked.dst_lt t.dequeue
    · rw [hpull]
      rfl
    · simp [h.dst_held] at hd

theorem takeNewest_silent (h : Fresh n m s) (hn : 0 < n) {ts : List Turn}
    (hsilent : ∀ t ∈ ts.head?, n ≤ t.dequeue.pick) : takeNewest ts s = .ok (s, 0) := by
  cases ts with
  | nil => exact takeNewest_nil h.tracked hn
  | cons t ts =>
    unfold takeNewest
    obtain ⟨-, hpull⟩ | ⟨i, -, hi, -⟩ :=
      deviceStreamPullBuffer_cases h.tracked.src_indexed hn h.tracked.src_lt t.dequeue
    · rw [hpull]
      rfl
    · have hlt := (List.getElem?_eq_some_iff.mp hi).1
      have := hsilent t rfl
      rw [h.src_held] at hlt
      omega

theorem pumpStep_silent (h : Fresh n m s) (hm : 0 < m) {c : Call} (hsilent : SourceSilent n c)
    (hstep : pumpStep s c = .ok s') : s' = s := by
  rcases Nat.eq_zero_or_pos n with rfl | hn
  · rw [pumpStep, pumpPump_empty h.tracked (Or.inl rfl)] at hstep
    cases hstep
  · rw [pumpStep, pumpPump, returnCompleted_fresh h hm] at hstep
    simp only [bind, Except.bind, ne_eq, not_true, if_false, takeNewest_silent h hn hsilent,
      handOver_idle c.dstFault h.next] at hstep
    exact (Except.ok.inj hstep).symm

theorem returnPending_frame {fault : Option Errno} {result : Int}
    (h : returnPending fault s = .ok (s', result)) : s'.dst = s.dst ∧ s'.pump = s.pump := by
  unfold returnPending at h
  split at h
  · obtain ⟨⟨src, result'⟩, -, h⟩ := bind_eq_ok h
    dsimp only at h
    split at h <;>
    · cases h
      exact ⟨rfl, rfl⟩
  · cases h
    exact ⟨rfl, rfl⟩

theorem takeNewest_frame {ts : List Turn} {result : Int} (h : takeNewest ts s = .ok (s', result)) :
    s'.dst = s.dst ∧ (0 ≤ s.pump.nextInQueue → 0 ≤ s'.pump.nextInQueue) := by
  induction ts generalizing s with
  | nil =>
    obtain ⟨⟨src, buf⟩, -, h⟩ := bind_eq_ok h
    cases h
    exact ⟨rfl, id⟩
  | cons t ts ih =>
    unfold takeNewest at h
    obtain ⟨⟨src, buf⟩, -, h⟩ := bind_eq_ok h
    cases buf with
    | none =>
      cases h
      exact ⟨rfl, id⟩
    | some index =>
      obtain ⟨⟨s₁, result₁⟩, hpending, h⟩ := bind_eq_ok h
      obtain ⟨hdst, hpump⟩ := returnPending_frame hpending
      dsimp only at h
      split at h
      · cases h
        exact ⟨hdst, hpump ▸ id⟩
      · obtain ⟨hdst', hnext⟩ := ih h
        exact ⟨hdst'.trans hdst, fun _ => hnext (Int.natCast_nonneg index)⟩

theorem takeNewest_first (h : Fresh n m s) {t : Turn} {ts : List Turn} {result : Int}
    (hpick : t.dequeue.pick < n) (htake : takeNewest (t :: ts) s = .ok (s', result)) :
    s'.dst = s.dst ∧ 0 ≤ s'.pump.nextInQueue := by
  unfold takeNewest at htake
  obtain ⟨hnone, -⟩ | ⟨i, dev, -, hpull, -⟩ :=
    deviceStreamPullBuffer_cases h.tracked.src_indexed (by omega) h.tracked.src_lt t.dequeue
  · rw [List.getElem?_eq_none_iff, h.src_held] at hnone
    omega
  · have hnext := h.next
    rw [hpull] at htake
    simp only [bind, Except.bind, returnPending,
      if_neg (by omega : ¬ s.pump.nextInQueue ≥ 0)] at htake
    obtain ⟨hdst, hge⟩ := takeNewest_frame htake
    exact ⟨hdst, hge (Int.natCast_nonneg i)⟩

theorem pumpStep_frame (h : Fresh n m s) (hm : 0 < m) {c : Call} (hc : c.Reliable)
    (hframe : ¬ SourceSilent n c) (hstep : pumpStep s c = .ok s') : s'.dst.held ≠ [] := by
  obtain ⟨t, ts, hframes, hpick⟩ : ∃ t ts, c.frames = t :: ts ∧ t.dequeue.pick < n := by
    cases hf : c.frames with
    | nil => simp [SourceSilent, hf] at hframe
    | cons t ts => exact ⟨t, ts, rfl, by simpa [SourceSilent, hf] using hframe⟩
  obtain ⟨s₂, result, htake, hmoves, hzero⟩ :=
    takeNewest_drains (w := anyOrder) h.tracked (by omega) hc.allowed.frames
  have ht := h.tracked.moves hmoves
  obtain ⟨hdst, hnext⟩ := takeNewest_first h hpick (hframes ▸ htake)
  obtain ⟨p, hp⟩ := Int.eq_ofNat_of_zero_le hnext
  have hheld : s₂.dst.held = [] := by rw [hdst, h.dst_held]
  obtain rfl : result = 0 := not_not.mp hzero
  simp only [pumpStep, pumpPump, returnCompleted_fresh h hm, htake, bind, Except.bind, ne_eq, not_true,
    if_false] at hstep
  obtain ⟨e, hover, -⟩ | ⟨dev, mem, -, ⟨hwhy, -⟩ | ⟨-, -, hover⟩⟩ :=
    handOver_pending ht c.dstFault hm hp
  · rw [hover] at hstep
    simp at hstep
  · simp [hheld, hc.dest] at hwhy
  · rw [hover] at hstep
    cases hstep
    simp [delivered, hheld]

end Accounts

/-! ## Every run -/

section Runs

variable {n m : Nat} {s t : PumpState} {calls : List Call}

theorem passes_silent (h : Fresh n m s) (hm : 0 < m) (hsilent : ∀ c ∈ calls, SourceSilent n c)
    (hpass : Passes pumpStep s calls t) : t = s := by
  obtain ⟨pre, hpre, hrun⟩ := hpass
  have hstep : ∀ u c u', u = s → SourceSilent n c → pumpStep u c = .ok u' → u' = s := by
    rintro u c u' rfl hc hu'
    exact pumpStep_silent h hm hc hu'
  exact run_keeps hstep rfl (fun c hc => hsilent c (hpre.subset hc)) hrun

theorem silent_of_accounted (h : Fresh n m s) (hm : 0 < m) (hcalls : ∀ c ∈ calls, c.Reliable)
    (hrun : run pumpStep s calls = .ok t) (hacc : ∀ t, Passes pumpStep s calls t → Accounted t) :
    ∀ c ∈ calls, SourceSilent n c := by
  induction calls with
  | nil => simp
  | cons c calls ih =>
    rw [List.forall_mem_cons] at hcalls ⊢
    obtain ⟨s₁, hstep, hrest⟩ := bind_eq_ok hrun
    by_cases hsilent : SourceSilent n c
    · obtain rfl := pumpStep_silent h hm hsilent hstep
      refine ⟨hsilent, ih hcalls.2 hrest fun t ht => hacc t ?_⟩
      exact (passes_cons hstep).mpr (Or.inr ht)
    · have hs₁ := hacc s₁ ((passes_cons hstep).mpr (Or.inr (Passes.first _ _)))
      have ht₁ : Tracked n m s₁ :=
        h.tracked.moves ((pumpStep_moves h.tracked hcalls.1.allowed).of_ok hstep)
      exact absurd ((accounted_iff ht₁).mp hs₁) (pumpStep_frame h hm hcalls.1 hsilent hstep)

/-- A run of calls keeps the accounts exactly as long as no call dequeues a frame. -/
theorem pump_accounts_iff {src dst : Stream} {pump : Pump} (hm : 0 < m)
    (h : Connected n m src dst pump) (hcalls : ∀ c ∈ calls, c.Reliable)
    (hrun : run pumpStep (pumpStart pump src dst) calls = .ok t) :
    KeepsAccounts m (pumpStart pump src dst) calls ↔ ∀ c ∈ calls, SourceSilent n c := by
  have hfresh := h.fresh
  constructor
  · intro hkeeps
    exact silent_of_accounted hfresh hm hcalls hrun hkeeps.accounted
  · intro hsilent
    constructor
    · intro t ht
      rw [passes_silent hfresh hm hsilent ht]
      exact (accounted_iff hfresh.tracked).mpr hfresh.dst_held
    · rintro pre c t t' result hpre hpre_run - hheld
      -- No destination buffer is ever held, so none stay held.
      have hpass : Passes pumpStep (pumpStart pump src dst) calls t :=
        ⟨pre, (List.prefix_append pre [c]).trans hpre, hpre_run⟩
      have hlen := hheld.1.length_eq
      rw [passes_silent hfresh hm hsilent hpass, hfresh.dst_held, List.length_range] at hlen
      exact absurd hlen (by simpa using Nat.ne_of_lt hm)

end Runs

theorem pump_accounts_iff_frame :
    ∃ t, run pumpStep (pumpStart (plainPump 2) (plainSource 2) (plainDest 2))
        (plainCalls [([], [0]), ([], [])]) = .ok t ∧
      (KeepsAccounts 2 (pumpStart (plainPump 2) (plainSource 2) (plainDest 2))
          (plainCalls [([], [0]), ([], [])]) ↔
        ∀ c ∈ plainCalls [([], [0]), ([], [])], SourceSilent 2 c) :=
  ⟨_, rfl, pump_accounts_iff (by decide) (connected_plain (by decide) (by decide))
    (fun c hc => ⟨allowed_plainCalls (fun _ _ _ _ => trivial) c hc, by
      obtain ⟨_, -, rfl⟩ := List.mem_map.mp hc
      rfl⟩) rfl⟩

/-- A frame is delivered, and the next one comes in while the only destination buffer is in use. The
queue still offers that buffer, and the call returns `EINVAL`. -/
theorem pump_offers_held_buffer :
    ∃ t t', run pumpStep (pumpStart (plainPump 1) (plainSource 2) (plainDest 1))
        (plainCalls [([], [0])]) = .ok t ∧
      t.dst.held = [0] ∧ availableItems t.pump.available = [0] ∧ ¬ Accounted t ∧
      pumpPump ⟨[], [plainTurn 0], none⟩ t = .ok (t', 22) ∧
      AllStayHeld 1 ⟨[], [plainTurn 0], none⟩ t ∧ ¬ BackPressure t t' 22 := by
  refine ⟨_, _, rfl, rfl, rfl, ?_, rfl, ?_, ?_⟩
  · intro hacc
    have hzero := hacc 0
    revert hzero
    decide
  · exact ⟨List.Perm.refl _, by simp⟩
  · intro h
    have hresult := h.result
    revert hresult
    decide

end Malincam
