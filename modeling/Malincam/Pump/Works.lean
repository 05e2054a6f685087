import Malincam.Pump.Calls
import Malincam.Pump.Losses

/-!
# Pumps whose calls always return

A pump for one plane that does not copy meets none of the assertions of a pass function. Where both streams
have buffers each of its calls returns, and it leaves the memory of the process alone.
-/

open Base Relation

namespace Malincam

/-! ## Passing -/

/-- The pump meets no assertion of its pass function. -/
structure Unasserting (pump : Pump) : Prop where
  planes : pump.planesCount = 1
  func : pump.bufferPassFunc ≠ .mmapMPToMmapSP

theorem pass_call_unasserting {f : PassFunc} (hf : f ≠ .mmapMPToMmapSP) (src dst : BufferView)
    (mem : Memory) : ∃ dst', f.call src dst 1 mem = .ok (dst', mem, 0) := by
  cases f
  case mmapMPToMmapSP => exact absurd rfl hf
  all_goals exact ⟨_, rfl⟩

theorem handOver_unasserting (fault : Option Errno) {s : PumpState} (h : Unasserting s.pump) :
    Ends (handOver fault s) (fun r => r.1.mem = s.mem) fun e => ¬ PassAssert e := by
  unfold handOver
  split
  · rfl
  · split
    · exact fun he => he.elim Abort.noConfusion Abort.noConfusion
    · dsimp only
      split
      · rename_i sbuf dbuf _ _
        obtain ⟨view, hcall⟩ := pass_call_unasserting h.func sbuf dbuf s.mem
        rw [h.planes, hcall, ok_bind]
        simp only [ne_eq, not_true, if_false]
        have hpush : ∀ st i, Ends (deviceStreamPushBuffer fault st i) (fun _ => True)
            fun e => ¬ PassAssert e := by
          intro st i
          apply (deviceStreamPushBuffer_ends fault st i).mono fun _ _ => trivial
          rintro e rfl he
          exact he.elim Abort.noConfusion Abort.noConfusion
        apply (hpush _ _).bind
        rintro ⟨dst, result⟩ -
        dsimp only
        split
        · rfl
        · split
          · exact fun he => he.elim Abort.noConfusion Abort.noConfusion
          · split
            · exact fun he => he.elim Abort.noConfusion Abort.noConfusion
            · rfl
      · exact fun he => he.elim Abort.noConfusion Abort.noConfusion

/-! ## Calls -/

section Calls

variable {w : Drivers} {n m : Nat} {s s' : PumpState}

theorem Moves.pump (h : Moves w n m s s') :
    s'.pump.planesCount = s.pump.planesCount ∧ s'.pump.bufferPassFunc = s.pump.bufferPassFunc := by
  induction h with
  | refl => exact ⟨rfl, rfl⟩
  | tail _ hmove ih =>
    cases hmove <;> exact ih

theorem Unasserting.moves (h : Unasserting s.pump) (hmoves : Moves w n m s s') :
    Unasserting s'.pump := by
  obtain ⟨hplanes, hfunc⟩ := hmoves.pump
  exact ⟨hplanes.trans h.planes, fun hf => h.func (hfunc ▸ hf)⟩

theorem returnCompleted_mem {ts : List Turn} (h : Tracked n m s) (hm : 0 < m) :
    Ends (returnCompleted ts s) (fun r => r.1.mem = s.mem) fun _ => True := by
  induction ts generalizing s with
  | nil =>
    rw [returnCompleted_nil h hm]
    rfl
  | cons t ts ih =>
    obtain ⟨-, hr⟩ | ⟨d, source, dev, hfin, ⟨e, -, hr⟩ | ⟨-, hr⟩⟩ :=
      returnCompleted_turn (w := anyRefusal) h hm t ts trivial
    · rw [hr]
      rfl
    · rw [hr]
      rfl
    · rw [hr]
      exact ih (h.move (Move.complete (n := n) _ _ _ _ hfin))

theorem takeNewest_mem {ts : List Turn} (h : Tracked n m s) (hn : 0 < n) :
    Ends (takeNewest ts s) (fun r => r.1.mem = s.mem) fun _ => True := by
  induction ts generalizing s with
  | nil =>
    rw [takeNewest_nil h hn]
    rfl
  | cons t ts ih =>
    obtain ⟨-, hr⟩ | ⟨i, dev, htaken, ⟨hnext, hr⟩ | ⟨p, hp, ⟨e, -, hr⟩ | ⟨-, hr⟩⟩⟩ :=
      takeNewest_turn h hn t ts
    · rw [hr]
      rfl
    · rw [hr]
      exact ih (h.move (Move.fetch (w := anyRefusal) (m := m) _ _ _ _ htaken hnext))
    · rw [hr]
      rfl
    · rw [hr]
      exact ih (h.move (Move.replace (w := anyRefusal) (m := m) _ _ _ _ _ htaken hp))

theorem pumpPump_returns (h : Tracked n m s) (hn : 0 < n) (hm : 0 < m)
    (hpump : Unasserting s.pump) {c : Call} (hc : c.Allowed w) :
    ∃ s' result, pumpPump c s = .ok (s', result) ∧ Moves w n m s s' ∧ s'.mem = s.mem := by
  obtain ⟨s₁, result₁, hcomplete, hmoves₁, -⟩ := returnCompleted_drains h hm hc.order hc.completions
  have h₁ := h.moves hmoves₁
  have hmem₁ : s₁.mem = s.mem := (returnCompleted_mem h hm).of_ok hcomplete
  obtain ⟨s₂, result₂, htake, hmoves₂, -⟩ := takeNewest_drains (w := w) h₁ hn hc.frames
  have h₂ := h₁.moves hmoves₂
  have hmem₂ : s₂.mem = s₁.mem := (takeNewest_mem h₁ hn).of_ok htake
  have hmoves := hmoves₁.trans hmoves₂
  simp only [pumpPump, hcomplete, htake, ok_bind]
  split
  · exact ⟨_, _, rfl, hmoves₁, hmem₁⟩
  · split
    · exact ⟨_, _, rfl, hmoves, hmem₂.trans hmem₁⟩
    · have hends := (handOver_moves (w := w) h₂ c.dstFault).and
        (handOver_unasserting c.dstFault (hpump.moves hmoves))
      cases hover : handOver c.dstFault s₂ with
      | error e =>
        rw [hover] at hends
        exact absurd hends.1 hends.2
      | ok r =>
        rw [hover] at hends
        exact ⟨r.1, r.2, rfl, hmoves.trans hends.1, hends.2.trans (hmem₂.trans hmem₁)⟩

end Calls

/-! ## A pump at work -/

/-- The pump between two streams keeps its accounts. Unless the source refuses buffers, each of them is
in one place. -/
structure Works (w : Drivers) (src dst : Stream) (pump : Pump) : Prop where
  tracked : Tracked src.dev.loopCount dst.dev.loopCount (pumpStart pump src dst)
  placed : ¬ w.sourceFails →
    ∀ i, places (pumpStart pump src dst) i = if i < src.dev.loopCount then 1 else 0
  unasserting : Unasserting pump

section Works

variable {w : Drivers} {src dst : Stream} {pump : Pump}

theorem Tracked.of_same {n m : Nat} {s s' : PumpState} (h : Tracked n m s) (hpump : s'.pump = s.pump)
    (hsrc : s'.src = s.src) (hdst : s'.dst = s.dst) : Tracked n m s' := by
  obtain ⟨pump, src, dst, mem, log⟩ := s
  obtain ⟨pump', src', dst', mem', log'⟩ := s'
  subst hpump hsrc hdst
  exact ⟨h.src_indexed, h.dst_indexed, h.available, h.acquired_length, h.next_ge, h.acquired_ge,
    h.places_le, h.dst_nodup, h.dst_lt, h.lent⟩

/-- The source or the destination was granted no buffer. -/
def Unstocked (src dst : DeviceStream) : Prop := src.loopCount = 0 ∨ dst.loopCount = 0

theorem Works.empty (h : Works w src dst pump) (hempty : Unstocked src.dev dst.dev) (c : Call)
    (mem : Memory) (log : List PumpEvent) :
    pumpPump c ⟨pump, src, dst, mem, log⟩ = .error .outOfBounds := by
  have htracked : Tracked src.dev.loopCount dst.dev.loopCount ⟨pump, src, dst, mem, log⟩ :=
    h.tracked.of_same rfl rfl rfl
  exact pumpPump_empty htracked hempty c

theorem Works.call (h : Works w src dst pump) (hstocked : ¬ Unstocked src.dev dst.dev) {c : Call}
    (hc : c.Allowed w) (mem : Memory) (log : List PumpEvent) :
    ∃ s result, pumpPump c ⟨pump, src, dst, mem, log⟩ = .ok (s, result) ∧
      Works w s.src s.dst s.pump ∧ s.mem = mem := by
  have htracked : Tracked src.dev.loopCount dst.dev.loopCount ⟨pump, src, dst, mem, log⟩ :=
    h.tracked.of_same rfl rfl rfl
  obtain ⟨hn, hm⟩ : 0 < src.dev.loopCount ∧ 0 < dst.dev.loopCount := by
    unfold Unstocked at hstocked
    omega
  obtain ⟨s, result, hcall, hmoves, hmem⟩ := pumpPump_returns htracked hn hm h.unasserting hc
  have hs := htracked.moves hmoves
  refine ⟨s, result, hcall, ⟨?_, ?_, h.unasserting.moves hmoves⟩, hmem⟩
  · rw [hs.src_indexed.count, hs.dst_indexed.count]
    exact hs.of_same rfl rfl rfl
  · intro hfails i
    have hsame : ∀ s', Moves w src.dev.loopCount dst.dev.loopCount ⟨pump, src, dst, mem, log⟩ s' →
        places s' i = places (pumpStart pump src dst) i := by
      intro s' hs'
      induction hs' with
      | refl => rfl
      | tail hprefix hlast ih =>
        rw [((htracked.moves hprefix).places_move hlast i).2 hfails]
        exact ih
    rw [hs.src_indexed.count]
    exact (hsame s hmoves).trans (h.placed hfails i)

theorem Connected.works {n m : Nat} (h : Connected n m src dst pump) (hpump : Unasserting pump) :
    Works w src dst pump := by
  have hn := h.src_indexed.count
  have hm := h.dst_indexed.count
  subst hn hm
  exact ⟨h.tracked, fun _ => h.places, hpump⟩

end Works

end Malincam
