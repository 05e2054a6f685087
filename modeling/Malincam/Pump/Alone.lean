import Malincam.Pump.Works

/-!
# The record of a pump is not read

What a pump does next depends on its streams and its accounts, not on what it did before.
-/

open Base

namespace Malincam

abbrev PumpOutcome := Except Abort (PumpState × Int)

def PumpState.withLog (s : PumpState) (log : List PumpEvent) : PumpState := { s with log := log }

/-- An outcome without its record. -/
def forgetLog (r : PumpOutcome) : PumpOutcome :=
  match r with
  | .error e => .error e
  | .ok (s, result) => .ok (s.withLog [], result)

/-- The outcomes for two records differ in the record only. -/
def Forgets (f : PumpState → PumpOutcome) : Prop :=
  ∀ (s : PumpState) (log log' : List PumpEvent),
    forgetLog (f (s.withLog log)) = forgetLog (f (s.withLog log'))

theorem forgetLog_eq {r r' : PumpOutcome} (h : forgetLog r = forgetLog r') :
    (∃ e, r = .error e ∧ r' = .error e) ∨
      ∃ s log result, r = .ok (s, result) ∧ r' = .ok (s.withLog log, result) := by
  cases r with
  | error e =>
    cases r' with
    | error e' =>
      cases h
      exact Or.inl ⟨e, rfl, rfl⟩
    | ok x' => cases h
  | ok x =>
    cases r' with
    | error e' => cases h
    | ok x' =>
      obtain ⟨⟨pump, src, dst, mem, log⟩, result⟩ := x
      obtain ⟨⟨pump', src', dst', mem', log'⟩, result'⟩ := x'
      cases h
      exact Or.inr ⟨_, log', _, rfl, rfl⟩

theorem Forgets.bind {f g : PumpState → PumpOutcome} (hf : Forgets f) (hg : Forgets g) :
    Forgets fun s => f s >>= fun x => if x.2 ≠ 0 then .ok x else g x.1 := by
  intro s log log'
  dsimp only
  rcases forgetLog_eq (hf s log log') with ⟨e, hr, hr'⟩ | ⟨t, logt, result, hr, hr'⟩
  · rw [hr, hr']
  · rw [hr, hr', ok_bind, ok_bind]
    dsimp only
    split
    · rfl
    · exact hg t t.log logt

theorem forgets_returnCompleted (ts : List Turn) : Forgets (returnCompleted ts) := by
  induction ts with
  | nil =>
    intro s log log'
    unfold returnCompleted PumpState.withLog
    cases deviceStreamPullBuffer none s.dst <;> rfl
  | cons t ts ih =>
    intro s log log'
    unfold returnCompleted PumpState.withLog
    dsimp only
    cases deviceStreamPullBuffer (some t.dequeue) s.dst with
    | error e => rfl
    | ok x =>
      obtain ⟨dst, buf⟩ := x
      cases buf with
      | none => rfl
      | some index =>
        simp only [ok_bind]
        cases s.pump.acquiredToSource[index]? with
        | none => rfl
        | some sourceIndex =>
          dsimp only
          split
          · rfl
          · cases deviceStreamPushBuffer t.fault s.src sourceIndex.toNat with
            | error e => rfl
            | ok y =>
              obtain ⟨src, result⟩ := y
              simp only [ok_bind]
              split
              · rfl
              · exact ih { s with
                  src := src
                  dst := dst
                  pump := { s.pump with acquiredToSource := s.pump.acquiredToSource.set index (-1) } } _ _

theorem forgets_returnPending (fault : Option Errno) : Forgets (returnPending fault) := by
  intro s log log'
  unfold returnPending PumpState.withLog
  dsimp only
  split
  · cases deviceStreamPushBuffer fault s.src s.pump.nextInQueue.toNat with
    | error e => rfl
    | ok y =>
      obtain ⟨src, result⟩ := y
      simp only [ok_bind]
      split <;> rfl
  · rfl

theorem forgets_takeNewest (ts : List Turn) : Forgets (takeNewest ts) := by
  induction ts with
  | nil =>
    intro s log log'
    unfold takeNewest PumpState.withLog
    cases deviceStreamPullBuffer none s.src <;> rfl
  | cons t ts ih =>
    intro s log log'
    unfold takeNewest PumpState.withLog
    dsimp only
    cases deviceStreamPullBuffer (some t.dequeue) s.src with
    | error e => rfl
    | ok x =>
      obtain ⟨src, buf⟩ := x
      cases buf with
      | none => rfl
      | some index =>
        simp only [ok_bind]
        have hpending := forgets_returnPending t.fault { s with src := src }
          (log ++ [.dequeued index t.dequeue.report]) (log' ++ [.dequeued index t.dequeue.report])
        unfold PumpState.withLog at hpending
        dsimp only at hpending
        rcases forgetLog_eq hpending with ⟨e, hr, hr'⟩ | ⟨u, logu, result, hr, hr'⟩
        · rw [hr, hr']
        · rw [hr, hr', ok_bind, ok_bind]
          dsimp only
          split
          · rfl
          · exact ih { u with pump := { u.pump with nextInQueue := index } } u.log logu

theorem forgets_handOver (fault : Option Errno) : Forgets (handOver fault) := by
  intro s log log'
  unfold handOver PumpState.withLog
  dsimp only
  split
  · rfl
  · cases queuePeek s.pump.available with
    | none => rfl
    | some item =>
      dsimp only
      cases viewBuffer s.src.dev s.pump.nextInQueue.toNat with
      | none => rfl
      | some sbuf =>
        cases viewBuffer s.dst.dev item.toInt.toNat with
        | none => rfl
        | some dbuf =>
          dsimp only
          cases s.pump.bufferPassFunc.call sbuf dbuf s.pump.planesCount s.mem with
          | error e => rfl
          | ok x =>
            obtain ⟨view, mem, result⟩ := x
            simp only [ok_bind]
            split
            · rfl
            · cases deviceStreamPushBuffer fault
                  ⟨storeBuffer s.dst.dev item.toInt.toNat view, s.dst.held⟩ item.toInt.toNat with
              | error e => rfl
              | ok y =>
                obtain ⟨dst, pushed⟩ := y
                simp only [ok_bind]
                split
                · rfl
                · cases s.pump.acquiredToSource[item.toInt.toNat]? with
                  | none => rfl
                  | some acquired =>
                    dsimp only
                    split <;> rfl

theorem forgets_pumpPump (c : Call) : Forgets (pumpPump c) :=
  (forgets_returnCompleted c.completions).bind
    ((forgets_takeNewest c.frames).bind (forgets_handOver c.dstFault))

end Malincam
