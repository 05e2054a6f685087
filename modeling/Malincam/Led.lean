import Mathlib.Algebra.Group.Nat.Even
import Malincam.V4l2

/-!
# The LED (`Led.c`)

What is written to the brightness node is all that is known of the light. `close` and the error messages
are left out.
-/

namespace Malincam

/-! ## Data -/

def ledBlinkPeriodMs : BitVec 32 := 500

def ledOn : List Char := "255".toList

def ledOff : List Char := "0".toList

/-- The state `g`, and what the node was last written. -/
structure Led where
  enabled : Int
  on : Int
  brightness : List Char

/-- What `open` answers, and `write` to the descriptor. -/
structure LedReplies where
  opened : Except Errno Nat
  written : Except Errno Nat

/-- `open` yields -1 on a failure. -/
def LedReplies.fd (r : LedReplies) : Int :=
  match r.opened with
  | .ok fd => fd
  | .error _ => -1

/-- There is nothing to write to where `open` failed. -/
def LedReplies.len (r : LedReplies) : Int :=
  match r.opened, r.written with
  | .ok _, .ok n => n
  | _, _ => -1

/-! ## Operations -/

/-- The new state is recorded before anything is written. -/
def ledUpdate (r : LedReplies) (on : Int) (g : Led) : Led :=
  if on = g.on then g
  else
    let g := { g with on := on }
    -- The check of `open` is for 0, which is a descriptor, and not for -1.
    if r.fd = 0 then g
    else if r.len ≤ 0 then g
    else { g with brightness := (if on ≠ 0 then ledOn else ledOff).take r.len.toNat }

/-- The light is put on when blinking ends, and off when it begins. -/
def ledBlinkEnable (r : LedReplies) (enabled : Int) (g : Led) : Led :=
  { ledUpdate r (if enabled = 0 then 1 else 0) g with enabled := enabled }

/-- On in every second half second. -/
def ledBlinkState (nowMs : BitVec 32) : Int :=
  (nowMs / ledBlinkPeriodMs &&& 1).toNat

def ledBlinkUpdate (r : LedReplies) (nowMs : BitVec 32) (g : Led) : Led :=
  if g.enabled = 0 then g else ledUpdate r (ledBlinkState nowMs) g

def ledStart (brightness : List Char) : Led := ⟨0, 1, brightness⟩

/-! ## What is recorded -/

section Recorded

variable (r : LedReplies) (g : Led)

@[simp] theorem ledUpdate_on (on : Int) : (ledUpdate r on g).on = on := by
  unfold ledUpdate
  split
  · rename_i hsame
    exact hsame.symm
  · dsimp only
    split
    · rfl
    · split <;> rfl

@[simp] theorem ledUpdate_enabled (on : Int) : (ledUpdate r on g).enabled = g.enabled := by
  unfold ledUpdate
  dsimp only
  split
  · rfl
  · split
    · rfl
    · split <;> rfl

@[simp] theorem ledBlinkEnable_enabled (enabled : Int) :
    (ledBlinkEnable r enabled g).enabled = enabled := rfl

@[simp] theorem ledBlinkEnable_on (enabled : Int) :
    (ledBlinkEnable r enabled g).on = if enabled = 0 then 1 else 0 := by
  simp [ledBlinkEnable]

@[simp] theorem ledBlinkUpdate_enabled (nowMs : BitVec 32) :
    (ledBlinkUpdate r nowMs g).enabled = g.enabled := by
  unfold ledBlinkUpdate
  split <;> simp

theorem ledBlinkUpdate_on (nowMs : BitVec 32) :
    (ledBlinkUpdate r nowMs g).on = if g.enabled = 0 then g.on else ledBlinkState nowMs := by
  unfold ledBlinkUpdate
  split <;> simp

theorem ledBlinkState_binary (nowMs : BitVec 32) : ledBlinkState nowMs = 0 ∨ ledBlinkState nowMs = 1 := by
  unfold ledBlinkState
  have hand : (nowMs / ledBlinkPeriodMs &&& 1).toNat = (nowMs / ledBlinkPeriodMs).toNat % 2 := by
    rw [BitVec.toNat_and]
    exact Nat.and_one_is_mod _
  omega

end Recorded

/-! ## What is shown -/

inductive LedCommand where
  | enable (enabled : Int)
  | update (nowMs : BitVec 32)

abbrev LedCall := LedReplies × LedCommand

def ledCall (g : Led) (c : LedCall) : Led :=
  match c.2 with
  | .enable enabled => ledBlinkEnable c.1 enabled g
  | .update nowMs => ledBlinkUpdate c.1 nowMs g

/-- What a call asks `ledUpdate` for. -/
def LedCommand.asked (g : Led) : LedCommand → Option Int
  | .enable enabled => some (if enabled = 0 then 1 else 0)
  | .update nowMs => if g.enabled = 0 then none else some (ledBlinkState nowMs)

/-- Nothing is written. A descriptor 0 is taken for a failure of `open`. -/
def LedReplies.fails (r : LedReplies) : Bool := r.fd = 0 || r.len ≤ 0

/-- The light is what the record says. -/
def Led.Shown (g : Led) : Prop := g.brightness ≠ ledOff ↔ g.on ≠ 0

/-- The changes that failed since the last one that reached the node, one more after `c`. -/
def missedBy (n : Nat) (g : Led) (c : LedCall) : Nat :=
  match c.2.asked g with
  | none => n
  | some on => if on = g.on then n else if c.1.fails then n + 1 else 0

/-- How many changes of state failed since the last one that did not. -/
def missed : Nat → Led → List LedCall → Nat
  | n, _, [] => n
  | n, g, c :: cs => missed (missedBy n g c) (ledCall g c) cs

theorem take_ledOn {n : Nat} (h : 0 < n) : ledOn.take n ≠ ledOff := by
  cases n with
  | zero => omega
  | succ n => simp [ledOn, ledOff]

theorem take_ledOff {n : Nat} (h : 0 < n) : ledOff.take n = ledOff := by
  cases n with
  | zero => omega
  | succ n => simp [ledOff]

theorem ledUpdate_shown {n : Nat} {g : Led} (r : LedReplies) {on : Int} (hon : g.on = 0 ∨ g.on = 1)
    (hon' : on = 0 ∨ on = 1) (hshown : g.Shown ↔ Even n) :
    (ledUpdate r on g).Shown ↔ Even (if on = g.on then n else if r.fails then n + 1 else 0) := by
  by_cases hsame : on = g.on
  · simpa [ledUpdate, hsame] using hshown
  · have hturned : on ≠ 0 ↔ ¬ g.on ≠ 0 := by omega
    cases hfails : r.fails with
    | true =>
      have hkept : ledUpdate r on g = { g with on := on } := by
        simp only [LedReplies.fails, Bool.or_eq_true, decide_eq_true_eq] at hfails
        simp only [ledUpdate, if_neg hsame]
        rcases hfails with hfd | hlen
        · rw [if_pos hfd]
        · simp [hlen]
      rw [if_neg hsame, if_pos rfl, Nat.even_add_one, ← hshown, hkept]
      unfold Led.Shown
      dsimp only
      tauto
    | false =>
      simp only [LedReplies.fails, Bool.or_eq_false_iff, decide_eq_false_iff_not] at hfails
      obtain ⟨hfd, hlen⟩ := hfails
      have hpos : 0 < r.len.toNat := by omega
      have hwritten : ledUpdate r on g =
          { g with on := on, brightness := (if on ≠ 0 then ledOn else ledOff).take r.len.toNat } := by
        simp only [ledUpdate, if_neg hsame, if_neg hfd, if_neg hlen]
      rw [if_neg hsame, if_neg Bool.false_ne_true, hwritten]
      unfold Led.Shown
      dsimp only
      split
      · rename_i hlit
        simp [take_ledOn hpos, hlit]
      · rename_i hdark
        simp [take_ledOff hpos, hdark]

theorem ledCall_on {g : Led} (c : LedCall) (hon : g.on = 0 ∨ g.on = 1) :
    (ledCall g c).on = 0 ∨ (ledCall g c).on = 1 := by
  obtain ⟨r, command⟩ := c
  cases command with
  | enable enabled =>
    simp only [ledCall, ledBlinkEnable_on]
    split <;> simp
  | update nowMs =>
    simp only [ledCall, ledBlinkUpdate_on]
    split
    · exact hon
    · exact ledBlinkState_binary nowMs

theorem ledCall_shown {n : Nat} {g : Led} (c : LedCall) (hon : g.on = 0 ∨ g.on = 1)
    (hshown : g.Shown ↔ Even n) : (ledCall g c).Shown ↔ Even (missedBy n g c) := by
  obtain ⟨r, command⟩ := c
  cases command with
  | enable enabled =>
    have hasked : (if enabled = 0 then (1 : Int) else 0) = 0 ∨ (if enabled = 0 then (1 : Int) else 0) = 1 := by
      split <;> simp
    exact ledUpdate_shown r hon hasked hshown
  | update nowMs =>
    unfold ledCall missedBy ledBlinkUpdate LedCommand.asked
    dsimp only
    split
    · exact hshown
    · exact ledUpdate_shown r hon (ledBlinkState_binary nowMs) hshown

theorem ledCalls_shown {n : Nat} {g : Led} (cs : List LedCall) (hon : g.on = 0 ∨ g.on = 1)
    (hshown : g.Shown ↔ Even n) : (cs.foldl ledCall g).Shown ↔ Even (missed n g cs) := by
  induction cs generalizing n g with
  | nil => exact hshown
  | cons c cs ih => exact ih (ledCall_on c hon) (ledCall_shown c hon hshown)

/-- After any calls, whichever of them fail: the light is what the record says exactly when the number of
changes that failed since the last one that succeeded is even. The record starts from a light that is on. -/
theorem led_shown_iff_even (brightness : List Char) (cs : List LedCall) :
    (cs.foldl ledCall (ledStart brightness)).Shown ↔
      Even (missed (if brightness = ledOff then 1 else 0) (ledStart brightness) cs) := by
  refine ledCalls_shown cs (Or.inr rfl) ?_
  unfold Led.Shown ledStart
  split <;> simp_all

end Malincam
