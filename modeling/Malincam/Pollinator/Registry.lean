import Mathlib.Data.List.NodupEquivFin
import Malincam.Base.Run
import Malincam.Pollinator

/-!
# The slots of a pollinator and the interest set

Slots are marked free, reused and moved, while the kernel keeps their indices. In every state the two
sides name the same descriptors, and each index leads to the slot of its descriptor.
-/

open Base

namespace Malincam

/-! ## Registrations -/

abbrev Registrations := BitVec 32 → Option PollinatorMonitorFd

/-- What a call of `pollinatorMonitorFd` should make of them. -/
def Registrations.record (live : Registrations) (reg : PollinatorMonitorFd) : Registrations :=
  fun fd => if fd = reg.fd then (if reg.eventBits = 0 then none else some reg) else live fd

section Record

variable {live : Registrations} {reg : PollinatorMonitorFd} {fd : BitVec 32}

theorem record_on (h : reg.eventBits ≠ 0) : live.record reg reg.fd = some reg := by
  rw [Registrations.record, if_pos rfl, if_neg h]

theorem record_off (h : reg.eventBits = 0) : live.record reg reg.fd = none := by
  rw [Registrations.record, if_pos rfl, if_pos h]

theorem record_ne (h : fd ≠ reg.fd) : live.record reg fd = live fd := if_neg h

theorem put_self (interest : Interest) (event : Option EpollEvent) :
    interest.put fd event fd = event := if_pos rfl

theorem put_ne (interest : Interest) (event : Option EpollEvent) (h : fd ≠ reg.fd) :
    interest.put reg.fd event fd = interest fd := if_neg h

end Record

/-- What is in force after these calls: the last one decides. -/
def registrations (regs : List PollinatorMonitorFd) : Registrations :=
  regs.foldl Registrations.record fun _ => none

/-- Slots, interest set and registrations agree. -/
structure Registered (live : Registrations) (p : Pollinator) : Prop where
  -- A slot in use holds a registration, and the kernel knows its index.
  slot : ∀ (i : Nat) (s : PollinatorFd), (items p.fds)[i]? = some s → 0 ≤ s.fd.toInt →
    ∃ reg, live s.fd = some reg ∧ s = reg.toFd ∧
      p.interest s.fd = some ⟨epollEvents reg.eventBits, BitVec.ofNat 32 i⟩
  live_slot : ∀ fd reg, live fd = some reg →
    0 ≤ fd.toInt ∧ ∃ (i : Nat) (s : PollinatorFd), (items p.fds)[i]? = some s ∧ s.fd = fd
  interest : ∀ fd, (p.interest fd).isSome ↔ (live fd).isSome
  -- There are no more slots than descriptors, so an index fits an `int`.
  size_le : p.fds.size ≤ 2 ^ 31

theorem registered_pollinatorCreate : Registered (fun _ => none) pollinatorCreate where
  slot i s hs := by simp [pollinatorCreate] at hs
  live_slot fd reg h := by cases h
  interest fd := by simp [pollinatorCreate]
  size_le := by simp [pollinatorCreate, arrayInit]

/-! ## Looking for a slot -/

section Lookup

variable {p : Pollinator} {fd : BitVec 32}

theorem findPfd_some {i : Nat} (h : findPfd p fd = some i) :
    i < p.fds.size ∧ (arrayAt p.fds i).fd = fd := by
  obtain ⟨hfd, hi, -⟩ := List.find?_range_eq_some.mp h
  exact ⟨List.mem_range.mp hi, of_decide_eq_true hfd⟩

theorem findPfd_none (h : findPfd p fd = none) {i : Nat} {s : PollinatorFd}
    (hs : (items p.fds)[i]? = some s) : s.fd ≠ fd := by
  rw [getElem?_items] at hs
  split at hs
  · have hne := List.find?_range_eq_none.mp h i (by assumption)
    obtain rfl := Option.some.inj hs
    simpa using hne
  · simp at hs

theorem allocPfd_spec (p : Pollinator) :
    (allocPfd p).1.interest = p.interest ∧ (allocPfd p).2 < (allocPfd p).1.fds.size ∧
      (∀ j : Nat, j ≠ (allocPfd p).2 → (items (allocPfd p).1.fds)[j]? = (items p.fds)[j]?) ∧
      (∀ s, (items p.fds)[(allocPfd p).2]? = some s → s.fd.toInt < 0) ∧
      ((allocPfd p).1.fds.size = p.fds.size ∨
        (allocPfd p).1.fds.size = p.fds.size + 1 ∧
          ∀ (i : Nat) (s : PollinatorFd), (items p.fds)[i]? = some s → 0 ≤ s.fd.toInt) := by
  unfold allocPfd
  cases hfind : (List.range p.fds.size).find? fun i => (arrayAt p.fds i).fd.toInt < 0 with
  | some i =>
    obtain ⟨hneg, hi, -⟩ := List.find?_range_eq_some.mp hfind
    refine ⟨rfl, List.mem_range.mp hi, fun _ _ => rfl, ?_, Or.inl rfl⟩
    intro s hs
    rw [getElem?_items, if_pos (List.mem_range.mp hi)] at hs
    obtain rfl := Option.some.inj hs
    exact of_decide_eq_true hneg
  | none =>
    obtain ⟨x, hx⟩ := items_arrayAppend_none p.fds
    refine ⟨rfl, by simp, ?_, ?_, Or.inr ⟨by simp, ?_⟩⟩
    · intro j hj
      simp only [snd_arrayAppend] at hj
      rw [hx, List.getElem?_append]
      split
      · rfl
      · rename_i hge
        rw [length_items] at hge
        rw [List.getElem?_eq_none (by simp; omega), List.getElem?_eq_none (by simp; omega)]
    · intro s hs
      simp only [snd_arrayAppend] at hs
      rw [getElem?_items, if_neg (by omega)] at hs
      simp at hs
    · intro i s hs
      rw [getElem?_items] at hs
      split at hs
      · have hge := List.find?_range_eq_none.mp hfind i (by assumption)
        obtain rfl := Option.some.inj hs
        simpa using hge
      · simp at hs

end Lookup

/-! ## One call -/

section Step

variable {live : Registrations} {p : Pollinator} {reg : PollinatorMonitorFd}

theorem toNat_ofNat_index {i : Nat} (h : i < 2 ^ 31) : (BitVec.ofNat 32 i).toNat = i := by
  rw [BitVec.toNat_ofNat]
  omega

theorem Registered.unique (h : Registered live p) {i j : Nat} {s t : PollinatorFd}
    (hi : (items p.fds)[i]? = some s) (hj : (items p.fds)[j]? = some t) (hfd : s.fd = t.fd)
    (hge : 0 ≤ s.fd.toInt) : i = j := by
  obtain ⟨reg, hlive, -, hs⟩ := h.slot i s hi hge
  obtain ⟨reg', hlive', -, ht⟩ := h.slot j t hj (hfd ▸ hge)
  have hsize := h.size_le
  have hilt := (List.getElem?_eq_some_iff.mp hi).1
  have hjlt := (List.getElem?_eq_some_iff.mp hj).1
  rw [length_items] at hilt hjlt
  rw [hfd, ht] at hs
  have hdata := congrArg (fun e => e.data.toNat) (Option.some.inj hs)
  simp only [toNat_ofNat_index (show i < 2 ^ 31 by omega),
    toNat_ofNat_index (show j < 2 ^ 31 by omega)] at hdata
  exact hdata.symm

theorem Registered.write {q : Pollinator} {i : Nat} (h : Registered live p)
    (hreg : 0 ≤ reg.fd.toInt) (hbits : reg.eventBits ≠ 0) (hint : q.interest = p.interest)
    (hi : i < q.fds.size) (hsize : q.fds.size ≤ 2 ^ 31)
    (hold : ∀ j : Nat, j ≠ i → (items q.fds)[j]? = (items p.fds)[j]?)
    (hfree : ∀ s, (items p.fds)[i]? = some s → s.fd = reg.fd ∨ s.fd.toInt < 0)
    (hother : ∀ (j : Nat) (s : PollinatorFd), j ≠ i → (items p.fds)[j]? = some s → s.fd ≠ reg.fd) :
    Registered (live.record reg)
      { fds := arraySet q.fds i reg.toFd
        interest := q.interest.put reg.fd
          (some ⟨epollEvents reg.eventBits, BitVec.ofNat 32 i⟩) } where
  slot j s hs hge := by
    rw [items_arraySet, List.getElem?_set] at hs
    split at hs
    · rename_i hij
      subst hij
      rw [if_pos (by simpa using hi)] at hs
      obtain rfl := Option.some.inj hs
      exact ⟨reg, record_on hbits, rfl, put_self _ _⟩
    · rename_i hij
      rw [hold j (Ne.symm hij)] at hs
      have hne := hother j s (Ne.symm hij) hs
      dsimp only
      rw [record_ne hne, put_ne _ _ hne, hint]
      exact h.slot j s hs hge
  live_slot fd reg' hlive := by
    by_cases hfd : fd = reg.fd
    · subst hfd
      refine ⟨hreg, i, reg.toFd, ?_, rfl⟩
      rw [items_arraySet, List.getElem?_set_self (by simpa using hi)]
    · rw [record_ne hfd] at hlive
      obtain ⟨hge, j, s, hs, hsfd⟩ := h.live_slot fd reg' hlive
      have hij : j ≠ i := by
        rintro rfl
        rcases hfree s hs with heq | hneg
        · exact hfd (hsfd ▸ heq)
        · rw [hsfd] at hneg
          omega
      refine ⟨hge, j, s, ?_, hsfd⟩
      rw [items_arraySet, List.getElem?_set_ne (Ne.symm hij), hold j hij, hs]
  interest fd := by
    dsimp only
    by_cases hfd : fd = reg.fd
    · rw [hfd, record_on hbits, put_self]
      simp
    · rw [record_ne hfd, put_ne _ _ hfd, hint]
      exact h.interest fd
  size_le := by simpa using hsize

theorem Registered.free {i : Nat} (h : Registered live p) (hbits : reg.eventBits = 0)
    (hreg : 0 ≤ reg.fd.toInt) {s : PollinatorFd} (hs : (items p.fds)[i]? = some s)
    (hsfd : s.fd = reg.fd) :
    Registered (live.record reg)
      { fds := arraySet p.fds i { s with fd := -1 }, interest := p.interest.put reg.fd none } where
  slot j t ht hge := by
    rw [items_arraySet, List.getElem?_set] at ht
    split at ht
    · split at ht
      · obtain rfl := Option.some.inj ht
        revert hge
        simp
      · simp at ht
    · rename_i hij
      have hne : t.fd ≠ reg.fd := fun heq => hij (h.unique hs ht (hsfd.trans heq.symm) (hsfd ▸ hreg))
      dsimp only
      rw [record_ne hne, put_ne _ _ hne]
      exact h.slot j t ht hge
  live_slot fd reg' hlive := by
    by_cases hfd : fd = reg.fd
    · rw [hfd, record_off hbits] at hlive
      simp at hlive
    · rw [record_ne hfd] at hlive
      obtain ⟨hge, j, t, ht, htfd⟩ := h.live_slot fd reg' hlive
      have hij : i ≠ j := by
        rintro rfl
        rw [hs] at ht
        obtain rfl := Option.some.inj ht
        exact hfd (htfd.symm.trans hsfd)
      refine ⟨hge, j, t, ?_, htfd⟩
      rw [items_arraySet, List.getElem?_set_ne hij, ht]
  interest fd := by
    dsimp only
    by_cases hfd : fd = reg.fd
    · rw [hfd, record_off hbits, put_self]
      simp
    · rw [record_ne hfd, put_ne _ _ hfd]
      exact h.interest fd
  size_le := by simpa using h.size_le

theorem Registered.size_lt (h : Registered live p) (hreg : 0 ≤ reg.fd.toInt)
    (hused : ∀ (i : Nat) (s : PollinatorFd), (items p.fds)[i]? = some s → 0 ≤ s.fd.toInt)
    (hnew : ∀ (i : Nat) (s : PollinatorFd), (items p.fds)[i]? = some s → s.fd ≠ reg.fd) :
    p.fds.size < 2 ^ 31 := by
  let fds := reg.fd :: (items p.fds).map (·.fd)
  have hget : ∀ (i : Nat) (fd : BitVec 32), ((items p.fds).map (·.fd))[i]? = some fd →
      ∃ s : PollinatorFd, (items p.fds)[i]? = some s ∧ s.fd = fd := by
    intro i fd hfd
    rw [List.getElem?_map] at hfd
    exact Option.map_eq_some_iff.mp hfd
  have hnodup : fds.Nodup := by
    refine List.nodup_cons.mpr ⟨fun hmem => ?_, List.nodup_iff_getElem?_ne_getElem?.mpr ?_⟩
    · obtain ⟨i, hi⟩ := List.getElem?_of_mem hmem
      obtain ⟨s, hs, hfd⟩ := hget i _ hi
      exact hnew i s hs hfd
    · intro i j hij hj heq
      obtain ⟨s, hs, hsfd⟩ := hget i _ (heq.trans (List.getElem?_eq_getElem hj))
      obtain ⟨t, ht, htfd⟩ := hget j _ (List.getElem?_eq_getElem hj)
      have := h.unique hs ht (hsfd.trans htfd.symm) (hused i s hs)
      omega
  have hge : ∀ fd ∈ fds, fd.toNat < 2 ^ 31 := by
    have htoNat : ∀ fd : BitVec 32, 0 ≤ fd.toInt → fd.toNat < 2 ^ 31 := by
      intro fd hfd
      rw [BitVec.toInt_eq_toNat_cond] at hfd
      split at hfd <;> omega
    refine List.forall_mem_cons.mpr ⟨htoNat _ hreg, fun fd hmem => htoNat _ ?_⟩
    obtain ⟨i, hi⟩ := List.getElem?_of_mem hmem
    obtain ⟨s, hs, hfd⟩ := hget i _ hi
    exact hfd ▸ hused i s hs
  -- Distinct descriptors that fit an `int` are at most `2 ^ 31`.
  have hsub : (fds.map BitVec.toNat).Subperm (List.range (2 ^ 31)) := by
    apply List.subperm_of_subset (hnodup.map_on fun a _ b _ hab => BitVec.eq_of_toNat_eq hab)
    intro k hk
    obtain ⟨fd, hfd, rfl⟩ := List.mem_map.mp hk
    exact List.mem_range.mpr (hge fd hfd)
  have hlen := hsub.length_le
  rw [List.length_map, List.length_range] at hlen
  simp only [fds, List.length_cons, List.length_map, length_items] at hlen
  omega

theorem Registered.monitor (h : Registered live p) (hreg : 0 ≤ reg.fd.toInt) :
    ∃ p', pollinatorMonitorFd reg p = .ok (p', 0) ∧ Registered (live.record reg) p' := by
  unfold pollinatorMonitorFd
  cases hfind : findPfd p reg.fd with
  | some i =>
    obtain ⟨hi, hfd⟩ := findPfd_some hfind
    have hs : (items p.fds)[i]? = some (arrayAt p.fds i) := by rw [getElem?_items, if_pos hi]
    obtain ⟨reg₀, -, -, hint⟩ := h.slot i _ hs (hfd ▸ hreg)
    rw [hfd] at hint
    by_cases hbits : reg.eventBits = 0
    · refine ⟨_, ?_, h.free hbits hreg hs hfd⟩
      simp only [if_pos hbits, assertEpollCtl, epollCtl, hint]
    · refine ⟨_, ?_, h.write hreg hbits rfl hi h.size_le (fun _ _ => rfl) ?_ ?_⟩
      · simp only [if_neg hbits, assertEpollCtl, epollCtl, hint]
      · intro s hs'
        rw [hs] at hs'
        exact Or.inl (Option.some.inj hs' ▸ hfd)
      · intro j s hj hs' hsfd
        exact hj (h.unique hs' hs (hsfd.trans hfd.symm) (hsfd ▸ hreg))
  | none =>
    have hnew := fun (i : Nat) (s : PollinatorFd) => findPfd_none hfind (i := i) (s := s)
    have hlive : live reg.fd = none := by
      cases hl : live reg.fd with
      | none => rfl
      | some reg₀ =>
        obtain ⟨-, i, s, hs, hfd⟩ := h.live_slot _ _ hl
        exact absurd hfd (hnew i s hs)
    have hint : p.interest reg.fd = none := by
      have := (h.interest reg.fd).not.mpr (by simp [hlive])
      simpa using this
    by_cases hbits : reg.eventBits = 0
    · have hrecord : live.record reg = live := by
        funext fd
        by_cases hfd : fd = reg.fd
        · rw [hfd, record_off hbits, hlive]
        · exact record_ne hfd
      refine ⟨p, by simp only [if_pos hbits], ?_⟩
      rw [hrecord]
      exact h
    · obtain ⟨hint', hi, hold, hfree, hsize⟩ := allocPfd_spec p
      refine ⟨_, ?_, h.write (q := (allocPfd p).1) (i := (allocPfd p).2) hreg hbits hint' hi ?_ hold
        (fun s hs => Or.inr (hfree s hs)) fun j s _ hs => hnew j s hs⟩
      · simp only [if_neg hbits, assertEpollCtl, epollCtl, hint', hint]
      · have hle := h.size_le
        rcases hsize with hsize | ⟨hsize, hused⟩
        · omega
        · have := h.size_lt hreg hused hnew
          omega

end Step

/-! ## Polling -/

section Poll

variable {live : Registrations} {p : Pollinator}

/-- What `epoll_wait` fills in for a descriptor that fired, with these events. -/
def firedEvent (interest : Interest) (fired : BitVec 32 × BitVec 32) : EpollEvent where
  events := fired.2
  data := ((interest fired.1).map (·.data)).getD 0

/-- The call that is due for a descriptor that fired, if it is registered. -/
def dueCall (live : Registrations) (fired : BitVec 32 × BitVec 32) : Option PollCall :=
  if pollFlags fired.2 = 0 then none
  else (live fired.1).map fun reg => ⟨reg.func, fired.1, pollFlags fired.2, reg.arg1, reg.arg2⟩

theorem Registered.lookup (h : Registered live p) (fd : BitVec 32) (hfd : (p.interest fd).isSome) :
    ∃ i reg, live fd = some reg ∧ reg.fd = fd ∧ i < p.fds.size ∧ arrayAt p.fds i = reg.toFd ∧
      p.interest fd = some ⟨epollEvents reg.eventBits, BitVec.ofNat 32 i⟩ := by
  obtain ⟨reg, hlive⟩ := Option.isSome_iff_exists.mp ((h.interest fd).mp hfd)
  obtain ⟨hge, i, s, hs, hsfd⟩ := h.live_slot fd reg hlive
  obtain ⟨reg', hlive', hslot, hint⟩ := h.slot i s hs (hsfd ▸ hge)
  rw [hsfd] at hlive' hint
  obtain rfl : reg = reg' := Option.some.inj (hlive.symm.trans hlive')
  have hi := (List.getElem?_eq_some_iff.mp hs).1
  rw [length_items] at hi
  rw [getElem?_items, if_pos hi] at hs
  refine ⟨i, reg, hlive, ?_, hi, (Option.some.inj hs).trans hslot, hint⟩
  rw [← hsfd, hslot]
  rfl

theorem Registered.pollEvents (h : Registered live p) (callback : PollCall → Int)
    {batch : List (BitVec 32 × BitVec 32)} (hbatch : ∀ f ∈ batch, (p.interest f.1).isSome)
    (calls : List PollCall) (result : Int) :
    pollEvents p callback (batch.map (firedEvent p.interest)) calls result =
      .ok (calls ++ batch.filterMap (dueCall live),
        ((batch.filterMap (dueCall live)).map callback).foldl pollResult result) := by
  induction batch generalizing calls result with
  | nil => simp [Malincam.pollEvents]
  | cons f batch ih =>
    rw [List.forall_mem_cons] at hbatch
    obtain ⟨i, reg, hlive, hfd, hi, hslot, hint⟩ := h.lookup f.1 hbatch.1
    have hsize := h.size_le
    have hindex : (BitVec.ofNat 32 i).toInt = i :=
      (BitVec.toInt_ofNat' ..).trans (Int.bmod_eq_of_le (by omega) (by omega))
    have hin : ¬ ((i : Int) < 0 ∨ p.fds.size ≤ i) := by omega
    rw [List.map_cons, Malincam.pollEvents]
    simp only [firedEvent, hint, Option.map_some, Option.getD_some, hindex, Int.toNat_natCast,
      if_neg hin, hslot]
    by_cases hflags : pollFlags f.2 = 0
    · rw [if_pos hflags, ih hbatch.2, List.filterMap_cons_none (by simp [dueCall, hflags])]
    · have hdue : dueCall live f =
          some ⟨reg.func, f.1, pollFlags f.2, reg.arg1, reg.arg2⟩ := by
        unfold dueCall
        rw [if_neg hflags, hlive, Option.map_some]
      rw [if_neg hflags, ih hbatch.2, List.filterMap_cons_some hdue]
      simp [PollinatorMonitorFd.toFd, hfd]

end Poll

/-! ## Every run of calls -/

/-- The slots and the interest set name the registered descriptors, and a poll makes the calls that
are due for the descriptors that fired, in order. -/
structure Dispatches (live : Registrations) (p : Pollinator) : Prop where
  unique : ∀ fd : BitVec 32, 0 ≤ fd.toInt → ((items p.fds).map (·.fd)).count fd ≤ 1
  slots : ∀ fd : BitVec 32, 0 ≤ fd.toInt → (fd ∈ (items p.fds).map (·.fd) ↔ (live fd).isSome)
  interest : ∀ fd, (p.interest fd).isSome ↔ (live fd).isSome
  index : ∀ fd event, p.interest fd = some event →
    ((items p.fds)[event.data.toNat]?).map (·.fd) = some fd
  poll : ∀ callback interrupts (batch : List (BitVec 32 × BitVec 32)),
    (∀ f ∈ batch, (p.interest f.1).isSome) →
      pollinatorPoll p callback interrupts (some (batch.map (firedEvent p.interest))) =
        .ok (batch.filterMap (dueCall live),
          ((batch.filterMap (dueCall live)).map callback).foldl pollResult 0)

theorem Registered.dispatches {live : Registrations} {p : Pollinator} (h : Registered live p) :
    Dispatches live p where
  unique fd hge := by
    by_contra hcount
    obtain ⟨⟨i, hi⟩, ⟨j, hj⟩, hij, hfdi, hfdj⟩ := List.duplicate_iff_exists_distinct_get.mp
      (List.duplicate_iff_two_le_count.mpr (Nat.not_le.mp hcount))
    rw [List.get_eq_getElem, List.getElem_map] at hfdi hfdj
    rw [List.length_map] at hi hj
    have heq := h.unique (List.getElem?_eq_getElem hi) (List.getElem?_eq_getElem hj)
      (hfdi.symm.trans hfdj) (hfdi ▸ hge)
    exact absurd heq (Fin.mk_lt_mk.mp hij).ne
  slots fd hge := by
    constructor
    · intro hmem
      obtain ⟨i, hi⟩ := List.getElem?_of_mem hmem
      rw [List.getElem?_map] at hi
      obtain ⟨s, hs, rfl⟩ := Option.map_eq_some_iff.mp hi
      obtain ⟨reg, hlive, -⟩ := h.slot i s hs hge
      simp [hlive]
    · intro hlive
      obtain ⟨reg, hlive⟩ := Option.isSome_iff_exists.mp hlive
      obtain ⟨-, i, s, hs, rfl⟩ := h.live_slot fd reg hlive
      exact List.mem_map.mpr ⟨s, List.mem_of_getElem? hs, rfl⟩
  interest := h.interest
  index fd event hint := by
    obtain ⟨i, reg, -, hfd, hi, hslot, hint'⟩ := h.lookup fd (by simp [hint])
    obtain rfl := Option.some.inj (hint.symm.trans hint')
    have hsize := h.size_le
    rw [toNat_ofNat_index (by omega), getElem?_items, if_pos hi, hslot]
    exact congrArg some hfd
  poll callback interrupts batch hbatch := by
    induction interrupts with
    | zero => exact h.pollEvents callback hbatch [] 0
    | succ n ih => exact ih

theorem run_monitor {live : Registrations} {p : Pollinator} (h : Registered live p)
    {regs : List PollinatorMonitorFd} (hregs : ∀ reg ∈ regs, 0 ≤ reg.fd.toInt) :
    ∃ p', run monitorStep p regs = .ok p' ∧ Registered (regs.foldl Registrations.record live) p' := by
  induction regs generalizing live p with
  | nil => exact ⟨p, rfl, h⟩
  | cons reg regs ih =>
    rw [List.forall_mem_cons] at hregs
    obtain ⟨p₁, hstep, h₁⟩ := h.monitor hregs.1
    obtain ⟨p', hrun, h'⟩ := ih h₁ hregs.2
    refine ⟨p', ?_, h'⟩
    rw [run_cons, monitorStep, hstep]
    exact hrun

/-- After any calls with descriptors from 0 on, no assertion has failed and polls are dispatched to
the registrations in force. -/
theorem pollinator_dispatches {regs : List PollinatorMonitorFd}
    (hregs : ∀ reg ∈ regs, 0 ≤ reg.fd.toInt) :
    ∃ p, run monitorStep pollinatorCreate regs = .ok p ∧ Dispatches (registrations regs) p := by
  obtain ⟨p, hrun, h⟩ := run_monitor registered_pollinatorCreate hregs
  exact ⟨p, hrun, h.dispatches⟩

theorem pollinator_dispatches_reused :
    ∃ p, run monitorStep pollinatorCreate
        [⟨5, 1, 100, 0, 0⟩, ⟨6, 8, 200, 0, 0⟩, ⟨5, 0, 0, 0, 0⟩, ⟨7, 2, 300, 0, 0⟩] = .ok p ∧
      Dispatches (registrations
        [⟨5, 1, 100, 0, 0⟩, ⟨6, 8, 200, 0, 0⟩, ⟨5, 0, 0, 0, 0⟩, ⟨7, 2, 300, 0, 0⟩]) p :=
  pollinator_dispatches (by decide)

end Malincam
