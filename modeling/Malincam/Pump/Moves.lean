import Mathlib.Logic.Relation
import Malincam.Base.Counting
import Malincam.Base.Run
import Malincam.Device.Prepared
import Malincam.Pump

/-!
# What a pump can do in one move

A call of `pumpPump` is a sequence of moves, each of which takes or hands over one buffer. What
every move keeps, every run of a pump keeps.
-/

open Base Relation

namespace Malincam

/-! ## The queue of destination indices -/

/-- The queue is full, and slot `i` holds the index `i`. -/
structure AllAvailable (m : Nat) (q : Queue (BitVec 32)) : Prop where
  size : q.data.size = m
  capacity : q.data.capacity = m
  slots : ∀ i < m, slotItem q i = BitVec.ofNat 32 i

theorem loopCount_lt (st : DeviceStream) : st.loopCount < 2 ^ 31 := by
  have := BitVec.toInt_lt (x := st.buffersCount)
  simp only [DeviceStream.loopCount]
  omega

theorem fillAvailable_prefix (count k : Nat) (hk : k ≤ count) :
    let q : Queue (BitVec 32) :=
      (List.range k).foldl (fun q i => (queuePush q (BitVec.ofNat 32 i)).1) (queueInit count)
    q.data.size = k ∧ q.data.capacity = count ∧ q.front = 0 ∧
      ∀ i < k, slotItem q i = BitVec.ofNat 32 i := by
  induction k with
  | zero => exact ⟨size_queueInit _, capacity_queueInit _, rfl, fun i hi => by omega⟩
  | succ k ih =>
    obtain ⟨hsize, hcap, hfront, hslots⟩ := ih (by omega)
    rw [List.range_succ, List.foldl_append]
    dsimp only [List.foldl_cons, List.foldl_nil]
    generalize (List.range k).foldl _ (queueInit count : Queue (BitVec 32)) = q
      at hsize hcap hfront hslots ⊢
    obtain ⟨-, hsize', hcap', hfront', hlast, hrest⟩ :=
      queuePush_room q (BitVec.ofNat 32 k) (by omega)
    have hslot : (q.front + q.data.size) % q.data.capacity = k := by
      rw [hfront, hsize, hcap, Nat.zero_add]
      exact Nat.mod_eq_of_lt (by omega)
    rw [hslot] at hlast hrest
    refine ⟨by omega, by omega, by omega, ?_⟩
    intro i hi
    rcases Nat.lt_succ_iff_lt_or_eq.mp hi with hlt | rfl
    · rw [hrest i (by omega) (by omega)]
      exact hslots i hlt
    · exact hlast

theorem allAvailable_fillAvailable (count : Nat) :
    AllAvailable count (fillAvailable count) ∧ (fillAvailable count).front = 0 := by
  obtain ⟨hsize, hcap, hfront, hslots⟩ := fillAvailable_prefix count count le_rfl
  exact ⟨⟨hsize, hcap, hslots⟩, hfront⟩

section AllAvailable

variable {m : Nat} {q : Queue (BitVec 32)}

theorem AllAvailable.front_lt (h : AllAvailable m q) (hm : 0 < m) : q.front < m := by
  have hlt := q.front_lt
  rw [h.capacity] at hlt
  exact hlt hm

theorem AllAvailable.queuePeek (h : AllAvailable m q) (hm : 0 < m) (hbound : m < 2 ^ 31) :
    ∃ item, queuePeek q = some item ∧ item.toInt.toNat = q.front := by
  have hfront := h.front_lt hm
  refine ⟨_, queuePeek_some q (by rw [h.size]; omega), ?_⟩
  rw [h.slots _ hfront]
  have : (BitVec.ofNat 32 q.front).toInt = q.front :=
    (BitVec.toInt_ofNat' ..).trans (Int.bmod_eq_of_le (by omega) (by omega))
  rw [this]
  exact Int.toNat_natCast _

theorem AllAvailable.queuePop (h : AllAvailable m q) (hm : 0 < m) :
    AllAvailable m (queuePop q).1 ∧ (queuePop q).1.front = (q.front + 1) % m := by
  obtain ⟨-, hdata, hfront⟩ := queuePop_some q (by rw [h.size]; omega)
  refine ⟨⟨by rw [hdata, h.size], by rw [hdata, h.capacity], ?_⟩, ?_⟩
  · intro i hi
    unfold slotItem
    rw [hdata]
    exact h.slots i hi
  · rw [hfront, h.capacity]

end AllAvailable

/-! ## Moves -/

/-- What is assumed of the two drivers. -/
structure Drivers where
  -- Which place of the destination's queue a finished buffer may come from; 0 is the oldest.
  completes : Nat → Prop
  -- Whether the source may refuse a buffer that it does not hold.
  sourceFails : Prop

/-- Destination buffer `d` is finished, and the source buffers in `back` are queued again. -/
def completed (s : PumpState) (pick d : Nat) (back : List Nat) (dev : DeviceStream) : PumpState :=
  { s with
    src := { s.src with held := s.src.held ++ back }
    dst := ⟨dev, s.dst.held.eraseIdx pick⟩
    pump := { s.pump with acquiredToSource := s.pump.acquiredToSource.set d (-1) }
    log := s.log ++ back.map .returned }

/-- A frame is dequeued in buffer `i`, the source buffers in `back` are queued again unseen, and
`next` is pending. -/
def fetched (s : PumpState) (pick i : Nat) (report : BufferReport) (back : List Nat) (next : Int)
    (dev : DeviceStream) : PumpState :=
  { s with
    src := ⟨dev, s.src.held.eraseIdx pick ++ back⟩
    pump := { s.pump with nextInQueue := next }
    log := s.log ++ .dequeued i report :: back.map .skipped }

/-- The hand-over whose `QBUF` fails. The pass function has written by then. -/
def refused (s : PumpState) (dev : DeviceStream) (mem : Memory) : PumpState :=
  { s with dst := { s.dst with dev := dev }, mem := mem }

def delivered (s : PumpState) (source d : Nat) (dev : DeviceStream) (mem : Memory) : PumpState :=
  { s with
    dst := ⟨dev, s.dst.held ++ [d]⟩
    mem := mem
    pump := { s.pump with
      acquiredToSource := s.pump.acquiredToSource.set d source
      nextInQueue := -1
      available := (queuePop s.pump.available).1 }
    log := s.log ++ [.delivered source d] }

/-- A frame can be dequeued from the source. -/
structure Taken (n : Nat) (s : PumpState) (pick i : Nat) (report : BufferReport)
    (dev : DeviceStream) : Prop where
  held : s.src.held[pick]? = some i
  indexed : Indexed n dev
  type : dev.type = s.src.dev.type
  record : ∃ buf, recordAt dev i = some buf ∧ Reported s.src.dev.type i report buf

/-- A destination buffer can be dequeued, and it holds a source buffer. -/
structure Finished (w : Drivers) (m : Nat) (s : PumpState) (pick d source : Nat)
    (dev : DeviceStream) : Prop where
  order : w.completes pick
  held : s.dst.held[pick]? = some d
  acquired : s.pump.acquiredToSource[d]? = some (source : Int)
  indexed : Indexed m dev

/-- The steps of a call that change something. A call that returns is a sequence of them. -/
inductive Move (w : Drivers) (n m : Nat) (s : PumpState) : PumpState → Prop where
  | complete (pick d source : Nat) (dev : DeviceStream) (h : Finished w m s pick d source dev) :
      Move w n m s (completed s pick d [source] dev)
  | lose (pick d source : Nat) (dev : DeviceStream) (h : Finished w m s pick d source dev)
      (hfail : w.sourceFails) : Move w n m s (completed s pick d [] dev)
  | fetch (pick i : Nat) (report : BufferReport) (dev : DeviceStream)
      (h : Taken n s pick i report dev) (hnext : s.pump.nextInQueue < 0) :
      Move w n m s (fetched s pick i report [] i dev)
  | replace (pick i p : Nat) (report : BufferReport) (dev : DeviceStream)
      (h : Taken n s pick i report dev) (hnext : s.pump.nextInQueue = p) :
      Move w n m s (fetched s pick i report [p] i dev)
  | drop (pick i p : Nat) (report : BufferReport) (dev : DeviceStream)
      (h : Taken n s pick i report dev) (hnext : s.pump.nextInQueue = p) (hfail : w.sourceFails) :
      Move w n m s (fetched s pick i report [] p dev)
  | refuse (dev : DeviceStream) (mem : Memory) (h : Indexed m dev) : Move w n m s (refused s dev mem)
  | deliver (source d : Nat) (dev : DeviceStream) (mem : Memory) (h : Indexed m dev)
      (hnext : s.pump.nextInQueue = source) (hd : d = s.pump.available.front) (hm : 0 < m)
      (hfree : d ∉ s.dst.held) : Move w n m s (delivered s source d dev mem)

abbrev Moves (w : Drivers) (n m : Nat) : PumpState → PumpState → Prop := ReflTransGen (Move w n m)

/-! ## What every move keeps -/

/-- How often source buffer `i` is held by the driver, pending, or lent to the destination. -/
def places (s : PumpState) (i : Nat) : Nat :=
  s.src.held.count i + (if s.pump.nextInQueue = i then 1 else 0) +
    s.pump.acquiredToSource.count (i : Int)

/-- The bookkeeping of a pump between `n` source and `m` destination buffers. -/
structure Tracked (n m : Nat) (s : PumpState) : Prop where
  src_indexed : Indexed n s.src.dev
  dst_indexed : Indexed m s.dst.dev
  available : AllAvailable m s.pump.available
  acquired_length : s.pump.acquiredToSource.length = m
  next_ge : -1 ≤ s.pump.nextInQueue
  acquired_ge : ∀ k ∈ s.pump.acquiredToSource, -1 ≤ k
  places_le : ∀ i, places s i ≤ if i < n then 1 else 0
  dst_nodup : s.dst.held.Nodup
  dst_lt : ∀ d ∈ s.dst.held, d < m
  lent : ∀ d k, s.pump.acquiredToSource[d]? = some k → (0 ≤ k ↔ d ∈ s.dst.held)

section Places

variable {w : Drivers} {n m : Nat} {s : PumpState}

theorem places_completed {pick d source : Nat} {dev : DeviceStream}
    (h : Finished w m s pick d source dev) (back : List Nat) (i : Nat) :
    places (completed s pick d back dev) i + (if source = i then 1 else 0) =
      places s i + back.count i := by
  have hset := count_set h.acquired (-1) (i : Int)
  rw [if_neg (by omega : ¬ (-1 : Int) = i)] at hset
  simp only [Int.natCast_inj] at hset
  show (s.src.held ++ back).count i + (if s.pump.nextInQueue = i then 1 else 0) +
    (s.pump.acquiredToSource.set d (-1)).count (i : Int) + _ = _
  unfold places
  rw [List.count_append]
  omega

theorem places_fetched {pick i : Nat} {report : BufferReport} {dev : DeviceStream}
    (h : Taken n s pick i report dev) (back : List Nat) (next : Int) (x : Nat) :
    places (fetched s pick i report back next dev) x + (if i = x then 1 else 0) +
        (if s.pump.nextInQueue = x then 1 else 0) =
      places s x + back.count x + (if next = x then 1 else 0) := by
  have herase := count_eraseIdx h.held x
  show (s.src.held.eraseIdx pick ++ back).count x + (if next = x then 1 else 0) +
    s.pump.acquiredToSource.count (x : Int) + _ + _ = _
  unfold places
  rw [List.count_append]
  omega

theorem places_delivered {source d : Nat} (dev : DeviceStream) (mem : Memory)
    (hnext : s.pump.nextInQueue = source) (hd : s.pump.acquiredToSource[d]? = some (-1)) (i : Nat) :
    places (delivered s source d dev mem) i = places s i := by
  have hset := count_set hd (source : Int) (i : Int)
  rw [if_neg (by omega : ¬ (-1 : Int) = i)] at hset
  show s.src.held.count i + (if (-1 : Int) = i then 1 else 0) +
    (s.pump.acquiredToSource.set d (source : Int)).count (i : Int) = _
  unfold places
  rw [hnext, if_neg (by omega : ¬ (-1 : Int) = i)]
  omega

theorem places_move {s' : PumpState} (hmove : Move w n m s s')
    (hfree : ∀ d, d ∉ s.dst.held → d < m → s.pump.acquiredToSource[d]? = some (-1))
    (hfront : 0 < m → s.pump.available.front < m) (i : Nat) :
    places s' i ≤ places s i ∧ (¬ w.sourceFails → places s' i = places s i) := by
  -- Only a refusal of the source takes a buffer out of its place without putting it in another.
  cases hmove with
  | complete pick d source dev h =>
    have := places_completed h [source] i
    simp only [List.count_singleton, beq_iff_eq] at this
    omega
  | lose pick d source dev h hfail =>
    have := places_completed h [] i
    simp only [List.count_nil] at this
    exact ⟨by omega, fun h => absurd hfail h⟩
  | fetch pick j report dev h hnext =>
    have := places_fetched h [] j i
    simp only [List.count_nil, Int.natCast_inj, if_neg (by omega : ¬ s.pump.nextInQueue = i)] at this
    omega
  | replace pick j p report dev h hnext =>
    have := places_fetched h [p] j i
    simp only [List.count_singleton, beq_iff_eq, Int.natCast_inj, hnext] at this
    omega
  | drop pick j p report dev h hnext hfail =>
    have := places_fetched h [] p i
    simp only [List.count_nil, hnext] at this
    exact ⟨by omega, fun h => absurd hfail h⟩
  | refuse dev mem h => exact ⟨le_rfl, fun _ => rfl⟩
  | deliver source d dev mem h hnext hd hm hnot =>
    have := places_delivered dev mem hnext (hfree d hnot (hd ▸ hfront hm)) i
    exact ⟨this.le, fun _ => this⟩

end Places

section Tracked

variable {w : Drivers} {n m : Nat} {s s' : PumpState}

theorem Tracked.acquired_free (h : Tracked n m s) {d : Nat} (hfree : d ∉ s.dst.held) (hd : d < m) :
    s.pump.acquiredToSource[d]? = some (-1) := by
  have hlen := h.acquired_length
  have hget := List.getElem?_eq_getElem (l := s.pump.acquiredToSource) (i := d) (by omega)
  have hge := h.acquired_ge _ (List.mem_of_getElem? hget)
  have hlent := (h.lent d _ hget).not.mpr hfree
  rw [hget]
  congr 1
  omega

theorem Tracked.places_move (h : Tracked n m s) (hmove : Move w n m s s') (i : Nat) :
    places s' i ≤ places s i ∧ (¬ w.sourceFails → places s' i = places s i) :=
  Malincam.places_move hmove (fun _ hfree hd => h.acquired_free hfree hd) h.available.front_lt i

theorem Tracked.completed (h : Tracked n m s) {pick d source : Nat} {dev : DeviceStream}
    (hfin : Finished w m s pick d source dev) {back : List Nat}
    (hplaces : ∀ i, places (completed s pick d back dev) i ≤ if i < n then 1 else 0) :
    Tracked n m (completed s pick d back dev) where
  src_indexed := h.src_indexed
  dst_indexed := hfin.indexed
  available := h.available
  acquired_length := by
    have := h.acquired_length
    simpa [Malincam.completed] using this
  next_ge := h.next_ge
  acquired_ge k hk := by
    rcases List.mem_or_eq_of_mem_set hk with hk | rfl
    · exact h.acquired_ge k hk
    · exact le_rfl
  places_le := hplaces
  dst_nodup := h.dst_nodup.sublist (List.eraseIdx_sublist _ _)
  dst_lt e he := h.dst_lt e (List.mem_of_mem_eraseIdx he)
  lent e k hk := by
    have hmem := mem_eraseIdx_of_nodup h.dst_nodup hfin.held (x := e)
    simp only [Malincam.completed] at hk ⊢
    rw [hmem]
    by_cases hed : d = e
    · subst hed
      rw [List.getElem?_set_self' , hfin.acquired] at hk
      obtain rfl : -1 = k := Option.some.inj hk
      simp
    · rw [List.getElem?_set_ne hed] at hk
      have := h.lent e k hk
      have hne : e ≠ d := Ne.symm hed
      tauto

theorem Tracked.fetched (h : Tracked n m s) {pick i : Nat} {report : BufferReport}
    {dev : DeviceStream} (htaken : Taken n s pick i report dev) {back : List Nat} {next : Int}
    (hnext : -1 ≤ next)
    (hplaces : ∀ x, places (fetched s pick i report back next dev) x ≤ if x < n then 1 else 0) :
    Tracked n m (fetched s pick i report back next dev) where
  src_indexed := htaken.indexed
  dst_indexed := h.dst_indexed
  available := h.available
  acquired_length := h.acquired_length
  next_ge := hnext
  acquired_ge := h.acquired_ge
  places_le := hplaces
  dst_nodup := h.dst_nodup
  dst_lt := h.dst_lt
  lent := h.lent

theorem Tracked.delivered (h : Tracked n m s) {source d : Nat} {dev : DeviceStream} {mem : Memory}
    (hdev : Indexed m dev) (hm : 0 < m) (hd : d < m) (hfree : d ∉ s.dst.held)
    (hplaces : ∀ i, places (delivered s source d dev mem) i ≤ if i < n then 1 else 0) :
    Tracked n m (delivered s source d dev mem) where
  src_indexed := h.src_indexed
  dst_indexed := hdev
  available := (h.available.queuePop hm).1
  acquired_length := by
    have := h.acquired_length
    simpa [Malincam.delivered] using this
  next_ge := le_rfl
  acquired_ge k hk := by
    rcases List.mem_or_eq_of_mem_set hk with hk | rfl
    · exact h.acquired_ge k hk
    · omega
  places_le := hplaces
  dst_nodup := List.Nodup.append h.dst_nodup (List.nodup_singleton d) (by simpa using hfree)
  dst_lt e he := by
    rcases List.mem_append.mp he with he | he
    · exact h.dst_lt e he
    · rw [List.mem_singleton.mp he]
      exact hd
  lent e k hk := by
    simp only [Malincam.delivered] at hk ⊢
    rw [List.mem_append, List.mem_singleton]
    by_cases hed : d = e
    · subst hed
      rw [List.getElem?_set_self', h.acquired_free hfree hd] at hk
      obtain rfl : (source : Int) = k := Option.some.inj hk
      simp
    · rw [List.getElem?_set_ne hed] at hk
      have := h.lent e k hk
      have hne : e ≠ d := Ne.symm hed
      tauto

/-- The step lemma: a move keeps the bookkeeping. -/
theorem Tracked.move (h : Tracked n m s) (hmove : Move w n m s s') : Tracked n m s' := by
  have hplaces : ∀ i, places s' i ≤ if i < n then 1 else 0 :=
    fun i => (h.places_move hmove i).1.trans (h.places_le i)
  cases hmove with
  | complete pick d source dev hfin => exact h.completed hfin hplaces
  | lose pick d source dev hfin hfail => exact h.completed hfin hplaces
  | fetch pick i report dev htaken hnext => exact h.fetched htaken (by omega) hplaces
  | replace pick i p report dev htaken hnext => exact h.fetched htaken (by omega) hplaces
  | drop pick i p report dev htaken hnext hfail => exact h.fetched htaken (by omega) hplaces
  | refuse dev mem hdev =>
    exact ⟨h.src_indexed, hdev, h.available, h.acquired_length, h.next_ge, h.acquired_ge,
      h.places_le, h.dst_nodup, h.dst_lt, h.lent⟩
  | deliver source d dev mem hdev hnext hd hm hfree =>
    exact h.delivered hdev hm (hd ▸ h.available.front_lt hm) hfree hplaces

theorem Tracked.moves (h : Tracked n m s) (hmoves : Moves w n m s s') : Tracked n m s' := by
  induction hmoves with
  | refl => exact h
  | tail _ hmove ih => exact ih.move hmove

end Tracked

/-! ## A pump at its start -/

/-- A pump between a source with `n` buffers, all queued, and a destination with `m` buffers, none
queued. -/
structure Connected (n m : Nat) (src dst : Stream) (pump : Pump) : Prop where
  src_indexed : Indexed n src.dev
  dst_indexed : Indexed m dst.dev
  src_held : src.held.Perm (List.range n)
  dst_held : dst.held = []
  created : pumpCreate src.dev dst.dev = some pump

section Connected

variable {n m : Nat} {src dst : Stream} {pump : Pump}

theorem Connected.pump_eq (h : Connected n m src dst pump) :
    pump.nextInQueue = -1 ∧ pump.acquiredToSource = List.replicate m (-1) ∧
      pump.available = fillAvailable m := by
  have hcreated := h.created
  unfold pumpCreate at hcreated
  split at hcreated
  · simp at hcreated
  · obtain rfl := Option.some.inj hcreated
    rw [h.dst_indexed.count]
    exact ⟨rfl, rfl, rfl⟩

theorem Connected.places (h : Connected n m src dst pump) (i : Nat) :
    places (pumpStart pump src dst) i = if i < n then 1 else 0 := by
  obtain ⟨hnext, hacquired, -⟩ := h.pump_eq
  have hne : ¬ (-1 : Int) = i := by omega
  simp only [Malincam.places, pumpStart, hnext, hacquired, if_neg hne, List.count_replicate,
    beq_iff_eq, Nat.add_zero, h.src_held.count_eq, List.count_range]

theorem Connected.tracked (h : Connected n m src dst pump) :
    Tracked n m (pumpStart pump src dst) := by
  obtain ⟨hnext, hacquired, havailable⟩ := h.pump_eq
  refine ⟨h.src_indexed, h.dst_indexed, ?_, ?_, ?_, ?_, fun i => (h.places i).le, ?_, ?_, ?_⟩
  · exact havailable ▸ (allAvailable_fillAvailable m).1
  · simp [pumpStart, hacquired]
  · simp [pumpStart, hnext]
  · simp [pumpStart, hacquired]
  · simp [pumpStart, h.dst_held]
  · simp [pumpStart, h.dst_held]
  · intro d k hk
    have hk := List.mem_of_getElem? hk
    simp only [pumpStart, hacquired, List.mem_replicate] at hk
    simp [pumpStart, h.dst_held, hk.2]

theorem connected_of_started {rsrc rdst : StartReplies} {src₀ dst₀ : Stream}
    (hsrc : Indexed n src₀.dev) (hdst : Indexed m dst₀.dev) (hidle : src₀.held = [] ∧ dst₀.held = [])
    (hcapture : isStreamCapture src₀.dev = true) (houtput : isStreamCapture dst₀.dev = false)
    (hs : deviceStreamStart rsrc src₀ = .ok (src, 0))
    (hd : deviceStreamStart rdst dst₀ = .ok (dst, 0))
    (hpump : pumpCreate src.dev dst.dev = some pump) : Connected n m src dst pump := by
  obtain ⟨hsdev, hsheld⟩ := deviceStreamStart_held hsrc hidle.1 hs
  obtain ⟨hddev, hdheld⟩ := deviceStreamStart_held hdst hidle.2 hd
  rw [hcapture, if_pos rfl] at hsheld
  rw [houtput, if_neg (by decide)] at hdheld
  exact ⟨hsdev ▸ ⟨hsrc.count, hsrc.records⟩, hddev ▸ ⟨hdst.count, hdst.records⟩,
    hsheld ▸ List.Perm.refl _, hdheld, hpump⟩

/-- What the repository does before it pumps: prepare both ends, start both, and create the pump. -/
theorem connected_of_prepared {rps rpd : PrepareReplies} {opts optd : DeviceStreamPrepareOpts}
    {sts sts' std std' : DeviceStream} {rsrc rdst : StartReplies}
    (hps : deviceStreamPrepare rps opts sts = .ok (sts', 0))
    (hpd : deviceStreamPrepare rpd optd std = .ok (std', 0))
    (hcs : sts'.buffersCount.toNat < 2 ^ 31) (hcd : std'.buffersCount.toNat < 2 ^ 31)
    (hcapture : isStreamCapture sts' = true) (houtput : isStreamCapture std' = false)
    (hs : deviceStreamStart rsrc ⟨sts', []⟩ = .ok (src, 0))
    (hd : deviceStreamStart rdst ⟨std', []⟩ = .ok (dst, 0))
    (hpump : pumpCreate src.dev dst.dev = some pump) :
    Connected sts'.loopCount std'.loopCount src dst pump := by
  have hsrc := (deviceStreamPrepare_indexed hps hcs).1
  have hdst := (deviceStreamPrepare_indexed hpd hcd).1
  exact connected_of_started hsrc hdst ⟨rfl, rfl⟩ hcapture houtput hs hd hpump

end Connected

def plainPump (m : Nat) : Pump where
  nextInQueue := -1
  acquiredToSource := List.replicate m (-1)
  available := fillAvailable m
  bufferPassFunc := .dmabufSP
  planesCount := 1

def plainSource (n : Nat) : Stream := ⟨plainStream .videoCapture .dmabufExport n, List.range n⟩

def plainDest (m : Nat) : Stream := ⟨plainStream .videoOutput .dmabufImport m, []⟩

theorem connected_plain {n m : Nat} (hn : n < 2 ^ 31) (hm : m < 2 ^ 31) :
    Connected n m (plainSource n) (plainDest m) (plainPump m) where
  src_indexed := indexed_plainStream _ _ hn
  dst_indexed := indexed_plainStream _ _ hm
  src_held := List.Perm.refl _
  dst_held := rfl
  created := by
    have hpass : getPassFunc (plainSource n).dev (plainDest m).dev = some .dmabufSP := rfl
    unfold pumpCreate
    rw [hpass, plainDest, (indexed_plainStream _ _ hm).count]
    rfl

end Malincam
