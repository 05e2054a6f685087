import Malincam.Device.Prepared

/-!
# The descriptors that a prepare exports

Each plane of a buffer is to be exported as a descriptor of its own. `bufferDmabufExport` asks for plane 0
each time, and takes descriptor 0 for the end.
-/

open Base

namespace Malincam

/-- `names` tells which plane of which buffer a descriptor is for, whatever the driver answers. -/
def NamesExports (names : Int → Option (Nat × Nat)) (r : PrepareReplies) : Prop :=
  ∀ index plane call fd, r.expbuf index plane call = .ok fd → names fd = some (index, plane)

section Exports

variable {names : Int → Option (Nat × Nat)} {r : PrepareReplies}

theorem NamesExports.bufferExportDmabufFd (h : NamesExports names r) {index plane call : Nat}
    (hfd : 0 ≤ bufferExportDmabufFd r.expbuf index plane call) :
    names (bufferExportDmabufFd r.expbuf index plane call) = some (index, plane) := by
  unfold Malincam.bufferExportDmabufFd at hfd ⊢
  split
  · rename_i err herr
    rw [herr] at hfd
    have hpos := err.pos
    dsimp only at hfd
    omega
  · rename_i fd hfd'
    exact h index plane call fd hfd'

/-- The loop over the planes, where `f i` is the descriptor that the driver gives the `i`-th time. It goes
on while descriptors are positive, and a 0 ends it without an error: then 0 is what the rest is left at. -/
theorem fillPlanes_exports {f : Nat → Int} {key : Nat × Nat}
    (hf : ∀ i, 0 ≤ f i → names (f i) = some key) {n i : Nat} {buf buf' : Buffer}
    (h : fillPlanes (fun i => if f i ≤ 0 then .error (-(f i)) else .ok (f i))
      (fun i fd (buf : Buffer) =>
        { buf with dmabufFd := fun j => if j.val = i then fd else buf.dmabufFd j }) n i buf = (buf', 0))
    (hdone : ∀ j : Fin videoMaxPlanes, j.val < i → names (buf.dmabufFd j) = some key)
    (hfresh : ∀ j : Fin videoMaxPlanes, i ≤ j.val → buf.dmabufFd j = 0) :
    ∀ j : Fin videoMaxPlanes, j.val < i + n → names (buf'.dmabufFd j) = some key := by
  induction n generalizing i buf with
  | zero =>
    cases h
    exact hdone
  | succ n ih =>
    unfold fillPlanes at h
    by_cases hend : f i ≤ 0
    · simp only [if_pos hend] at h
      obtain ⟨rfl, hzero⟩ := Prod.mk.inj h
      have hfi : f i = 0 := by omega
      intro j _
      by_cases hj : j.val < i
      · exact hdone j hj
      · rw [hfresh j (by omega), ← hfi]
        exact hf i (by omega)
    · simp only [if_neg hend] at h
      have hsum : i + (n + 1) = i + 1 + n := by omega
      rw [hsum]
      refine ih h ?_ ?_
      · intro j hj
        dsimp only
        split
        · exact hf i (by omega)
        · exact hdone j (by omega)
      · intro j hj
        dsimp only
        rw [if_neg (by omega)]
        exact hfresh j (by omega)

theorem NamesExports.bufferDmabufExport (h : NamesExports names r) {st : DeviceStream}
    {buf buf' : Buffer} (hexport : bufferDmabufExport r st buf = .ok (buf', 0))
    (hfresh : ∀ p, buf.dmabufFd p = 0) (p : Fin videoMaxPlanes) (hp : p.val < streamPlanesCount st) :
    names (buf'.dmabufFd p) = some (buf.buffer.index, 0) := by
  have hcount : (if isStreamMplane st then st.format.numPlanes else 1) = streamPlanesCount st := rfl
  unfold Malincam.bufferDmabufExport at hexport
  dsimp only at hexport
  rw [hcount] at hexport
  split at hexport
  · simp at hexport
  · refine fillPlanes_exports (fun call hfd => ?_) (Except.ok.inj hexport) (fun j hj => ?_)
      (fun j _ => hfresh j) p (by omega)
    · exact h.bufferExportDmabufFd hfd
    · exact absurd hj (Nat.not_lt_zero _)

theorem NamesExports.queryBuffer (h : NamesExports names r) {st : DeviceStream}
    (hmemory : st.bufferMemory = .dmabufExport) {memory : V4l2Memory} {i : Nat} {buf buf' : Buffer}
    {bm bm' : Planes} (hfresh : ∀ p, buf.dmabufFd p = 0)
    (hquery : queryBuffer r st memory i buf bm = .ok (some buf', bm')) (p : Fin videoMaxPlanes)
    (hp : p.val < streamPlanesCount st) : names (buf'.dmabufFd p) = some (i, 0) := by
  unfold Malincam.queryBuffer at hquery
  dsimp only at hquery
  split at hquery
  · simp at hquery
  · obtain ⟨⟨filled, result⟩, hprepare, hquery⟩ := bind_eq_ok hquery
    dsimp only at hquery
    split at hquery
    · cases hquery
    · rename_i hresult
      cases hquery
      obtain rfl : result = 0 := not_not.mp hresult
      unfold bufferPrepare at hprepare
      rw [hmemory] at hprepare
      exact h.bufferDmabufExport hprepare hfresh p hp

theorem NamesExports.prepare (h : NamesExports names r) {opts : DeviceStreamPrepareOpts}
    {st st' : DeviceStream} (hmemory : opts.bufferMemory = .dmabufExport)
    (hprepare : deviceStreamPrepare r opts st = .ok (st', 0)) {i : Nat} (hi : i < st'.loopCount)
    {buf : Buffer} (hbuf : recordAt st' i = some buf) (p : Fin videoMaxPlanes)
    (hp : p.val < streamPlanesCount st') : names (buf.dmabufFd p) = some (i, 0) := by
  rcases deviceStreamPrepare_outcome hprepare with ⟨hne, -⟩ | ⟨-, -, count, bufs, bm, halloc, rfl⟩
  · exact absurd rfl hne
  · have hrecord := halloc.records (fun buf => ∀ p, buf.dmabufFd p = 0)
      (fun i buf => ∀ p : Fin videoMaxPlanes, p.val < _ → names (buf.dmabufFd p) = some (i, 0))
      (fun _ => rfl) (fun _ _ _ _ _ _ hfresh hquery => h.queryBuffer hmemory hfresh hquery) i buf hbuf
    have hi : i < count.toInt.toNat := hi
    rw [if_pos hi] at hrecord
    exact hrecord p hp

end Exports

end Malincam
