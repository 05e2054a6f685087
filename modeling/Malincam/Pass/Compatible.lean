import Malincam.Device.Indexed
import Malincam.Pump

/-!
# Which streams a pump is created between

`getPassFunc` is to refuse streams with different numbers of planes, but it compares the source with
itself. The table alone decides, and it knows a stream by its memory and planarity.
-/

namespace Malincam

/-- Some entry of the table passes from the memory and planarity of `src` to those of `dst`. -/
def Passable (src dst : DeviceStream) : Prop :=
  ∃ te ∈ passFuncTable, src.bufferMemory = te.srcMem ∧ dst.bufferMemory = te.dstMem ∧
    isStreamMplane src = te.srcMp ∧ isStreamMplane dst = te.dstMp

/-- A pass function that was given `pump.planesCount` planes meets its assert on them, and writes only
to planes that `dst` has. -/
structure PlanesAgree (src dst : DeviceStream) (pump : Pump) : Prop where
  count : streamPlanesCount src = streamPlanesCount dst
  asserted : ∀ sbuf dbuf mem,
    pump.bufferPassFunc.call sbuf dbuf pump.planesCount mem ≠ .error .planesCount
  written : ∀ sbuf dbuf mem dbuf' mem' result,
    pump.bufferPassFunc.call sbuf dbuf pump.planesCount mem = .ok (dbuf', mem', result) →
      ∀ p : Fin videoMaxPlanes, streamPlanesCount dst ≤ p.val → dbuf'.planes p = dbuf.planes p

/-- A single-planar stream goes with a single-planar one and with one of one plane, and multi-planar
streams go together if they have as many planes. -/
def PlanesMatch (src dst : DeviceStream) : Prop :=
  match isStreamMplane src, isStreamMplane dst with
  | false, false => True
  | true, false => src.format.numPlanes = 1
  | false, true => dst.format.numPlanes = 1
  | true, true => src.format.numPlanes = dst.format.numPlanes

theorem planesMatch_iff (src dst : DeviceStream) :
    PlanesMatch src dst ↔ streamPlanesCount src = streamPlanesCount dst := by
  unfold PlanesMatch streamPlanesCount
  cases isStreamMplane src <;> cases isStreamMplane dst <;> simp [eq_comm]

/-! ## The choice -/

theorem getPassFunc_some {src dst : DeviceStream} {f : PassFunc} (h : getPassFunc src dst = some f) :
    ∃ te ∈ passFuncTable, te.func = f ∧ src.bufferMemory = te.srcMem ∧
      dst.bufferMemory = te.dstMem ∧ isStreamMplane src = te.srcMp ∧ isStreamMplane dst = te.dstMp := by
  unfold getPassFunc at h
  dsimp only at h
  rw [if_neg (by simp)] at h
  obtain ⟨te, hfind, rfl⟩ := Option.map_eq_some_iff.mp h
  have hkey := List.find?_some hfind
  simp only [Bool.and_eq_true, decide_eq_true_eq] at hkey
  obtain ⟨⟨⟨hsrc, hdst⟩, hsrcMp⟩, hdstMp⟩ := hkey
  exact ⟨te, List.mem_of_find?_eq_some hfind, rfl, hsrc, hdst, hsrcMp, hdstMp⟩

theorem pumpCreate_isSome_iff (src dst : DeviceStream) :
    (∃ pump, pumpCreate src dst = some pump) ↔ Passable src dst := by
  constructor
  · rintro ⟨pump, h⟩
    unfold pumpCreate at h
    split at h
    · simp at h
    · rename_i f hf
      obtain ⟨te, hte, -, hkey⟩ := getPassFunc_some hf
      exact ⟨te, hte, hkey⟩
  · rintro ⟨te, hte, hsrc, hdst, hsrcMp, hdstMp⟩
    have hfound : (getPassFunc src dst).isSome := by
      unfold getPassFunc
      dsimp only
      rw [if_neg (by simp), Option.isSome_map, List.find?_isSome]
      exact ⟨te, hte, by simp [hsrc, hdst, hsrcMp, hdstMp]⟩
    obtain ⟨f, hf⟩ := Option.isSome_iff_exists.mp hfound
    exact ⟨_, by rw [pumpCreate, hf]⟩

theorem pumpCreate_created {src dst : DeviceStream} {pump : Pump}
    (h : pumpCreate src dst = some pump) :
    getPassFunc src dst = some pump.bufferPassFunc ∧ pump.planesCount = streamPlanesCount src := by
  unfold pumpCreate at h
  split at h
  · simp at h
  · rename_i f hf
    cases h
    exact ⟨hf, rfl⟩

/-! ## What a pass function does with the planes -/

theorem singlePlane_ok {planesCount : Nat} {passed : Passed} {x : BufferView × Memory × Int} :
    singlePlane planesCount passed = .ok x ↔ planesCount = 1 ∧ passed = .ok x := by
  unfold singlePlane
  split <;> simp_all

theorem call_planesCount {f : PassFunc} {sbuf dbuf : BufferView} {planesCount : Nat} {mem : Memory}
    (h : f = .dmabufMP ∨ planesCount = 1) :
    f.call sbuf dbuf planesCount mem ≠ .error .planesCount := by
  intro hcall
  rcases h with rfl | rfl
  · cases hcall
  · cases f with
    | mmapMPToMmapSP =>
      simp only [PassFunc.call, passMmapMPToMmapSP, singlePlane, if_true] at hcall
      split at hcall <;> cases hcall
    | _ => cases hcall

theorem call_planes {f : PassFunc} {sbuf dbuf dbuf' : BufferView} {planesCount : Nat}
    {mem mem' : Memory} {result : Int}
    (h : f.call sbuf dbuf planesCount mem = .ok (dbuf', mem', result)) {p : Fin videoMaxPlanes}
    (hp : planesCount ≤ p.val) : dbuf'.planes p = dbuf.planes p := by
  cases f with
  | dmabufMP =>
    cases h
    simp [hp]
  | dmabufSPtoMP =>
    obtain ⟨rfl, h⟩ := singlePlane_ok.mp h
    cases h
    simp [show p.val ≠ 0 by omega]
  | mmapMPToMmapSP =>
    simp only [PassFunc.call, passMmapMPToMmapSP, singlePlane_ok] at h
    obtain ⟨rfl, h⟩ := h
    split at h
    · simp at h
    · cases h
      rfl
  | _ =>
    obtain ⟨rfl, h⟩ := singlePlane_ok.mp h
    cases h
    rfl

theorem func_bothMplane : ∀ te ∈ passFuncTable, te.srcMp = true → te.dstMp = true →
    te.func = .dmabufMP := by
  decide

theorem planesAgree_iff {src dst : DeviceStream} {pump : Pump} (h : pumpCreate src dst = some pump) :
    PlanesAgree src dst pump ↔ PlanesMatch src dst := by
  obtain ⟨hf, hcount⟩ := pumpCreate_created h
  obtain ⟨te, hte, hfunc, -, -, hsrcMp, hdstMp⟩ := getPassFunc_some hf
  rw [planesMatch_iff]
  refine ⟨fun hagree => hagree.count, fun hmatch => ⟨hmatch, ?_, ?_⟩⟩
  · intro sbuf dbuf mem
    refine call_planesCount ?_
    -- Each entry but the first has a single-planar end, and so one plane at both.
    rw [hcount, ← hfunc]
    by_cases hboth : te.srcMp = true ∧ te.dstMp = true
    · exact Or.inl (func_bothMplane te hte hboth.1 hboth.2)
    · right
      rcases not_and_or.mp hboth with hsingle | hsingle
      · rw [streamPlanesCount, hsrcMp, if_neg hsingle]
      · rw [hmatch, streamPlanesCount, hdstMp, if_neg hsingle]
  · intro sbuf dbuf mem dbuf' mem' result hcall p hp
    exact call_planes hcall (by omega)

/-- A pump is created between compatible streams only, exactly when the table has no entry for the two
or their planes match. -/
theorem pumpCreate_compatible_iff (src dst : DeviceStream) :
    (∀ pump, pumpCreate src dst = some pump → PlanesAgree src dst pump) ↔
      ¬ Passable src dst ∨ PlanesMatch src dst := by
  constructor
  · intro h
    by_cases hpass : Passable src dst
    · obtain ⟨pump, hpump⟩ := (pumpCreate_isSome_iff src dst).mpr hpass
      exact Or.inr ((planesAgree_iff hpump).mp (h pump hpump))
    · exact Or.inl hpass
  · rintro (hnot | hmatch) pump hpump
    · exact absurd ((pumpCreate_isSome_iff src dst).mp ⟨pump, hpump⟩) hnot
    · exact (planesAgree_iff hpump).mpr hmatch

def planarStream (type : V4l2BufType) (memory : BufferMemory) (numPlanes count : Nat) :
    DeviceStream :=
  { plainStream type memory count with format := { zeroFormat type with numPlanes := numPlanes } }

/-- A pump is created from two planes to a single-planar stream, and its first frame ends the program. -/
theorem two_planes_to_one :
    ∃ pump, pumpCreate (planarStream .videoCaptureMplane .dmabufExport 2 1)
        (plainStream .videoOutput .dmabufImport 1) = some pump ∧
      ¬ PlanesAgree (planarStream .videoCaptureMplane .dmabufExport 2 1)
          (plainStream .videoOutput .dmabufImport 1) pump ∧
        ∀ sbuf dbuf mem,
          pump.bufferPassFunc.call sbuf dbuf pump.planesCount mem = .error .planesCount :=
  ⟨_, rfl, fun h => absurd h.count (by decide), fun _ _ _ => rfl⟩

end Malincam
