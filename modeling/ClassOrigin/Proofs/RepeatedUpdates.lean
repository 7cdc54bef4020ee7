/-
Recording locations one after the other.

A class that moves between locations is given the path of each, and often one that it had before.
Constants are never taken out of a pool again, so this is where they could pile up:

* **`recordAll`** — the class after any number of updates, those that failed included;
* **`Records.gainsNew`** — what one update adds is new to the pool;
* **`gainsNew_recordAll`** — hence all of them together add each text once, by induction;
* **`sourceLocation_recordAll`** — and the location is the last one that was not refused;
* **`recordAll_of_parse`** — so the pool grows by no more than the number of paths and one.
-/
import ClassOrigin.Proofs.LocationUpdate

namespace ClassOrigin.ClassFile

open ConstantPool

/-- Records the paths one after the other.  A path that is refused is passed over, and the next
one is recorded in the class that was left. -/
def recordAll (c : ClassFile) : List String → ClassFile
  | [] => c
  | path :: paths => (c.setSourceLocation path).2.recordAll paths

/-- The last of the paths that is not refused. -/
def lastRecorded (c : ClassFile) : List String → Option String
  | [] => none
  | path :: paths =>
    ((c.setSourceLocation path).2.lastRecorded paths).or
      ((c.setSourceLocation path).1.toOption.map fun _ => path)

variable {c after : ClassFile} {path : String} {paths : List String} {names P : Finset String}
  {bytes : Bytes} {result : Except Error LocationUpdate}

/-! ### One update -/

/-- What an update adds is new to the pool, whether it succeeds or not. -/
theorem Records.gainsNew (h : Records c path result after) (hpath : path ∈ names)
    (hname : locationName ∈ names) : GainsNew names c.pool after.pool := by
  obtain ⟨texts, htexts, hgrow⟩ := h.exists_grow_missing
  rw [hgrow]
  refine gainsNew_missing fun t ht => ?_
  have hmem := htexts.subset ht
  simp only [List.mem_cons, List.not_mem_nil, or_false] at hmem
  rcases hmem with rfl | rfl
  · exact hpath
  · exact hname

/-- A refused path leaves the location as it was.  The class may have one constant more, but then
it had no location attribute, and has none now. -/
theorem Records.sourceLocation_of_error {e : Error} (h : Records c path (.error e) after)
    (hc : c.WellFormed) : after.sourceLocation = c.sourceLocation := by
  obtain ⟨hext, -⟩ := h.extends hc.pool.size_le
  rcases h.of_error with ⟨rfl, -⟩ | ⟨hshort, -, rfl⟩
  · rfl
  · have hunnamed := attributesNamed_eq_nil_of_extends hc hext rfl hshort.unnamed
    simp only [sourceLocation, hshort.unnamed, hunnamed]

/-! ### Any number of updates -/

/-- Together the updates add each text once, if at all. -/
theorem gainsNew_recordAll (hpaths : ∀ path ∈ paths, path ∈ names)
    (hname : locationName ∈ names) : GainsNew names c.pool (c.recordAll paths).pool := by
  induction paths generalizing c with
  | nil => exact .refl _
  | cons path paths ih =>
    rw [List.forall_mem_cons] at hpaths
    have hstep := (records_setSourceLocation c path).gainsNew hpaths.1 hname
    exact hstep.trans (ih hpaths.2)

/-- The location is the last path that was not refused, or what it was if all were. -/
theorem sourceLocation_recordAll (hc : c.WellFormed) (paths : List String) :
    (c.recordAll paths).sourceLocation =
      (c.lastRecorded paths).elim c.sourceLocation fun path => .ok (some path) := by
  induction paths generalizing c with
  | nil => rfl
  | cons path paths ih =>
    have hrecords := records_setSourceLocation c path
    rw [recordAll, ih (hrecords.wellFormed hc), lastRecorded]
    rcases (c.setSourceLocation path).2.lastRecorded paths with _ | last
    · -- All later paths were refused, so the location is what this update left.
      rcases hresult : (c.setSourceLocation path).1 with e | update
      · rw [hresult] at hrecords
        exact hrecords.sourceLocation_of_error hc
      · rw [hresult] at hrecords
        exact (hrecords.isRecorded hc).sourceLocation_eq
    · rfl

/-- **Pools do not fill up with locations.**  However often paths out of `P` are recorded in a
class that was read, and whatever is refused on the way, its pool gains no more slots than `P` has
paths, and one for the name of the attribute.  The old slots stay as they are, and each new one
holds a string constant whose bytes are found nowhere else in the pool.  In the end the class reads
as the last path that was not refused. -/
theorem recordAll_of_parse (h : parse bytes = .ok c) (hpaths : ∀ path ∈ paths, path ∈ P) :
    (c.recordAll paths).pool.slots.size ≤ c.pool.slots.size + (P.card + 1) ∧
      (∀ i < c.pool.slots.size, (c.recordAll paths).pool.slots[i]? = c.pool.slots[i]?) ∧
      (∀ i, c.pool.slots.size ≤ i → i < (c.recordAll paths).pool.slots.size →
        ∃ spelling, (c.recordAll paths).pool.slots[i]? = some (some (.utf8 spelling)) ∧
          ∀ j : Nat, (c.recordAll paths).pool.slots[j]? = some (some (.utf8 spelling)) → j = i) ∧
      (∀ path, c.lastRecorded paths = some path →
        (c.recordAll paths).sourceLocation = .ok (some path)) ∧
      (c.lastRecorded paths = none →
        (c.recordAll paths).sourceLocation = c.sourceLocation) := by
  have hgains : GainsNew (insert locationName P) c.pool (c.recordAll paths).pool :=
    gainsNew_recordAll (fun path hpath => Finset.mem_insert_of_mem (hpaths path hpath))
      (Finset.mem_insert_self _ _)
  have hread := sourceLocation_recordAll (parse_eq_ok.mp h).1 paths
  refine ⟨?_, fun i => hgains.getElem?, fun i => hgains.exists_unique, fun path hlast => ?_,
    fun hlast => ?_⟩
  · have hcard := Finset.card_insert_le locationName P
    have hsize := hgains.size_le
    omega
  · rw [hread, hlast, Option.elim_some]
  · rw [hread, hlast, Option.elim_none]

/-- A class that moves to another place and back gains two paths and the name of the attribute. -/
theorem recordAll_of_parse_specimen :
    parse specimenBytes = .ok specimen ∧
      (specimen.recordAll ["/a", "/b", "/a"]).pool.slots.size ≤ specimen.pool.slots.size + 3 ∧
      (∃ spelling,
        (specimen.recordAll ["/a", "/b", "/a"]).pool.slots[specimen.pool.slots.size]? =
          some (some (.utf8 spelling)) ∧
        ∀ j : Nat, (specimen.recordAll ["/a", "/b", "/a"]).pool.slots[j]? =
          some (some (.utf8 spelling)) → j = specimen.pool.slots.size) ∧
      (specimen.recordAll ["/a", "/b", "/a"]).sourceLocation = .ok (some "/a") := by
  have hpaths : ∀ path ∈ ["/a", "/b", "/a"], path ∈ ({"/a", "/b"} : Finset String) := by decide
  obtain ⟨hsize, -, hnew, hlast, -⟩ := recordAll_of_parse parse_specimenBytes hpaths
  exact ⟨parse_specimenBytes, hsize, hnew _ (Nat.le_refl _) (by decide +kernel),
    hlast "/a" (by decide +kernel)⟩

end ClassOrigin.ClassFile
