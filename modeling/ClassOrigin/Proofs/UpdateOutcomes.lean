/-
How an update ends, told from the class and the path.

The update looks at the recorded location, at the table of attributes, at the length of the path
and at the room in the pool, in this order, and the first thing in its way decides:

* **`missingTexts`** — the texts that are added when the update gets through;
* **`forecast`** — the outcome, from conditions on the class and the path alone;
* **`Records.eq_forecast`** — every way in which an update can end is the one that is forecast;
* **`setSourceLocation_eq_forecast`** — and a class that is changed gains the missing texts, and
  points at the path by its lowest index.
-/
import ClassOrigin.Proofs.IdleUpdates

namespace ClassOrigin.ClassFile

variable {c after : ClassFile} {path : String} {bytes spelling : Bytes}
  {result : Except Error LocationUpdate} {update : LocationUpdate}

/-! ### The conditions -/

/-- The constants that the location attributes point at, one entry an attribute. -/
def locationConstants (c : ClassFile) : List (Option (Option Constant)) :=
  (c.attributesNamed locationName).map fun named =>
    named.2.index?.bind fun index => c.pool.slots[index.toNat]?

theorem locatedBy_iff :
    c.LocatedBy spelling ↔ c.locationConstants = [some (some (.utf8 spelling))] := by
  simp only [LocatedBy, locationConstants, List.map_eq_singleton_iff, Option.bind_eq_some_iff,
    ConstantPool.Holds]
  constructor
  · rintro ⟨i, a, index, hnamed, hindex, hholds⟩
    exact ⟨(i, a), hnamed, index, hindex, hholds⟩
  · rintro ⟨⟨i, a⟩, hnamed, index, hindex, hholds⟩
    exact ⟨i, a, index, hnamed, hindex, hholds⟩

instance (c : ClassFile) (spelling : Bytes) : Decidable (c.LocatedBy spelling) :=
  decidable_of_iff _ locatedBy_iff.symm

theorem not_locatedBy_of_unnamed (h : c.attributesNamed locationName = []) :
    ¬ c.LocatedBy spelling := by
  rintro ⟨i, a, index, hnamed, -⟩
  rw [h] at hnamed
  cases hnamed

/-- The texts that a class with the location needs: the path, and the name of the attribute where
there is none to take it from. -/
def requiredTexts (c : ClassFile) (path : String) : List String :=
  if c.attributesNamed locationName = [] then [path, locationName] else [path]

/-- Those of them that are not in the pool, each once. -/
def missingTexts (c : ClassFile) (path : String) : List String :=
  c.pool.missing (c.requiredTexts path)

theorem missingTexts_of_unnamed (h : c.attributesNamed locationName = []) :
    c.missingTexts path = c.pool.missing [path, locationName] := by
  rw [missingTexts, requiredTexts, if_pos h]

theorem missingTexts_of_named (h : c.attributesNamed locationName ≠ []) :
    c.missingTexts path = c.pool.missing [path] := by
  rw [missingTexts, requiredTexts, if_neg h]

/-- The path is required in any case. -/
theorem mem_missingTexts (h : ¬ c.pool.Spells path) : path ∈ c.missingTexts path := by
  rw [missingTexts, ConstantPool.mem_missing, requiredTexts]
  refine ⟨?_, h⟩
  split
  · exact List.mem_cons_self
  · exact List.mem_cons_self

/-! ### The outcome -/

/-- The outcome of recording `path` in `c`.  Of several things in its way the first one counts. -/
def forecast (c : ClassFile) (path : String) : Except Error LocationUpdate :=
  if c.LocatedBy (ModifiedUtf8.encode path) then .ok .unchanged
  else if c.attributesNamed locationName = [] ∧ c.attributes.length = 65535 then
    .error .attributeTableFull
  else if 65535 < (ModifiedUtf8.encode path).length then
    .error (.textTooLong (ModifiedUtf8.encode path).length)
  else if 65535 < c.pool.slots.size + (c.missingTexts path).length then .error .poolFull
  else if c.attributesNamed locationName = [] then .ok .inserted
  else .ok .replaced

/-- With room in the table and nothing recorded, the outcome is up to the pool. -/
theorem forecast_of_room (hnot : ¬ c.LocatedBy (ModifiedUtf8.encode path))
    (hroom : c.attributesNamed locationName = [] → c.attributes.length < 65535) :
    c.forecast path =
      if 65535 < (ModifiedUtf8.encode path).length then
        .error (.textTooLong (ModifiedUtf8.encode path).length)
      else if 65535 < c.pool.slots.size + (c.missingTexts path).length then .error .poolFull
      else if c.attributesNamed locationName = [] then .ok .inserted
      else .ok .replaced := by
  rw [forecast, if_neg hnot, if_neg]
  rintro ⟨hnil, hfull⟩
  exact absurd (hroom hnil) (by omega)

/-- An update that changes a class adds what is missing. -/
theorem Records.pool_eq (h : Records c path (.ok update) after) (hne : update ≠ .unchanged) :
    after.pool = c.pool.grow (c.missingTexts path) := by
  cases h with
  | unchanged => exact absurd rfl hne
  | inserted hnil _ hpath hname =>
    rw [missingTexts_of_unnamed hnil]
    exact ConstantPool.grow_of_intern_intern hpath hname
  | replaced _ hfound hpath =>
    rw [missingTexts_of_named hfound]
    exact ConstantPool.grow_of_intern hpath

/-- So the old slots and the missing texts fit. -/
theorem Records.size_add_le (h : Records c path (.ok update) after) (hc : c.WellFormed)
    (hne : update ≠ .unchanged) :
    c.pool.slots.size + (c.missingTexts path).length ≤ 65535 := by
  obtain ⟨-, hsize⟩ := h.extends hc.pool.size_le
  rwa [h.pool_eq hne, ConstantPool.size_grow] at hsize

/-- Every update ends as forecast. -/
theorem Records.eq_forecast (h : Records c path result after) (hc : c.WellFormed) :
    result = c.forecast path := by
  have hrecords := h
  cases h with
  | unchanged hrec => rw [forecast, if_pos (isRecorded_iff_locatedBy.mp hrec)]
  | tableFull hnil hfull =>
    rw [forecast, if_neg (not_locatedBy_of_unnamed hnil),
      if_pos ⟨hnil, Nat.le_antisymm hc.attributes.1 hfull⟩]
  | pathRefused hrec hroom hpath =>
    rw [forecast_of_room (mt isRecorded_iff_locatedBy.mpr hrec) hroom]
    obtain ⟨hnew, hrefused⟩ := ConstantPool.intern_eq_error.mp hpath
    rcases ConstantPool.push_eq_error.mp hrefused with ⟨hlong, rfl⟩ | ⟨hlen, hfull, rfl⟩
    · rw [if_pos hlong]
    · have hmissing := List.length_pos_of_mem (mem_missingTexts hnew)
      rw [if_neg (by omega), if_pos (by omega)]
  | nameRefused hnil hroom hpath hname =>
    rw [forecast_of_room (not_locatedBy_of_unnamed hnil) fun _ => hroom]
    have hlen := ConstantPool.length_le_of_intern hc.pool hpath
    -- What interning the path left to be added is the name.
    obtain ⟨hnew, hfull, rfl⟩ := intern_locationName_eq_error.mp hname
    rw [ConstantPool.grow_of_intern hpath] at hnew hfull
    rw [ConstantPool.size_grow] at hfull
    have hmissing : (c.missingTexts path).length = (c.pool.missing [path]).length + 1 := by
      rw [missingTexts_of_unnamed hnil, ConstantPool.missing_pair,
        ConstantPool.missing_of_not_spells hnew, List.length_append, List.length_singleton]
    rw [if_neg (by omega), if_pos (by omega)]
  | inserted hnil hroom hpath =>
    rw [forecast_of_room (not_locatedBy_of_unnamed hnil) fun _ => hroom]
    have hlen := ConstantPool.length_le_of_intern hc.pool hpath
    have hsize := hrecords.size_add_le hc (by decide)
    rw [if_neg (by omega), if_neg (by omega), if_pos hnil]
  | replaced hrec hfound hpath =>
    rw [forecast_of_room (mt isRecorded_iff_locatedBy.mpr hrec) fun hnil => absurd hnil hfound]
    have hlen := ConstantPool.length_le_of_intern hc.pool hpath
    have hsize := hrecords.size_add_le hc (by decide)
    rw [if_neg (by omega), if_neg (by omega), if_neg hfound]

/-- **The outcome of recording a location, exactly.**  For a class that was read, it is as
forecast.  Where the class is changed, the pool has gained the missing texts and nothing else, the
path in front of the name, and what stands for the location attributes is one whose payload is the
lowest index with the spelling of the path. -/
theorem setSourceLocation_eq_forecast (h : parse bytes = .ok c) (path : String) :
    (c.setSourceLocation path).1 = c.forecast path ∧
      ∀ update, (c.setSourceLocation path).1 = .ok update → update ≠ .unchanged →
        (c.setSourceLocation path).2.pool = c.pool.grow (c.missingTexts path) ∧
        ∃ index front a back, Relocates c (c.setSourceLocation path).2 index front a back ∧
          (c.setSourceLocation path).2.pool.IsIndexOf path index := by
  have hc := (parse_eq_ok.mp h).1
  have hrecords := records_setSourceLocation c path
  refine ⟨hrecords.eq_forecast hc, fun update hupdate hne => ?_⟩
  rw [hupdate] at hrecords
  exact ⟨hrecords.pool_eq hne, hrecords.relocates hc hne⟩

/-- A path that is spelled like the name of the attribute is added once for both. -/
theorem setSourceLocation_eq_forecast_specimen :
    parse specimenBytes = .ok specimen ∧
      (specimen.setSourceLocation locationName).1 = .ok .inserted ∧
      (specimen.setSourceLocation locationName).2.pool = specimen.pool.grow [locationName] ∧
      ∃ index front a back,
        Relocates specimen (specimen.setSourceLocation locationName).2 index front a back ∧
        (specimen.setSourceLocation locationName).2.pool.IsIndexOf locationName index := by
  obtain ⟨hresult, hchange⟩ := setSourceLocation_eq_forecast parse_specimenBytes locationName
  have hinserted : (specimen.setSourceLocation locationName).1 = .ok .inserted :=
    hresult.trans (by decide +kernel)
  obtain ⟨hpool, hplace⟩ := hchange _ hinserted (by decide)
  have hmissing : specimen.missingTexts locationName = [locationName] := by decide +kernel
  exact ⟨parse_specimenBytes, hinserted, hmissing ▸ hpool, hplace⟩

end ClassOrigin.ClassFile
