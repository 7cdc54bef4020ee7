/-
Woven classes.

* **`weave_eq_some`** — weaving changes a class when the location is a place on disk, the bytes
  are those of a class, and the update of the class goes through and is not idle;
* **`weave_eq_none`** — it leaves a class as it is when the path is recorded there already;
* **`weave_eq_malformed`** — it fails on a class when reading it or recording the path fails;
* **`records_of_weave`** — the two classes behind a changed pair of byte strings, and the update
  between them;
* **`sourceLocation_of_weave`** — a woven class is read back, and carries its location once.
-/
import ClassOrigin.Proofs.LocationUpdate
import ClassOrigin.Weaving

namespace ClassOrigin

open ClassFile Outcome

variable {policy : PathPolicy} {location : CodeLocation} {path : String} {bytes out : Bytes}

/-! ### When a class is changed -/

theorem weave_eq_ok {result : Option Bytes} :
    weave policy location bytes = .ok result ↔
      ∃ path, location.canonicalPath? policy = some path ∧ recordPath path bytes = .ok result := by
  rw [weave]
  rcases location.canonicalPath? policy with _ | path
  · simp
  · simp [mapError_eq_ok]

theorem recordPath_eq_some :
    recordPath path bytes = .ok (some out) ↔
      ∃ c update, parse bytes = .ok c ∧ (c.setSourceLocation path).1 = .ok update ∧
        update ≠ .unchanged ∧ out = (c.setSourceLocation path).2.toBytes := by
  simp only [recordPath, bind_eq_ok]
  constructor
  · rintro ⟨c, hparse, update, hupdate, hout⟩
    refine ⟨c, update, hparse, hupdate, ?_⟩
    cases update with
    | unchanged => cases hout
    | inserted | replaced =>
      cases hout
      exact ⟨nofun, rfl⟩
  · rintro ⟨c, update, hparse, hupdate, hne, rfl⟩
    refine ⟨c, hparse, update, hupdate, ?_⟩
    cases update with
    | unchanged => exact absurd rfl hne
    | inserted | replaced => rfl

theorem weave_eq_some :
    weave policy location bytes = .ok (some out) ↔
      ∃ path c update, location.canonicalPath? policy = some path ∧ parse bytes = .ok c ∧
        (c.setSourceLocation path).1 = .ok update ∧ update ≠ .unchanged ∧
        out = (c.setSourceLocation path).2.toBytes := by
  simp only [weave_eq_ok, recordPath_eq_some]
  constructor
  · rintro ⟨path, hpath, c, update, h⟩
    exact ⟨path, c, update, hpath, h⟩
  · rintro ⟨path, c, update, hpath, h⟩
    exact ⟨path, hpath, c, update, h⟩

theorem recordPath_eq_none :
    recordPath path bytes = .ok none ↔
      ∃ c, parse bytes = .ok c ∧ (c.setSourceLocation path).1 = .ok .unchanged := by
  simp only [recordPath, bind_eq_ok]
  constructor
  · rintro ⟨c, hparse, update, hupdate, hout⟩
    cases update with
    | unchanged => exact ⟨c, hparse, hupdate⟩
    | inserted | replaced => cases hout
  · rintro ⟨c, hparse, hupdate⟩
    exact ⟨c, hparse, .unchanged, hupdate, rfl⟩

/-- Weaving has nothing to do for a class in which the path of the location is recorded. -/
theorem weave_eq_none :
    weave policy location bytes = .ok none ↔
      ∃ path c, location.canonicalPath? policy = some path ∧ parse bytes = .ok c ∧
        c.IsRecorded path := by
  simp only [weave_eq_ok, recordPath_eq_none, setSourceLocation_eq_unchanged]
  constructor
  · rintro ⟨path, hpath, c, h⟩
    exact ⟨path, c, hpath, h⟩
  · rintro ⟨path, c, hpath, h⟩
    exact ⟨path, hpath, c, h⟩

/-! ### When a class cannot be woven -/

/-- The bytes are no class, or one in which `path` cannot be recorded. -/
def Unrecordable (path : String) (bytes : Bytes) : Prop :=
  (∃ e, parse bytes = .error e) ∨
    ∃ c e, parse bytes = .ok c ∧ (c.setSourceLocation path).1 = .error e

theorem unrecordable_iff : Unrecordable path bytes ↔ ∃ e, recordPath path bytes = .error e := by
  simp only [recordPath, bind_eq_error]
  constructor
  · rintro (⟨e, h⟩ | ⟨c, e, hparse, hupdate⟩)
    · exact ⟨e, .inl h⟩
    · exact ⟨e, .inr ⟨c, hparse, .inl hupdate⟩⟩
  · rintro ⟨e, h | ⟨c, hparse, hupdate | ⟨update, -, h⟩⟩⟩
    · exact .inl ⟨e, h⟩
    · exact .inr ⟨c, e, hparse, hupdate⟩
    · -- An update that went through leaves nothing that could fail.
      cases update with
      | unchanged | inserted | replaced => cases h

theorem weave_of_canonicalPath (h : location.canonicalPath? policy = some path) :
    weave policy location bytes = (recordPath path bytes).mapError .malformedClass := by
  rw [weave, h]

theorem weave_eq_malformed :
    (∃ e, weave policy location bytes = .error (.malformedClass e)) ↔
      ∃ path, location.canonicalPath? policy = some path ∧ Unrecordable path bytes := by
  rcases hpath : location.canonicalPath? policy with _ | path
  · simp [weave, hpath]
  · simp only [weave_of_canonicalPath hpath, unrecordable_iff, Option.some.injEq,
      exists_eq_left']
    rcases recordPath path bytes with e | result
    · simp [Except.mapError]
    · simp [Except.mapError]

theorem exists_weave_eq_ok :
    (∃ result, weave policy location bytes = .ok result) ↔
      ∃ path, location.canonicalPath? policy = some path ∧ ¬ Unrecordable path bytes := by
  rcases hpath : location.canonicalPath? policy with _ | path
  · simp [weave, hpath]
  · simp only [weave_of_canonicalPath hpath, unrecordable_iff, Option.some.injEq,
      exists_eq_left']
    rcases recordPath path bytes with e | result
    · simp [Except.mapError]
    · simp [Except.mapError]

theorem canonicalPath_eq_none :
    location.canonicalPath? policy = none ↔ location.isResolvable = false := by
  rw [CodeLocation.canonicalPath?, CodeLocation.isResolvable, Option.map_eq_none_iff]
  rcases location.path? with _ | path
  · simp
  · simp

/-! ### The two classes of a change -/

/-- A changed class is a read one after an update that went through, and is read again. -/
theorem records_of_weave (h : weave policy location bytes = .ok (some out)) :
    ∃ path c woven update, location.canonicalPath? policy = some path ∧ parse bytes = .ok c ∧
      Records c path (.ok update) woven ∧ update ≠ .unchanged ∧ parse out = .ok woven := by
  obtain ⟨path, c, update, hpath, hparse, hupdate, hne, rfl⟩ := weave_eq_some.mp h
  have hrecords := records_setSourceLocation c path
  rw [hupdate] at hrecords
  have hwoven := hrecords.wellFormed (parse_eq_ok.mp hparse).1
  exact ⟨path, c, _, update, hpath, hparse, hrecords, hne, parse_eq_ok.mpr ⟨hwoven, rfl⟩⟩

/-- Where weaving goes through, changed or not, the class carries its location. -/
theorem located_of_weave {result : Option Bytes} (h : weave policy location bytes = .ok result) :
    ∃ path c, location.canonicalPath? policy = some path ∧
      parse (result.getD bytes) = .ok c ∧ c.sourceLocation = .ok (some path) := by
  rcases result with _ | out
  · obtain ⟨path, c, hpath, hparse, hrecorded⟩ := weave_eq_none.mp h
    exact ⟨path, c, hpath, hparse, hrecorded.sourceLocation_eq⟩
  · obtain ⟨path, c, woven, update, hpath, hparse, hrecords, -, hwoven⟩ := records_of_weave h
    have hrecorded := hrecords.isRecorded (parse_eq_ok.mp hparse).1
    exact ⟨path, woven, hpath, hwoven, hrecorded.sourceLocation_eq⟩

/-! ### What a changed class carries -/

/-- **A woven class carries its location once.**  Whatever the class carried before, what is
written can be read, has one location attribute with a payload of two bytes, and gives the
canonical path of the location back. -/
theorem sourceLocation_of_weave (h : weave policy location bytes = .ok (some out)) :
    ∃ woven path, parse out = .ok woven ∧ location.canonicalPath? policy = some path ∧
      (∃ i a, woven.attributesNamed locationName = [(i, a)] ∧ a.payload.length = 2) ∧
      woven.sourceLocation = .ok (some path) := by
  obtain ⟨path, c, update, hpath, hparse, hupdate, -, rfl⟩ := weave_eq_some.mp h
  have hc : c.WellFormed := (parse_eq_ok.mp hparse).1
  have hrecords := records_setSourceLocation c path
  rw [hupdate] at hrecords
  have hwoven := parse_eq_ok.mpr ⟨hrecords.wellFormed hc, rfl⟩
  have hrecorded := hrecords.isRecorded hc
  have ⟨i, a, hnamed, hpoints⟩ := hrecorded
  obtain ⟨index, hindex, -⟩ := pointsAt_iff.mp hpoints
  exact ⟨_, path, hwoven, hpath, ⟨i, a, hnamed, length_payload_of_index? hindex⟩,
    hrecorded.sourceLocation_eq⟩

/-- The bytes of a class with three location attributes: one that points at no constant, one of
another size, and one that is out of date.  Another attribute stands between them. -/
def clutteredBytes : Bytes :=
  [0xCA, 0xFE, 0xBA, 0xBE, 0x00, 0x00, 0x00, 0x34, 0x00, 0x06,
    0x07, 0x00, 0x02,                                                  -- 1
    0x01, 0x00, 0x01, 0x41,                                            -- 2
    0x01, 0x00, 0x0E, 0x53, 0x6F, 0x75, 0x72, 0x63, 0x65,              -- 3, the attribute's name
    0x4C, 0x6F, 0x63, 0x61, 0x74, 0x69, 0x6F, 0x6E,
    0x01, 0x00, 0x04, 0x2F, 0x6F, 0x6C, 0x64,                          -- 4, the old path
    0x01, 0x00, 0x01, 0x58,                                            -- 5
    0x00, 0x21, 0x00, 0x01, 0x00, 0x00, 0x00, 0x00, 0x00, 0x00, 0x00, 0x00,
    0x00, 0x04,
    0x00, 0x03, 0x00, 0x00, 0x00, 0x02, 0x00, 0x63,                    -- points at no constant
    0x00, 0x05, 0x00, 0x00, 0x00, 0x00,
    0x00, 0x03, 0x00, 0x00, 0x00, 0x03, 0x00, 0x04, 0x00,              -- is of another size
    0x00, 0x03, 0x00, 0x00, 0x00, 0x02, 0x00, 0x04]                    -- is out of date

/-- The same class after `/app` has been recorded in it. -/
def tidiedBytes : Bytes :=
  [0xCA, 0xFE, 0xBA, 0xBE, 0x00, 0x00, 0x00, 0x34, 0x00, 0x07,
    0x07, 0x00, 0x02,                                                  -- 1
    0x01, 0x00, 0x01, 0x41,                                            -- 2
    0x01, 0x00, 0x0E, 0x53, 0x6F, 0x75, 0x72, 0x63, 0x65,              -- 3, the attribute's name
    0x4C, 0x6F, 0x63, 0x61, 0x74, 0x69, 0x6F, 0x6E,
    0x01, 0x00, 0x04, 0x2F, 0x6F, 0x6C, 0x64,                          -- 4, the old path
    0x01, 0x00, 0x01, 0x58,                                            -- 5
    0x01, 0x00, 0x04, 0x2F, 0x61, 0x70, 0x70,                          -- 6
    0x00, 0x21, 0x00, 0x01, 0x00, 0x00, 0x00, 0x00, 0x00, 0x00, 0x00, 0x00,
    0x00, 0x02,
    0x00, 0x03, 0x00, 0x00, 0x00, 0x02, 0x00, 0x06,
    0x00, 0x05, 0x00, 0x00, 0x00, 0x00]

theorem sourceLocation_of_weave_cluttered :
    weave .absolute (.directory (Path.ofText "/app")) clutteredBytes = .ok (some tidiedBytes) ∧
      ∃ woven path, parse tidiedBytes = .ok woven ∧
        CodeLocation.canonicalPath? (.directory (Path.ofText "/app")) .absolute = some path ∧
        (∃ i a, woven.attributesNamed locationName = [(i, a)] ∧ a.payload.length = 2) ∧
        woven.sourceLocation = .ok (some path) :=
  have h : weave .absolute (.directory (Path.ofText "/app")) clutteredBytes =
      .ok (some tidiedBytes) := by decide +kernel
  ⟨h, sourceLocation_of_weave h⟩

end ClassOrigin
