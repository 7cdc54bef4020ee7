/-
Updates that have nothing to do.

The decision looks at bytes: an update is idle when the only location attribute points at the
path as weaving spells it.  Reading looks at texts, and several spellings read as one text.

* **`weave_of_weave`** — a woven class carries the spelling, so the same weaving leaves it alone;
* **`sourceLocation_eq_some`** — a class reads as a path when the constant it points at does,
  whichever way that constant is spelled;
* **`setSourceLocation_eq_unchanged_iff`** — so an idle update is one of a class that reads as the
  path and does not misspell it, and a class that does is written anew.
-/
import ClassOrigin.Proofs.Weaving

namespace ClassOrigin

open ClassFile Outcome

/-! ### Weaving a second time -/

section

variable {policy : PathPolicy} {location : CodeLocation} {bytes out : Bytes}

/-- **Weaving is done after one time.**  What was woven for a location is left alone when it is
woven for that location again. -/
theorem weave_of_weave (h : weave policy location bytes = .ok (some out)) :
    weave policy location out = .ok none := by
  obtain ⟨path, c, woven, update, hpath, hparse, hrecords, -, hwoven⟩ := records_of_weave h
  have hrecorded := hrecords.isRecorded (parse_eq_ok.mp hparse).1
  exact weave_eq_none.mpr ⟨path, woven, hpath, hwoven, hrecorded⟩

/-- The bytes of a class with two location attributes that point at the second of two equal
constants.  The path has a zero character and one above U+FFFF in it. -/
def echoingBytes : Bytes :=
  [0xCA, 0xFE, 0xBA, 0xBE, 0x00, 0x00, 0x00, 0x34, 0x00, 0x06,
    0x07, 0x00, 0x02,                                                  -- 1
    0x01, 0x00, 0x01, 0x41,                                            -- 2
    0x01, 0x00, 0x0E, 0x53, 0x6F, 0x75, 0x72, 0x63, 0x65,              -- 3, the attribute's name
    0x4C, 0x6F, 0x63, 0x61, 0x74, 0x69, 0x6F, 0x6E,
    0x01, 0x00, 0x09, 0x2F, 0xC0, 0x80, 0xED, 0xA0, 0xBD, 0xED, 0xB8, 0x80,
    0x01, 0x00, 0x09, 0x2F, 0xC0, 0x80, 0xED, 0xA0, 0xBD, 0xED, 0xB8, 0x80,
    0x00, 0x21, 0x00, 0x01, 0x00, 0x00, 0x00, 0x00, 0x00, 0x00, 0x00, 0x00,
    0x00, 0x02,
    0x00, 0x03, 0x00, 0x00, 0x00, 0x02, 0x00, 0x05,
    0x00, 0x03, 0x00, 0x00, 0x00, 0x02, 0x00, 0x05]

/-- The same class with one attribute, which points at the first of the two constants. -/
def settledBytes : Bytes :=
  [0xCA, 0xFE, 0xBA, 0xBE, 0x00, 0x00, 0x00, 0x34, 0x00, 0x06,
    0x07, 0x00, 0x02,                                                  -- 1
    0x01, 0x00, 0x01, 0x41,                                            -- 2
    0x01, 0x00, 0x0E, 0x53, 0x6F, 0x75, 0x72, 0x63, 0x65,              -- 3, the attribute's name
    0x4C, 0x6F, 0x63, 0x61, 0x74, 0x69, 0x6F, 0x6E,
    0x01, 0x00, 0x09, 0x2F, 0xC0, 0x80, 0xED, 0xA0, 0xBD, 0xED, 0xB8, 0x80,
    0x01, 0x00, 0x09, 0x2F, 0xC0, 0x80, 0xED, 0xA0, 0xBD, 0xED, 0xB8, 0x80,
    0x00, 0x21, 0x00, 0x01, 0x00, 0x00, 0x00, 0x00, 0x00, 0x00, 0x00, 0x00,
    0x00, 0x01,
    0x00, 0x03, 0x00, 0x00, 0x00, 0x02, 0x00, 0x04]

theorem weave_of_weave_echoing :
    weave .absolute (.archive (Path.ofText "/\x00😀")) echoingBytes = .ok (some settledBytes) ∧
      weave .absolute (.archive (Path.ofText "/\x00😀")) settledBytes = .ok none :=
  have h : weave .absolute (.archive (Path.ofText "/\x00😀")) echoingBytes =
      .ok (some settledBytes) := by decide +kernel
  ⟨h, weave_of_weave h⟩

end

/-! ### Spellings of the recorded path -/

namespace ClassFile

variable {c : ClassFile} {path : String} {spelling spelling' : Bytes}

/-- The only location attribute points at the string constant with the bytes `spelling`. -/
def LocatedBy (c : ClassFile) (spelling : Bytes) : Prop :=
  ∃ i a index, c.attributesNamed locationName = [(i, a)] ∧ a.index? = some index ∧
    c.pool.Holds index (.utf8 spelling)

/-- There is at most one such constant. -/
theorem LocatedBy.unique (h : c.LocatedBy spelling) (h' : c.LocatedBy spelling') :
    spelling = spelling' := by
  obtain ⟨i, a, index, hnamed, hindex, hholds⟩ := h
  obtain ⟨i', a', index', hnamed', hindex', hholds'⟩ := h'
  rw [hnamed] at hnamed'
  cases hnamed'
  rw [hindex] at hindex'
  cases hindex'
  rw [ConstantPool.Holds] at hholds hholds'
  rw [hholds] at hholds'
  cases hholds'
  rfl

/-- A path is recorded when the constant is spelled as weaving spells the path. -/
theorem isRecorded_iff_locatedBy :
    c.IsRecorded path ↔ c.LocatedBy (ModifiedUtf8.encode path) := by
  simp only [IsRecorded, pointsAt_iff, LocatedBy]
  constructor
  · rintro ⟨i, a, hnamed, index, h⟩
    exact ⟨i, a, index, hnamed, h⟩
  · rintro ⟨i, a, index, hnamed, h⟩
    exact ⟨i, a, hnamed, index, h⟩

theorem indexedText_eq_ok {name text : String} {a : Attribute} :
    c.indexedText name a = .ok text ↔
      ∃ index, a.index? = some index ∧ c.pool.text index = .ok text := by
  rw [indexedText]
  rcases a.index? with _ | index
  · simp
  · simp

/-- A path is read where the constant reads as it. -/
theorem sourceLocation_eq_some :
    c.sourceLocation = .ok (some path) ↔
      ∃ spelling, c.LocatedBy spelling ∧ ModifiedUtf8.decode? spelling = some path := by
  rw [sourceLocation]
  rcases hnamed : c.attributesNamed locationName with _ | ⟨⟨i, a⟩, _ | ⟨second, more⟩⟩
  · simp [LocatedBy, hnamed]
  · simp only [map_eq_ok, indexedText_eq_ok, ConstantPool.text_eq_ok, Option.some.injEq]
    constructor
    · rintro ⟨text, ⟨index, hindex, spelling, hholds, hdecode⟩, rfl⟩
      exact ⟨spelling, ⟨i, a, index, hnamed, hindex, hholds⟩, hdecode⟩
    · rintro ⟨spelling, ⟨i', a', index, hnamed', hindex, hholds⟩, hdecode⟩
      rw [hnamed] at hnamed'
      cases hnamed'
      exact ⟨path, ⟨index, hindex, spelling, hholds, hdecode⟩, rfl⟩
  · simp [LocatedBy, hnamed]

/-- The class reads as `path`, but the constant is not spelled as weaving spells the path. -/
def Misspells (c : ClassFile) (path : String) : Prop :=
  ∃ spelling, c.LocatedBy spelling ∧ ModifiedUtf8.decode? spelling = some path ∧
    spelling ≠ ModifiedUtf8.encode path

theorem Misspells.sourceLocation_eq (h : c.Misspells path) :
    c.sourceLocation = .ok (some path) := by
  obtain ⟨spelling, hlocated, hdecode, -⟩ := h
  exact sourceLocation_eq_some.mpr ⟨spelling, hlocated, hdecode⟩

theorem Misspells.not_isRecorded (h : c.Misspells path) : ¬ c.IsRecorded path := by
  obtain ⟨spelling, hlocated, -, hne⟩ := h
  intro hrec
  exact hne (hlocated.unique (isRecorded_iff_locatedBy.mp hrec))

/-- Recorded paths are those that are read and not misspelled. -/
theorem isRecorded_iff_sourceLocation :
    c.IsRecorded path ↔ c.sourceLocation = .ok (some path) ∧ ¬ c.Misspells path := by
  constructor
  · intro h
    exact ⟨h.sourceLocation_eq, fun hmisspells => hmisspells.not_isRecorded h⟩
  · rintro ⟨hread, hnot⟩
    obtain ⟨spelling, hlocated, hdecode⟩ := sourceLocation_eq_some.mp hread
    rw [isRecorded_iff_locatedBy]
    by_cases heq : spelling = ModifiedUtf8.encode path
    · rwa [← heq]
    · exact absurd ⟨spelling, hlocated, hdecode, heq⟩ hnot

/-- A misspelled path is written anew, if there is room for it. -/
theorem Misspells.setSourceLocation_eq (h : c.Misspells path) :
    (c.setSourceLocation path).1 = (c.pool.intern path).map fun _ => .replaced := by
  have hne : c.attributesNamed locationName ≠ [] := by
    obtain ⟨-, ⟨i, a, index, hnamed, -⟩, -⟩ := h
    simp [hnamed]
  rw [setSourceLocation_of_not_isRecorded h.not_isRecorded, if_neg fun hfull => hne hfull.1]
  rcases c.pool.intern path with e | ⟨index, pool⟩
  · rfl
  · simp only [if_neg hne]
    rfl

/-- **Idle updates and reading.**  An update does nothing exactly for a class that reads as the
path and does not misspell it.  A class that misspells it is given the location that it reads as
already, or is refused where the pool refuses the path.  Weaving is idle for the same classes. -/
theorem setSourceLocation_eq_unchanged_iff (c : ClassFile) (path : String) (policy : PathPolicy)
    (location : CodeLocation) (bytes : Bytes) :
    ((c.setSourceLocation path).1 = .ok .unchanged ↔
        c.sourceLocation = .ok (some path) ∧ ¬ c.Misspells path) ∧
      (c.Misspells path → c.sourceLocation = .ok (some path) ∧
        (c.setSourceLocation path).1 = (c.pool.intern path).map fun _ => .replaced) ∧
      (weave policy location bytes = .ok none ↔
        ∃ wanted found, location.canonicalPath? policy = some wanted ∧ parse bytes = .ok found ∧
          found.sourceLocation = .ok (some wanted) ∧ ¬ found.Misspells wanted) := by
  refine ⟨?_, fun h => ⟨h.sourceLocation_eq, h.setSourceLocation_eq⟩, ?_⟩
  · rw [setSourceLocation_eq_unchanged, isRecorded_iff_sourceLocation]
  · simp only [weave_eq_none, isRecorded_iff_sourceLocation]

/-- A class that is located by a constant with the bytes `spelling`. -/
def spelled (spelling : Bytes) : ClassFile where
  minor := 0
  major := 52
  pool := ⟨#[none, some (.classRef 2), some (.utf8 [0x41]),
    some (.utf8 (ModifiedUtf8.encode locationName)), some (.utf8 spelling)]⟩
  access := 0x0021
  thisClass := 1
  superClass := 0
  interfaces := []
  fields := []
  methods := []
  attributes := [⟨3, [0x00, 0x04]⟩]

/-- A class that reads as a path and is changed when that path is recorded: the constant writes
`A` in two bytes. -/
theorem setSourceLocation_eq_unchanged_iff_spelled :
    parse (spelled [0x2F, 0xC1, 0x81]).toBytes = .ok (spelled [0x2F, 0xC1, 0x81]) ∧
      (spelled [0x2F, 0xC1, 0x81]).sourceLocation = .ok (some "/A") ∧
      ((spelled [0x2F, 0xC1, 0x81]).setSourceLocation "/A").1 = .ok .replaced ∧
      weave .absolute (.directory (Path.ofText "/A")) (spelled [0x2F, 0xC1, 0x81]).toBytes ≠
        .ok none := by
  have hmisspells : (spelled [0x2F, 0xC1, 0x81]).Misspells "/A" :=
    ⟨[0x2F, 0xC1, 0x81], ⟨0, ⟨3, [0x00, 0x04]⟩, 4, by decide +kernel, rfl, rfl⟩,
      by decide +kernel, by decide +kernel⟩
  have hparse : parse (spelled [0x2F, 0xC1, 0x81]).toBytes = .ok (spelled [0x2F, 0xC1, 0x81]) := by
    decide +kernel
  obtain ⟨-, hreplaced, hweave⟩ := setSourceLocation_eq_unchanged_iff
    (spelled [0x2F, 0xC1, 0x81]) "/A" .absolute (.directory (Path.ofText "/A"))
    (spelled [0x2F, 0xC1, 0x81]).toBytes
  obtain ⟨hread, hresult⟩ := hreplaced hmisspells
  refine ⟨hparse, hread, ?_, fun hidle => ?_⟩
  · rw [hresult]
    decide +kernel
  · obtain ⟨wanted, found, hwanted, hfound, -, hnot⟩ := hweave.mp hidle
    have hsame : wanted = "/A" := Option.some.inj (hwanted.symm.trans (by decide +kernel))
    rw [hparse] at hfound
    cases hfound
    exact hnot (hsame ▸ hmisspells)

-- A lone surrogate is read as U+FFFD, which is spelled in another way.
example :
    (spelled [0x2F, 0xED, 0xA0, 0x80]).sourceLocation = .ok (some "/\uFFFD") ∧
      ((spelled [0x2F, 0xED, 0xA0, 0x80]).setSourceLocation "/\uFFFD").1 = .ok .replaced := by
  decide +kernel

end ClassFile

end ClassOrigin
