/-
Blueprints are read as what they lay out.

The bytes of a blueprint are put together without a class, and a class is written without a
blueprint, so nothing but the format ties the two together.  Here each blueprint is given its class,
and both are shown to put down the same bytes:

* **`classFile`** — the class that a blueprint describes;
* **`toBytes_classFile`** — it is written as the blueprint lays it out, stretch by stretch;
* **`wellFormed_classFile`** — it is well formed, as long as its indices and texts fit;
* **`exists_parse_toBytes`** — so a blueprint is read, and what it says is found again.
-/
import ClassOrigin.ClassFile.Blueprint
import ClassOrigin.Proofs.WovenBytes

namespace ClassOrigin

namespace BlueprintAttribute

/-- The text of an attribute that names a source file. -/
def sourceFile? : BlueprintAttribute → Option String
  | sourceFile text => some text
  | sourceLocation _ => none

/-- The text of an attribute that gives a location. -/
def sourceLocation? : BlueprintAttribute → Option String
  | sourceFile _ => none
  | sourceLocation text => some text

end BlueprintAttribute

namespace Blueprint

open ClassFile ConstantPool

variable {b : Blueprint} {attributes : List BlueprintAttribute} {a : BlueprintAttribute}
  {name shown : String} {i : Nat}

/-- The texts of the source file attributes, in order. -/
def sourceFiles (b : Blueprint) : List String :=
  b.attributes.filterMap BlueprintAttribute.sourceFile?

/-- The texts of the location attributes, in order. -/
def sourceLocations (b : Blueprint) : List String :=
  b.attributes.filterMap BlueprintAttribute.sourceLocation?

/-- What is read where these are the values of the location attributes. -/
def onlyLocation : List String → Except Error (Option String)
  | [] => .ok none
  | [value] => .ok (some value)
  | _ => .error (.malformedAttribute locationName)

/-- What keeps a blueprint within the format: a version that is read, no other index in place of
that of the class's own constant, no more attributes than there are slots for their texts, and
texts whose spellings have a length that 16 bits hold. -/
structure Fits (b : Blueprint) : Prop where
  version : supportsVersion b.major b.minor = true
  thisIndex : b.thisIndex = none
  attributes : b.attributes.length ≤ 32757
  name : (ModifiedUtf8.encode b.name).length ≤ 65535
  values : ∀ a ∈ b.attributes, (ModifiedUtf8.encode a.text).length ≤ 65535

/-! ### The class of a blueprint -/

/-- The pool that the class attributes are put behind. -/
def commonPool (name : String) : ConstantPool :=
  ⟨#[none,
    some (.utf8 (ModifiedUtf8.encode name)),
    some (.classRef 1),
    some (.utf8 (ModifiedUtf8.encode "java/lang/Object")),
    some (.classRef 3),
    some (.utf8 (ModifiedUtf8.encode "java/io/Serializable")),
    some (.classRef 5),
    some (.utf8 (ModifiedUtf8.encode "<init>")),
    some (.utf8 (ModifiedUtf8.encode "()V")),
    some (.nameAndType 7 8),
    some (.methodRef 4 9),
    some (.utf8 (ModifiedUtf8.encode "Code")),
    some (.utf8 (ModifiedUtf8.encode "COUNT")),
    some (.utf8 (ModifiedUtf8.encode "J")),
    some (.utf8 (ModifiedUtf8.encode "ConstantValue")),
    some (.long 42), none,
    some (.double 0x4004000000000000), none,
    some (.float 0x7FC00001)]⟩

/-- The texts that the class attributes add to the pool: the name and the value of each. -/
def texts (attributes : List BlueprintAttribute) : List String :=
  attributes.flatMap fun a => [a.name, a.text]

/-- The class attribute at a position. -/
def attributeAt (i : Nat) : Attribute :=
  ⟨UInt16.ofNat (firstFree + 2 * i), Bytes.ofWord16 (UInt16.ofNat (firstFree + 2 * i + 1))⟩

/-- The class that a blueprint describes. -/
def classFile (b : Blueprint) : ClassFile where
  minor := b.minor
  major := b.major
  pool := (commonPool b.name).grow (texts b.attributes)
  access := 0x0021
  thisClass := 2
  superClass := if b.hasSuper then 4 else 0
  interfaces := [6]
  fields := [⟨0x0019, 12, 13, [⟨14, Bytes.ofWord16 15⟩]⟩]
  methods := [⟨0x0001, 7, 8, [⟨11, constructorCode⟩]⟩]
  attributes := (List.range b.attributes.length).map attributeAt

/-! ### Both put down the same bytes -/

theorem size_commonPool : (commonPool name).slots.size = firstFree := rfl

theorem length_texts : (texts attributes).length = 2 * attributes.length := by
  induction attributes with
  | nil => rfl
  | cons a attributes ih =>
    rw [texts, List.flatMap_cons, List.length_append, List.length_cons, ← texts, ih]
    show 2 + 2 * attributes.length = 2 * (attributes.length + 1)
    omega

theorem size_classFile_pool :
    b.classFile.pool.slots.size = firstFree + 2 * b.attributes.length := by
  show ((commonPool b.name).grow (texts b.attributes)).slots.size = _
  rw [size_grow, length_texts, size_commonPool]

/-- The unusable slots behind the two wide constants take no bytes. -/
theorem encodeSlots_commonPool :
    encodeSlots (commonPool name).slots.toList = commonEntries name := by
  -- The equation that unfolding by name would bring in takes seconds to be generated.
  delta commonEntries
  simp only [commonPool, encodeSlots_none, encodeSlots_some, encodeSlots_nil, List.append_nil,
    List.append_assoc]
  rfl

theorem attributeEntries_eq :
    attributeEntries attributes =
      (texts attributes).flatMap fun text => (Constant.utf8 (ModifiedUtf8.encode text)).encode := by
  rw [attributeEntries, texts, List.flatMap_assoc]
  refine List.flatMap_congr fun a _ => ?_
  rw [List.flatMap_cons, List.flatMap_singleton]
  rfl

theorem attributeTable_eq :
    attributeTable attributes =
      encodeTable Attribute.encode ((List.range attributes.length).map attributeAt) := by
  rw [attributeTable, encodeTable, List.length_map, List.length_range, List.flatMap_map]
  rfl

/-- The class of a blueprint is written as the blueprint lays it out. -/
theorem toBytes_classFile (hthis : b.thisIndex = none) : b.classFile.toBytes = b.toBytes := by
  rw [toBytes_eq, size_classFile_pool, toBytes, hthis, attributeEntries_eq, attributeTable_eq,
    ← encodeSlots_commonPool]
  show _ ++ _ ++ encodeSlots ((commonPool b.name).grow (texts b.attributes)).slots.toList ++ _ ++ _
    = _
  rw [encodeSlots_grow, headBytes, middleBytes]
  simp only [List.append_assoc]
  rfl

/-! ### The class is well formed -/

theorem checkReferences_commonPool : (commonPool name).checkReferences = .ok () := rfl

theorem wellFormed_commonPool (hname : (ModifiedUtf8.encode name).length ≤ 65535) :
    (commonPool name).WellFormed := by
  refine wellFormed_iff.mpr
    ⟨⟨_, rfl, show 20 ≤ 65535 by omega, ?_, fun c hc => ?_⟩, checkReferences_commonPool⟩
  · -- Only the two wide constants have an unusable slot behind them.
    repeat' first
      | exact .nil
      | refine .narrow rfl ?_
      | refine .wide rfl ?_
  · cases c with
    | utf8 bytes =>
      show bytes.length ≤ 65535
      simp only [List.mem_cons, Option.some.injEq, Constant.utf8.injEq, reduceCtorEq, false_or,
        List.not_mem_nil, or_false] at hc
      rcases hc with rfl | rfl | rfl | rfl | rfl | rfl | rfl | rfl | rfl
      · exact hname
      all_goals decide +kernel
    | _ => trivial

theorem length_encode_name (a : BlueprintAttribute) :
    (ModifiedUtf8.encode a.name).length ≤ 65535 := by
  cases a with
  | sourceFile =>
    show (ModifiedUtf8.encode "SourceFile").length ≤ 65535
    decide +kernel
  | sourceLocation =>
    show (ModifiedUtf8.encode "SourceLocation").length ≤ 65535
    decide +kernel

theorem Fits.extends (h : b.Fits) : (commonPool b.name).Extends b.classFile.pool := by
  refine ⟨texts b.attributes, rfl, fun t ht => ?_⟩
  obtain ⟨a, ha, hta⟩ := List.mem_flatMap.mp ht
  rcases List.mem_pair.mp hta with rfl | rfl
  · exact length_encode_name a
  · exact h.values a ha

theorem Fits.size_le (h : b.Fits) : b.classFile.pool.slots.size ≤ 65535 := by
  have hle := h.attributes
  rw [size_classFile_pool, firstFree]
  omega

/-- A class constant of the common pool reads as the text it was made for. -/
theorem Fits.className_eq_ok (h : b.Fits) {index place : UInt16} {text : String}
    (hclass : (commonPool b.name).Holds index (.classRef place))
    (htext : (commonPool b.name).Holds place (.utf8 (ModifiedUtf8.encode text))) :
    b.classFile.pool.className index = .ok text :=
  ConstantPool.className_eq_ok.mpr
    ⟨place, h.extends.holds hclass, ConstantPool.text_of_holds_encode (h.extends.holds htext)⟩

/-- The name and the value of an attribute are added side by side. -/
theorem getElem?_texts (h : attributes[i]? = some a) :
    (texts attributes)[2 * i]? = some a.name ∧ (texts attributes)[2 * i + 1]? = some a.text := by
  induction attributes generalizing i with
  | nil => simp at h
  | cons first attributes ih =>
    cases i with
    | zero =>
      obtain rfl : first = a := by simpa using h
      exact ⟨rfl, rfl⟩
    | succ i => exact ih (by simpa using h)

/-- The text that was added in a place is found behind the common pool, and 16 bits hold its
index. -/
theorem Fits.holds_text (h : b.Fits) {j : Nat} {text : String}
    (hj : (texts b.attributes)[j]? = some text) :
    b.classFile.pool.Holds (UInt16.ofNat (firstFree + j)) (.utf8 (ModifiedUtf8.encode text)) := by
  have hlt : j < 2 * b.attributes.length := length_texts ▸ (List.getElem?_eq_some_iff.mp hj).1
  have hsize := h.size_le
  rw [size_classFile_pool] at hsize
  show ((commonPool b.name).grow (texts b.attributes)).slots[_]? = _
  rw [UInt16.toNat_ofNat', Nat.mod_eq_of_lt (by omega),
    getElem?_grow_of_le (by rw [size_commonPool]; omega), size_commonPool, Nat.add_sub_cancel_left,
    hj]
  rfl

theorem isTable_singleton {α : Type} {valid : α → Prop} {x : α} (h : valid x) :
    IsTable valid [x] :=
  ⟨show 1 ≤ 65535 by omega, fun _ hy => List.mem_singleton.mp hy ▸ h⟩

/-- The class of a blueprint is well formed. -/
theorem wellFormed_classFile (h : b.Fits) : b.classFile.WellFormed := by
  obtain ⟨hge, hle, hminor⟩ := supportsVersion_iff.mp h.version
  have hclass : ∀ {index place text}, (commonPool b.name).Holds index (.classRef place) →
      (commonPool b.name).Holds place (.utf8 (ModifiedUtf8.encode text)) →
      b.classFile.pool.NamedClassAt index := fun hholds htext =>
    exists_className_eq_ok.mp ⟨_, h.className_eq_ok hholds htext⟩
  have hutf8 : ∀ {index bytes}, (commonPool b.name).Holds index (.utf8 bytes) →
      b.classFile.pool.Utf8At index := fun hholds => h.extends.utf8At ⟨_, hholds⟩
  have hmember : ∀ {access name descriptor x},
      b.classFile.pool.Utf8At name → b.classFile.pool.Utf8At descriptor →
      b.classFile.pool.Utf8At x.name → x.payload.length < 2 ^ 32 →
      Member.WellFormed b.classFile.pool ⟨access, name, descriptor, [x]⟩ :=
    fun hname hdescriptor hx hlt => ⟨hname, hdescriptor, isTable_singleton ⟨hx, hlt⟩⟩
  refine
    { major_ge := hge
      major_le := hle
      minor := hminor
      pool := (wellFormed_commonPool h.name).of_extends h.extends h.size_le
      thisClass := hclass rfl rfl
      superClass := fun hne => ?_
      interfaces := isTable_singleton (hclass rfl rfl)
      fields := isTable_singleton
        (hmember (hutf8 rfl) (hutf8 rfl) (hutf8 rfl) (show 2 < 2 ^ 32 by omega))
      methods := isTable_singleton
        (hmember (hutf8 rfl) (hutf8 rfl) (hutf8 rfl) (show 17 < 2 ^ 32 by omega))
      attributes := ⟨?_, fun x hx => ?_⟩ }
  · rcases hsuper : b.hasSuper
    · exact absurd (show (if b.hasSuper then (4 : UInt16) else 0) = 0 by rw [hsuper]; rfl) hne
    · show b.classFile.pool.NamedClassAt (if b.hasSuper then 4 else 0)
      rw [hsuper]
      exact hclass rfl rfl
  · have hroom := h.attributes
    show ((List.range b.attributes.length).map attributeAt).length ≤ 65535
    rw [List.length_map, List.length_range]
    omega
  · obtain ⟨i, hi, rfl⟩ := List.mem_map.mp hx
    have ha := List.getElem?_eq_getElem (List.mem_range.mp hi)
    exact ⟨⟨_, h.holds_text (getElem?_texts ha).1⟩, show 2 < 2 ^ 32 by omega⟩

/-! ### What a blueprint says -/

/-- The attribute at a position is found under its name, with its value. -/
theorem Fits.text_attributeAt (h : b.Fits) (ha : b.attributes[i]? = some a) :
    b.classFile.isNamed name (attributeAt i) = (a.name == name) ∧
      b.classFile.indexedText shown (attributeAt i) = .ok a.text := by
  have hname := ConstantPool.text_of_holds_encode (h.holds_text (getElem?_texts ha).1)
  have hvalue := ConstantPool.text_of_holds_encode (h.holds_text (getElem?_texts ha).2)
  have hindex : (attributeAt i).index? = some (UInt16.ofNat (firstFree + (2 * i + 1))) :=
    index?_eq_some_iff.mpr rfl
  constructor
  · rw [Bool.eq_iff_iff, isNamed_iff, beq_iff_eq]
    show b.classFile.pool.text (UInt16.ofNat (firstFree + 2 * i)) = .ok name ↔ _
    rw [hname, Except.ok.injEq]
  · rw [indexedText, hindex]
    exact hvalue

/-- So the values of the attributes with a name are what the blueprint gives under that name. -/
theorem Fits.map_indexedText (h : b.Fits) (name : String) :
    (b.classFile.attributes.filter (b.classFile.isNamed name)).map
        (b.classFile.indexedText name) =
      ((b.attributes.filter (·.name == name)).map BlueprintAttribute.text).map .ok := by
  have hpositions : b.classFile.attributes = b.attributes.zipIdx.map fun p => attributeAt p.2 := by
    show (List.range b.attributes.length).map attributeAt = _
    rw [List.range_eq_range', ← List.zipIdx_map_snd, List.map_map]
    rfl
  have hread : ∀ p ∈ b.attributes.zipIdx,
      b.classFile.isNamed name (attributeAt p.2) = (p.1.name == name) ∧
        b.classFile.indexedText name (attributeAt p.2) = .ok p.1.text := fun p hp =>
    h.text_attributeAt (List.mem_zipIdx_iff_getElem?.mp hp)
  calc (b.classFile.attributes.filter (b.classFile.isNamed name)).map
        (b.classFile.indexedText name)
      = (b.attributes.zipIdx.filter fun p => b.classFile.isNamed name (attributeAt p.2)).map
          fun p => b.classFile.indexedText name (attributeAt p.2) := by
        rw [hpositions, List.filter_map, List.map_map]
        rfl
    _ = (b.attributes.zipIdx.filter fun p => p.1.name == name).map fun p => .ok p.1.text := by
        rw [List.filter_congr fun p hp => (hread p hp).1]
        exact List.map_congr_left fun p hp => (hread p (List.mem_filter.mp hp).1).2
    _ = ((b.attributes.filter (·.name == name)).map BlueprintAttribute.text).map .ok := by
        conv => rhs; rw [← List.zipIdx_map_fst 0 b.attributes, List.filter_map, List.map_map]
        rw [List.map_map]
        rfl

/-- A kind of attribute is told by its name. -/
theorem map_text_filter {pick : BlueprintAttribute → Option String}
    (hpick : ∀ a, pick a = if a.name = name then some a.text else none) :
    (attributes.filter (·.name == name)).map BlueprintAttribute.text =
      attributes.filterMap pick := by
  induction attributes with
  | nil => rfl
  | cons a attributes ih =>
    have ha := hpick a
    by_cases hname : a.name = name
    · rw [if_pos hname] at ha
      rw [List.filter_cons_of_pos (by simpa using hname), List.map_cons, ih,
        List.filterMap_cons_some ha]
    · rw [if_neg hname] at ha
      rw [List.filter_cons_of_neg (by simpa using hname), ih, List.filterMap_cons_none ha]

theorem map_text_filter_sourceFile :
    (attributes.filter (·.name == "SourceFile")).map BlueprintAttribute.text =
      attributes.filterMap BlueprintAttribute.sourceFile? :=
  map_text_filter fun a => by
    cases a with
    | sourceFile text => rfl
    | sourceLocation text => exact (if_neg (show "SourceLocation" ≠ "SourceFile" by decide)).symm

theorem map_text_filter_sourceLocation :
    (attributes.filter (·.name == locationName)).map BlueprintAttribute.text =
      attributes.filterMap BlueprintAttribute.sourceLocation? :=
  map_text_filter fun a => by
    cases a with
    | sourceFile text => exact (if_neg (show "SourceFile" ≠ "SourceLocation" by decide)).symm
    | sourceLocation text => rfl

theorem Fits.thisClassName_eq (h : b.Fits) : b.classFile.thisClassName = .ok b.name :=
  h.className_eq_ok (show (commonPool b.name).Holds 2 (.classRef 1) from rfl) rfl

theorem Fits.superClassName_eq (h : b.Fits) :
    b.classFile.superClassName = .ok (if b.hasSuper then some "java/lang/Object" else none) := by
  rw [superClassName]
  show (if (if b.hasSuper then (4 : UInt16) else 0) = 0 then Except.ok none
    else (b.classFile.pool.className (if b.hasSuper then 4 else 0)).map some) = _
  rcases b.hasSuper
  · rfl
  · have hname := h.className_eq_ok (show (commonPool b.name).Holds 4 (.classRef 3) from rfl) rfl
    show (b.classFile.pool.className 4).map some = .ok (some "java/lang/Object")
    rw [hname]
    rfl

theorem sourceFile_of_values {c : ClassFile} {values : List String}
    (h : (c.attributes.filter (c.isNamed "SourceFile")).map (c.indexedText "SourceFile") =
      values.map .ok) : c.sourceFile = .ok values.head? := by
  rw [sourceFile, attribute?, ← List.head?_filter]
  rcases hfound : c.attributes.filter (c.isNamed "SourceFile") with _ | ⟨x, later⟩
  · rw [hfound] at h
    obtain rfl := List.map_eq_nil_iff.mp h.symm
    rfl
  · rw [hfound] at h
    obtain ⟨value, values, rfl, hvalue, -⟩ := List.map_eq_cons_iff.mp h.symm
    show (c.indexedText "SourceFile" x).map some = .ok (some value)
    rw [← hvalue]
    rfl

theorem sourceLocation_of_values {c : ClassFile} {values : List String}
    (h : (c.attributes.filter (c.isNamed locationName)).map (c.indexedText locationName) =
      values.map .ok) : c.sourceLocation = onlyLocation values := by
  rw [← attributesNamed_map_snd, List.map_map] at h
  rw [sourceLocation]
  rcases hfound : c.attributesNamed locationName with _ | ⟨⟨i, x⟩, _ | ⟨second, later⟩⟩
  · rw [hfound] at h
    obtain rfl := List.map_eq_nil_iff.mp h.symm
    rfl
  · rw [hfound] at h
    obtain ⟨value, values, rfl, hvalue, hnil⟩ := List.map_eq_cons_iff.mp h.symm
    obtain rfl := List.map_eq_nil_iff.mp hnil
    show (c.indexedText locationName x).map some = .ok (some value)
    rw [show c.indexedText locationName x = .ok value from hvalue.symm]
    rfl
  · rw [hfound] at h
    obtain ⟨value, values, rfl, -, hlater⟩ := List.map_eq_cons_iff.mp h.symm
    obtain ⟨value', values, rfl, -, -⟩ := List.map_eq_cons_iff.mp hlater
    rfl

/-- **The two encoders of the format agree.**  A blueprint that stays within the format is read,
and what is read is written as the same bytes.  Its pool has the common slots and two for each class
attribute; its names are those of the blueprint; its source file is the first that was given; and
its location is the one that was given, none, or refused where there were several. -/
theorem exists_parse_toBytes (h : b.Fits) :
    ∃ c, parse b.toBytes = .ok c ∧ c.toBytes = b.toBytes ∧
      c.pool.length.toNat = 20 + 2 * b.attributes.length ∧
      c.thisClassName = .ok b.name ∧
      c.superClassName = .ok (if b.hasSuper then some "java/lang/Object" else none) ∧
      c.sourceFile = .ok b.sourceFiles.head? ∧
      c.sourceLocation = onlyLocation b.sourceLocations := by
  have hbytes := toBytes_classFile h.thisIndex
  have hroom := h.attributes
  refine ⟨b.classFile, parse_eq_ok.mpr ⟨wellFormed_classFile h, hbytes.symm⟩, hbytes, ?_,
    h.thisClassName_eq, h.superClassName_eq, ?_, ?_⟩
  · rw [ConstantPool.length, size_classFile_pool, firstFree, UInt16.toNat_ofNat']
    omega
  · have hread := h.map_indexedText "SourceFile"
    rw [map_text_filter_sourceFile] at hread
    exact sourceFile_of_values hread
  · have hread := h.map_indexedText locationName
    rw [map_text_filter_sourceLocation] at hread
    exact sourceLocation_of_values hread

/-- A blueprint with attributes of both kinds, two each and in turns.  Its texts hold characters of
two and of six bytes, and a zero, which is spelled in two bytes as well. -/
def crowded : Blueprint where
  name := "com/example/Größe"
  major := 61
  attributes :=
    [.sourceLocation "/a", .sourceFile "Größe\x00.java", .sourceLocation "/b/😀",
      .sourceFile "B.java"]

theorem exists_parse_toBytes_crowded :
    crowded.Fits ∧
      ∃ c, parse crowded.toBytes = .ok c ∧ c.toBytes = crowded.toBytes ∧
        c.pool.length.toNat = 28 ∧
        c.thisClassName = .ok "com/example/Größe" ∧
        c.superClassName = .ok (some "java/lang/Object") ∧
        c.sourceFile = .ok (some "Größe\x00.java") ∧
        c.sourceLocation = .error (.malformedAttribute locationName) := by
  have h : crowded.Fits :=
    { version := rfl
      thisIndex := rfl
      attributes := by decide
      name := by decide +kernel
      values := by decide +kernel }
  exact ⟨h, exists_parse_toBytes h⟩

end Blueprint

end ClassOrigin
