/-
What recording a location does to a class.

`Records` lists the six ways in which the update can end, each with the conditions under which it
does; every other statement is read off it:

* **`records_setSourceLocation`** — the update ends in one of these ways;
* **`Records.wellFormed`** — none of them leaves a class that is not well formed;
* **`Records.exists_grow_missing`** — none of them adds a text that is there already;
* **`Records.relocates`** — those that change a class leave all but its location attributes, and
  a single one of these in their place;
* **`Records.isRecorded`** — after a successful one the class has a single location attribute,
  and it points at the path;
* **`IsRecorded.sourceLocation_eq`** — such an attribute reads as the path;
* **`setSourceLocation_error`** — a failed one leaves no trace but in one case, `OneSlotShort`.
-/
import ClassOrigin.ClassFile.Location
import ClassOrigin.Proofs.ClassCodec
import ClassOrigin.Proofs.Interning

namespace ClassOrigin.ClassFile

variable {c after : ClassFile} {path name : String} {a : Attribute}

/-! ### Named attributes -/

theorem isNamed_iff : c.isNamed name a = true ↔ c.pool.text a.name = .ok name := by
  rw [isNamed]
  rcases c.pool.text a.name with e | found
  · simp
  · simp

/-- Whether an attribute has a name is decided by the constant that its name index points at, so
neither its payload nor constants added later matter. -/
theorem isNamed_eq_of_extends {b : Attribute} (h : c.pool.Extends after.pool)
    (hat : c.pool.Utf8At a.name) (hb : b.name = a.name) :
    after.isNamed name b = c.isNamed name a := by
  rw [isNamed, isNamed, hb, h.text_eq hat]

theorem attributesNamed_map_snd :
    (c.attributesNamed name).map Prod.snd = c.attributes.filter (c.isNamed name) := by
  rw [attributesNamed, List.map_filterMap, ← List.filterMap_eq_filter]
  conv => rhs; rw [← List.zipIdx_map_fst 0 c.attributes, List.filterMap_map]
  congr 1
  funext ⟨b, i⟩
  by_cases h : c.isNamed name b = true
  · simp [h, Option.guard]
  · simp [h, Option.guard]

theorem attributesNamed_eq_nil :
    c.attributesNamed name = [] ↔ ∀ a ∈ c.attributes, c.isNamed name a = false := by
  rw [← List.map_eq_nil_iff (f := Prod.snd), attributesNamed_map_snd, List.filter_eq_nil_iff]
  simp only [Bool.not_eq_true]

/-- Attributes that were there do not take on a name. -/
theorem attributesNamed_eq_nil_of_extends (hc : c.WellFormed) (hext : c.pool.Extends after.pool)
    (hsame : after.attributes = c.attributes) (h : c.attributesNamed name = []) :
    after.attributesNamed name = [] := by
  rw [attributesNamed_eq_nil] at h ⊢
  intro a ha
  rw [hsame] at ha
  rw [isNamed_eq_of_extends hext (hc.attributes.2 a ha).name rfl, h a ha]

theorem exists_attributesNamed_of_filter (h : c.attributes.filter (c.isNamed name) = [a]) :
    ∃ i, c.attributesNamed name = [(i, a)] := by
  rw [← attributesNamed_map_snd] at h
  obtain ⟨⟨i, b⟩, hnamed, rfl⟩ := List.map_eq_singleton_iff.mp h
  exact ⟨i, hnamed⟩

/-- The attributes split at the first one with a name, if there is one. -/
theorem exists_split_of_attributesNamed (h : c.attributesNamed name ≠ []) :
    ∃ before first later, c.attributes = before ++ first :: later ∧
      (∀ a ∈ before, c.isNamed name a = false) ∧ c.isNamed name first = true := by
  rcases hfound : c.attributes.find? (c.isNamed name) with _ | first
  · refine absurd (attributesNamed_eq_nil.mpr fun a ha => ?_) h
    simpa using List.find?_eq_none.mp hfound a ha
  · obtain ⟨hfirst, before, later, hsplit, hbefore⟩ := List.find?_eq_some_iff_append.mp hfound
    exact ⟨before, first, later, hsplit, fun a ha => by simpa using hbefore a ha, hfirst⟩

/-- A payload stands for an index when it is the two bytes of the index. -/
theorem index?_eq_some_iff {index : UInt16} :
    a.index? = some index ↔ a.payload = Bytes.ofWord16 index := by
  rw [Attribute.index?]
  constructor
  · intro h
    split at h
    · rename_i high low hpayload
      rw [Option.some.injEq] at h
      rw [hpayload, ← h, Bytes.ofWord16_word16]
    · cases h
  · intro h
    rw [h]
    exact congrArg some (Bytes.word16_ofWord16 index)

/-- Collapsing works on the first location attribute and on those behind it. -/
theorem collapse_split {isLocation : Attribute → Bool} {payload : Bytes}
    {before later : List Attribute} {first : Attribute}
    (hbefore : ∀ a ∈ before, isLocation a = false) (hfirst : isLocation first = true) :
    collapse isLocation payload (before ++ first :: later) =
      before ++ { first with payload } :: later.filter fun a => ! isLocation a := by
  have hfront : ∀ a ∈ before, (! isLocation a) = true := fun a ha => by simp [hbefore a ha]
  rw [collapse, List.takeWhile_append_of_pos hfront, List.dropWhile_append_of_pos hfront]
  simp [hfirst]

/-- The other attributes are those before the first location attribute and some behind it. -/
theorem filter_not_split {isLocation : Attribute → Bool} {before later : List Attribute}
    {first : Attribute} (hbefore : ∀ a ∈ before, isLocation a = false)
    (hfirst : isLocation first = true) :
    (before ++ first :: later).filter (fun a => ! isLocation a) =
      before ++ later.filter fun a => ! isLocation a := by
  have hfront : before.filter (fun a => ! isLocation a) = before :=
    List.filter_eq_self.mpr fun a ha => by simp [hbefore a ha]
  rw [List.filter_append, hfront, List.filter_cons_of_neg (by simp [hfirst])]

/-- Among attributes of another name, only the named one is found. -/
theorem filter_eq_singleton {isLocation : Attribute → Bool} {front back : List Attribute}
    {a : Attribute} (hothers : ∀ b ∈ front ++ back, isLocation b = false)
    (ha : isLocation a = true) : (front ++ a :: back).filter isLocation = [a] := by
  have hnone : (front ++ back).filter isLocation = [] :=
    List.filter_eq_nil_iff.mpr fun b hb => by simp [hothers b hb]
  rw [List.filter_append, List.append_eq_nil_iff] at hnone
  rw [List.filter_append, List.filter_cons_of_pos ha, hnone.1, hnone.2, List.nil_append]

/-! ### The ways in which an update ends -/

/-- The path is recorded already: the only location attribute points at it. -/
def IsRecorded (c : ClassFile) (path : String) : Prop :=
  ∃ i a, c.attributesNamed locationName = [(i, a)] ∧ c.pointsAt path a = true

/-- The outcome of recording `path` in `c` and the class it leaves. -/
inductive Records (c : ClassFile) (path : String) :
    Except Error LocationUpdate → ClassFile → Prop
  | unchanged : c.IsRecorded path → Records c path (.ok .unchanged) c
  | tableFull : c.attributesNamed locationName = [] → 65535 ≤ c.attributes.length →
      Records c path (.error .attributeTableFull) c
  | pathRefused {e : Error} : ¬ c.IsRecorded path →
      (c.attributesNamed locationName = [] → c.attributes.length < 65535) →
      c.pool.intern path = .error e → Records c path (.error e) c
  | nameRefused {index : UInt16} {pool : ConstantPool} {e : Error} :
      c.attributesNamed locationName = [] → c.attributes.length < 65535 →
      c.pool.intern path = .ok (index, pool) → pool.intern locationName = .error e →
      Records c path (.error e) { c with pool }
  | inserted {index nameIndex : UInt16} {middle pool : ConstantPool} :
      c.attributesNamed locationName = [] → c.attributes.length < 65535 →
      c.pool.intern path = .ok (index, middle) →
      middle.intern locationName = .ok (nameIndex, pool) →
      Records c path (.ok .inserted)
        { c with pool, attributes := c.attributes ++ [⟨nameIndex, Bytes.ofWord16 index⟩] }
  | replaced {index : UInt16} {pool : ConstantPool} : ¬ c.IsRecorded path →
      c.attributesNamed locationName ≠ [] → c.pool.intern path = .ok (index, pool) →
      Records c path (.ok .replaced)
        { c with
          pool
          attributes := collapse (c.isNamed locationName) (Bytes.ofWord16 index) c.attributes }

/-- Where the path is not recorded yet, the update looks at the table and then at the pool. -/
theorem setSourceLocation_of_not_isRecorded (h : ¬ c.IsRecorded path) :
    c.setSourceLocation path =
      if c.attributesNamed locationName = [] ∧ 65535 ≤ c.attributes.length then
        (.error .attributeTableFull, c)
      else
        match c.pool.intern path with
        | .error e => (.error e, c)
        | .ok (index, pool) =>
          if c.attributesNamed locationName = [] then { c with pool }.insertLocation index
          else
            (.ok .replaced,
              { c with
                pool
                attributes :=
                  collapse (c.isNamed locationName) (Bytes.ofWord16 index) c.attributes }) := by
  -- Each way of interning the path is settled for no, one and several location attributes.
  rcases hpath : c.pool.intern path with e | ⟨index, pool⟩
  all_goals
    rcases hnamed : c.attributesNamed locationName with _ | ⟨⟨i, a⟩, _ | ⟨second, more⟩⟩
    · simp [setSourceLocation, hnamed, hpath]
    · have hpoints : c.pointsAt path a = false :=
        Bool.eq_false_iff.mpr fun hpoints => h ⟨i, a, hnamed, hpoints⟩
      simp [setSourceLocation, hnamed, hpath, hpoints]
    · simp [setSourceLocation, hnamed, hpath]

/-- Where it is, the update does nothing. -/
theorem IsRecorded.setSourceLocation_eq (h : c.IsRecorded path) :
    c.setSourceLocation path = (.ok .unchanged, c) := by
  obtain ⟨i, a, hnamed, hpoints⟩ := h
  simp [setSourceLocation, hnamed, hpoints]

/-- Every update ends in one of the six ways. -/
theorem records_setSourceLocation (c : ClassFile) (path : String) :
    Records c path (c.setSourceLocation path).1 (c.setSourceLocation path).2 := by
  by_cases hrec : c.IsRecorded path
  · rw [hrec.setSourceLocation_eq]
    exact .unchanged hrec
  · rw [setSourceLocation_of_not_isRecorded hrec]
    by_cases hfull : c.attributesNamed locationName = [] ∧ 65535 ≤ c.attributes.length
    · rw [if_pos hfull]
      exact .tableFull hfull.1 hfull.2
    · rw [if_neg hfull]
      have hroom : c.attributesNamed locationName = [] → c.attributes.length < 65535 :=
        fun hnil => Nat.lt_of_not_le fun hle => hfull ⟨hnil, hle⟩
      rcases hpath : c.pool.intern path with e | ⟨index, middle⟩
      · exact .pathRefused hrec hroom hpath
      · by_cases hnil : c.attributesNamed locationName = []
        · simp only [if_pos hnil, insertLocation]
          rcases hname : middle.intern locationName with e | ⟨nameIndex, pool⟩
          · exact .nameRefused hnil (hroom hnil) hpath hname
          · exact .inserted hnil (hroom hnil) hpath hname
        · simp only [if_neg hnil]
          exact .replaced hrec hnil hpath

/-- An update reports that it did nothing exactly where the path is recorded. -/
theorem setSourceLocation_eq_unchanged :
    (c.setSourceLocation path).1 = .ok .unchanged ↔ c.IsRecorded path := by
  constructor
  · intro h
    have hrecords := records_setSourceLocation c path
    rw [h] at hrecords
    generalize (c.setSourceLocation path).2 = after at hrecords
    cases hrecords with
    | unchanged hrec => exact hrec
  · intro h
    rw [h.setSourceLocation_eq]

/-! ### What an update leaves -/

/-- Nothing but the pool and the class attributes is other than it was. -/
theorem Records.frame {result : Except Error LocationUpdate} (h : Records c path result after) :
    after = { c with pool := after.pool, attributes := after.attributes } := by
  cases h with
  | unchanged | tableFull | pathRefused | nameRefused | inserted | replaced => rfl

/-- Collapsing keeps a table a table. -/
theorem isTable_collapse {pool : ConstantPool} {isLocation : Attribute → Bool} {payload : Bytes}
    {attributes : List Attribute} (h : IsTable (Attribute.WellFormed pool) attributes)
    (hpayload : payload.length < 2 ^ 32) :
    IsTable (Attribute.WellFormed pool) (collapse isLocation payload attributes) := by
  rw [← List.takeWhile_append_dropWhile (p := fun a => ! isLocation a) (l := attributes)] at h
  rw [collapse]
  rcases hback : attributes.dropWhile (fun a => ! isLocation a) with _ | ⟨first, later⟩
  · rwa [hback] at h
  · rw [hback] at h
    obtain ⟨hlen, hvalid⟩ := h
    rw [List.forall_mem_append, List.forall_mem_cons] at hvalid
    obtain ⟨hfront, hfirst, hlater⟩ := hvalid
    refine ⟨?_, ?_⟩
    · have hfilter := List.length_filter_le (fun a => ! isLocation a) later
      rw [List.length_append, List.length_cons] at hlen ⊢
      omega
    · rw [List.forall_mem_append, List.forall_mem_cons]
      exact ⟨hfront, ⟨hfirst.name, hpayload⟩, fun a ha => hlater a (List.mem_filter.mp ha).1⟩

/-- The pool only grows, whether the update succeeds or not. -/
theorem Records.extends {result : Except Error LocationUpdate} (h : Records c path result after)
    (hsize : c.pool.slots.size ≤ 65535) :
    c.pool.Extends after.pool ∧ after.pool.slots.size ≤ 65535 := by
  cases h with
  | unchanged | tableFull | pathRefused => exact ⟨.refl _, hsize⟩
  | nameRefused _ _ hpath _ | replaced _ _ hpath =>
    obtain ⟨hext, hle, -⟩ := ConstantPool.extends_of_intern hsize hpath
    exact ⟨hext, hle⟩
  | inserted _ _ hpath hname =>
    obtain ⟨hext, hle, -⟩ := ConstantPool.extends_of_intern hsize hpath
    obtain ⟨hext', hle', -⟩ := ConstantPool.extends_of_intern hle hname
    exact ⟨hext.trans hext', hle'⟩

/-- What the pool gains are texts that it did not have: the path, and the name of the attribute. -/
theorem Records.exists_grow_missing {result : Except Error LocationUpdate}
    (h : Records c path result after) :
    ∃ texts, texts.Sublist [path, locationName] ∧
      after.pool = c.pool.grow (c.pool.missing texts) := by
  cases h with
  | unchanged | tableFull | pathRefused =>
    exact ⟨[], List.nil_sublist _, ConstantPool.grow_nil.symm⟩
  | nameRefused _ _ hpath _ | replaced _ _ hpath =>
    exact ⟨[path], List.sublist_append_left [path] [locationName],
      ConstantPool.grow_of_intern hpath⟩
  | inserted _ _ hpath hname =>
    exact ⟨_, List.Sublist.refl _, ConstantPool.grow_of_intern_intern hpath hname⟩

/-- No update, failed or not, leaves a class that is not well formed. -/
theorem Records.wellFormed {result : Except Error LocationUpdate} (h : Records c path result after)
    (hc : c.WellFormed) : after.WellFormed := by
  obtain ⟨hext, hle⟩ := h.extends hc.pool.size_le
  have hgrown := hc.of_extends hext hle
  have hpayload : ∀ index, (Bytes.ofWord16 index).length < 2 ^ 32 := by
    intro index
    rw [Bytes.length_ofWord16]
    decide
  cases h with
  | unchanged | tableFull | pathRefused => exact hc
  | nameRefused => exact hgrown
  | inserted _ hroom hpath hname =>
    obtain ⟨-, hmiddle, -⟩ := ConstantPool.extends_of_intern hc.pool.size_le hpath
    obtain ⟨-, -, hindex⟩ := ConstantPool.extends_of_intern hmiddle hname
    refine { hgrown with attributes := ⟨?_, ?_⟩ }
    · rw [List.length_append]
      exact hroom
    · rw [List.forall_mem_append, List.forall_mem_singleton]
      exact ⟨hgrown.attributes.2, ⟨_, hindex⟩, hpayload _⟩
  | replaced =>
    exact { hgrown with attributes := isTable_collapse hgrown.attributes (hpayload _) }

/-! ### A recorded path -/

theorem pointsAt_iff :
    c.pointsAt path a = true ↔
      ∃ index, a.index? = some index ∧ c.pool.Holds index (.utf8 (ModifiedUtf8.encode path)) := by
  rw [pointsAt]
  rcases a.index? with _ | index
  · simp
  · simp only [Option.some.injEq, exists_eq_left', ← ConstantPool.utf8Bytes_eq_ok]
    rcases c.pool.utf8Bytes index with e | bytes
    · simp
    · simp

theorem length_payload_of_index? {index : UInt16} (h : a.index? = some index) :
    a.payload.length = 2 := by
  rw [index?_eq_some_iff.mp h, Bytes.length_ofWord16]

/-- A recorded path is what the class reads as its location. -/
theorem IsRecorded.sourceLocation_eq (h : c.IsRecorded path) :
    c.sourceLocation = .ok (some path) := by
  obtain ⟨i, a, hnamed, hpoints⟩ := h
  obtain ⟨index, hindex, hholds⟩ := pointsAt_iff.mp hpoints
  simp only [sourceLocation, hnamed, indexedText, hindex,
    ConstantPool.text_of_holds_encode hholds]
  rfl

theorem isRecorded_iff :
    c.IsRecorded path ↔
      ∃ a, c.attributes.filter (c.isNamed locationName) = [a] ∧ c.pointsAt path a = true := by
  constructor
  · rintro ⟨i, a, hnamed, hpoints⟩
    exact ⟨a, by rw [← attributesNamed_map_snd, hnamed]; rfl, hpoints⟩
  · rintro ⟨a, hfilter, hpoints⟩
    obtain ⟨i, hnamed⟩ := exists_attributesNamed_of_filter hfilter
    exact ⟨i, a, hnamed, hpoints⟩

/-- `woven` has the attributes of `c`, but of those with the name of the location only `a`, which
stands between `front` and `back` and holds `index`. -/
structure Relocates (c woven : ClassFile) (index : UInt16) (front : List Attribute)
    (a : Attribute) (back : List Attribute) : Prop where
  attributes_eq : woven.attributes = front ++ a :: back
  others_eq : front ++ back = c.attributes.filter fun b => ! c.isNamed locationName b
  only : woven.attributes.filter (woven.isNamed locationName) = [a]
  payload_eq : a.payload = Bytes.ofWord16 index
  place : (∃ first later, c.attributes = front ++ first :: later ∧
      c.isNamed locationName first = true ∧ a.name = first.name) ∨
    c.attributes = front ∧ back = []

/-- The other attributes keep their names in a longer pool, so next to them only the one that has
the name there is found. -/
theorem filter_isNamed_of_others (hc : c.WellFormed) (hext : c.pool.Extends after.pool)
    {front back : List Attribute}
    (hothers : front ++ back = c.attributes.filter fun b => ! c.isNamed name b)
    (ha : after.isNamed name a = true) :
    (front ++ a :: back).filter (after.isNamed name) = [a] := by
  refine filter_eq_singleton (fun b hb => ?_) ha
  rw [hothers, List.mem_filter] at hb
  obtain ⟨hmem, hother⟩ := hb
  rw [isNamed_eq_of_extends hext (hc.attributes.2 b hmem).name rfl]
  simpa using hother

/-- An update that changes a class puts the path's index in place of what was there. -/
theorem Records.relocates {update : LocationUpdate} (h : Records c path (.ok update) after)
    (hc : c.WellFormed) (hne : update ≠ .unchanged) :
    ∃ index front a back, Relocates c after index front a back ∧
      after.pool.IsIndexOf path index := by
  obtain ⟨hext, -⟩ := h.extends hc.pool.size_le
  cases h with
  | unchanged => exact absurd rfl hne
  | @inserted index nameIndex middle pool hnil _ hpath hname =>
    obtain ⟨-, hmiddle, -⟩ := ConstantPool.extends_of_intern hc.pool.size_le hpath
    obtain ⟨hext', -, hnameIndex⟩ := ConstantPool.extends_of_intern hmiddle hname
    have hindex := ConstantPool.isIndexOf_of_intern hc.pool.size_le hpath
    have hothers : c.attributes ++ [] =
        c.attributes.filter fun b => ! c.isNamed locationName b := by
      rw [List.append_nil, eq_comm, List.filter_eq_self]
      intro b hb
      rw [attributesNamed_eq_nil.mp hnil b hb]
      rfl
    refine ⟨index, c.attributes, ⟨nameIndex, Bytes.ofWord16 index⟩, [],
      ⟨rfl, hothers, filter_isNamed_of_others hc hext hothers ?_, rfl, .inr ⟨rfl, rfl⟩⟩,
      hindex.of_extends hext'⟩
    exact isNamed_iff.mpr (ConstantPool.text_of_holds_encode hnameIndex)
  | @replaced index pool _ hfound hpath =>
    have hindex := ConstantPool.isIndexOf_of_intern hc.pool.size_le hpath
    obtain ⟨front, first, later, hsplit, hfront, hfirst⟩ := exists_split_of_attributesNamed hfound
    have hcollapse : collapse (c.isNamed locationName) (Bytes.ofWord16 index) c.attributes =
        front ++ { first with payload := Bytes.ofWord16 index } ::
          later.filter fun b => ! c.isNamed locationName b := by
      rw [hsplit, collapse_split hfront hfirst]
    have hothers : front ++ later.filter (fun b => ! c.isNamed locationName b) =
        c.attributes.filter fun b => ! c.isNamed locationName b := by
      rw [hsplit, filter_not_split hfront hfirst]
    refine ⟨index, front, { first with payload := Bytes.ofWord16 index },
      later.filter fun b => ! c.isNamed locationName b, ⟨hcollapse, hothers, ?_, rfl,
        .inl ⟨first, later, hsplit, hfirst, rfl⟩⟩, hindex⟩
    show (collapse _ _ _).filter _ = _
    rw [hcollapse]
    refine filter_isNamed_of_others hc hext hothers ?_
    -- The first one has the name in the longer pool as well, whatever it holds.
    have hat := (hc.attributes.2 first (by simp [hsplit])).name
    exact (isNamed_eq_of_extends hext hat rfl).trans hfirst

/-- After a successful update the path is recorded. -/
theorem Records.isRecorded {update : LocationUpdate} (h : Records c path (.ok update) after)
    (hc : c.WellFormed) : after.IsRecorded path := by
  by_cases hne : update = .unchanged
  · subst hne
    cases h with
    | unchanged hrec => exact hrec
  · obtain ⟨index, front, a, back, hrelocates, hplace⟩ := h.relocates hc hne
    have hindex := index?_eq_some_iff.mpr hrelocates.payload_eq
    exact isRecorded_iff.mpr
      ⟨a, hrelocates.only, pointsAt_iff.mpr ⟨index, hindex, hplace.holds⟩⟩

/-! ### Failed updates -/

/-- The pool has one slot left where recording `path` takes two: the class has no location
attribute yet, and neither the path nor the name of the attribute is spelled in its pool. -/
structure OneSlotShort (c : ClassFile) (path : String) : Prop where
  unnamed : c.attributesNamed locationName = []
  room : c.attributes.length < 65535
  path_new : ¬ c.pool.Spells path
  path_le : (ModifiedUtf8.encode path).length ≤ 65535
  name_new : ¬ c.pool.Spells locationName
  path_ne : path ≠ locationName
  size_eq : c.pool.slots.size = 65534

/-- The pool can be full when the name of the attribute is due, but the name is not too long. -/
theorem intern_locationName_eq_error {pool : ConstantPool} {e : Error} :
    pool.intern locationName = .error e ↔
      ¬ pool.Spells locationName ∧ 65535 ≤ pool.slots.size ∧ e = .poolFull := by
  have hlen : (ModifiedUtf8.encode locationName).length ≤ 65535 := by decide +kernel
  rw [ConstantPool.intern_eq_error, ConstantPool.push_eq_error]
  constructor
  · rintro ⟨hnew, ⟨hlt, -⟩ | ⟨-, hfull, he⟩⟩
    · omega
    · exact ⟨hnew, hfull, he⟩
  · rintro ⟨hnew, hfull, he⟩
    exact ⟨hnew, .inr ⟨hlen, hfull, he⟩⟩

/-- What a failed update leaves: the class as it was, or the class with a constant for the path. -/
theorem Records.of_error {e : Error} (h : Records c path (.error e) after) :
    (after = c ∧ ¬ c.OneSlotShort path) ∨
      (c.OneSlotShort path ∧ e = .poolFull ∧ after = { c with pool := c.pool.grow [path] }) := by
  cases h with
  | tableFull _ hfull => exact .inl ⟨rfl, fun hshort => absurd hshort.room (by omega)⟩
  | pathRefused _ _ hpath =>
    refine .inl ⟨rfl, fun hshort => ?_⟩
    obtain ⟨-, hrefused⟩ := ConstantPool.intern_eq_error.mp hpath
    have hsize := hshort.size_eq
    have hle := hshort.path_le
    rcases ConstantPool.push_eq_error.mp hrefused with ⟨hlt, -⟩ | ⟨-, hfull, -⟩
    · omega
    · omega
  | nameRefused hnil hroom hpath hname =>
    obtain ⟨hnew, hfull, rfl⟩ := intern_locationName_eq_error.mp hname
    rcases ConstantPool.intern_eq_ok.mp hpath with ⟨hfound, rfl⟩ | ⟨hpathNew, hpush⟩
    · -- The path is spelled already, so nothing was added for it.
      exact .inl ⟨rfl, fun hshort => hshort.path_new (ConstantPool.spells_of_find? hfound)⟩
    · obtain ⟨hle, hlt, -, rfl⟩ := ConstantPool.push_eq_ok.mp hpush
      rw [ConstantPool.spells_grow, not_or, List.mem_singleton] at hnew
      rw [ConstantPool.size_grow, List.length_singleton] at hfull
      exact .inr ⟨⟨hnil, hroom, hpathNew, hle, hnew.1, Ne.symm hnew.2, by omega⟩, rfl, rfl⟩

/-- One slot short, the update fails for want of the other, with the path in the pool. -/
theorem OneSlotShort.setSourceLocation_eq (h : c.OneSlotShort path) :
    c.setSourceLocation path = (.error .poolFull, { c with pool := c.pool.grow [path] }) := by
  have hpath : c.pool.intern path = .ok (c.pool.length, c.pool.grow [path]) := by
    rw [ConstantPool.intern_eq_ok, ConstantPool.push_eq_ok]
    exact .inr ⟨h.path_new, h.path_le, by rw [h.size_eq]; decide, rfl, rfl⟩
  have hname : (c.pool.grow [path]).intern locationName = .error .poolFull := by
    rw [intern_locationName_eq_error, ConstantPool.spells_grow, not_or, List.mem_singleton,
      ConstantPool.size_grow, h.size_eq]
    exact ⟨⟨h.name_new, Ne.symm h.path_ne⟩, Nat.le_refl _, rfl⟩
  have hrec : ¬ c.IsRecorded path := by
    rintro ⟨i, a, hnamed, -⟩
    rw [h.unnamed] at hnamed
    cases hnamed
  have hroom := h.room
  rw [setSourceLocation_of_not_isRecorded hrec, if_neg (by omega), hpath]
  simp only [h.unnamed, if_true, insertLocation, hname]

/-- The bytes of a class tell the number of its slots. -/
theorem length_pool_of_toBytes_eq {d : ClassFile} (h : c.toBytes = d.toBytes) :
    c.pool.length = d.pool.length :=
  Bytes.ofWord16_inj.mp (congrArg (fun bytes => (bytes.drop 8).take 2) h)

/-- One slot short, the update leaves a class that is written differently. -/
theorem OneSlotShort.toBytes_ne (h : c.OneSlotShort path) :
    (c.setSourceLocation path).2.toBytes ≠ c.toBytes := by
  intro heq
  rw [h.setSourceLocation_eq] at heq
  have hlength := length_pool_of_toBytes_eq heq
  rw [ConstantPool.length, ConstantPool.length, ConstantPool.size_grow, h.size_eq,
    List.length_singleton] at hlength
  revert hlength
  decide

/-- **Failed updates, completely.**  A class is changed by a failed update exactly when it is one
slot short, whether one looks at the class or at its bytes; then the pool overflows at the name of
the attribute, and the constant for the path stays behind. -/
theorem setSourceLocation_error (c : ClassFile) (path : String) :
    ((∃ e, (c.setSourceLocation path).1 = .error e) ∧ (c.setSourceLocation path).2 ≠ c ↔
        c.OneSlotShort path) ∧
      ((∃ e, (c.setSourceLocation path).1 = .error e) ∧
          (c.setSourceLocation path).2.toBytes ≠ c.toBytes ↔ c.OneSlotShort path) ∧
      (c.OneSlotShort path → c.setSourceLocation path =
        (.error .poolFull, { c with pool := c.pool.grow [path] })) := by
  have hshort : ∀ {e}, (c.setSourceLocation path).1 = .error e →
      (c.setSourceLocation path).2 ≠ c → c.OneSlotShort path := by
    intro e he hne
    have hrecords := records_setSourceLocation c path
    rw [he] at hrecords
    rcases hrecords.of_error with ⟨hsame, -⟩ | ⟨hshort, -⟩
    · exact absurd hsame hne
    · exact hshort
  have hfails : c.OneSlotShort path → ∃ e, (c.setSourceLocation path).1 = .error e :=
    fun h => ⟨_, congrArg Prod.fst h.setSourceLocation_eq⟩
  refine ⟨⟨?_, ?_⟩, ⟨?_, ?_⟩, OneSlotShort.setSourceLocation_eq⟩
  · rintro ⟨⟨e, he⟩, hne⟩
    exact hshort he hne
  · intro h
    exact ⟨hfails h, fun hsame => h.toBytes_ne (congrArg toBytes hsame)⟩
  · rintro ⟨⟨e, he⟩, hne⟩
    exact hshort he fun hsame => hne (congrArg toBytes hsame)
  · intro h
    exact ⟨hfails h, h.toBytes_ne⟩

/-- The pool of `specimen` with all slots but one taken. -/
def crowded : ClassFile :=
  { specimen with pool := specimen.pool.grow (List.replicate 65513 "c") }

theorem extends_crowded : specimen.pool.Extends crowded.pool := by
  refine ⟨_, rfl, fun t ht => ?_⟩
  rw [List.eq_of_mem_replicate ht]
  decide +kernel

theorem size_crowded : crowded.pool.slots.size = 65534 := by
  rw [crowded, ConstantPool.size_grow, List.length_replicate]
  rfl

theorem crowded_wellFormed : crowded.WellFormed :=
  (parse_eq_ok.mp parse_specimenBytes).1.of_extends extends_crowded
    (Nat.le_trans (Nat.le_of_eq size_crowded) (by decide))

/-- No text but `"c"` is spelled in the crowded pool that was not spelled before. -/
theorem not_spells_crowded {text : String} (h : specimen.pool.find? text = none)
    (hne : text ≠ "c") : ¬ crowded.pool.Spells text := by
  rw [crowded, ConstantPool.spells_grow, not_or]
  exact ⟨ConstantPool.find?_eq_none.mp h, fun hmem => hne (List.eq_of_mem_replicate hmem)⟩

theorem crowded_oneSlotShort : crowded.OneSlotShort "/repo/out" where
  unnamed := by
    have hspecimen : specimen.attributesNamed locationName = [] := by rfl
    exact attributesNamed_eq_nil_of_extends (parse_eq_ok.mp parse_specimenBytes).1
      extends_crowded rfl hspecimen
  room := by decide
  path_new := not_spells_crowded (by decide +kernel) (by decide)
  path_le := by decide +kernel
  name_new := not_spells_crowded (by decide +kernel) (by decide)
  path_ne := by decide
  size_eq := size_crowded

/-- A class that is read from bytes and that a failed update changes. -/
theorem setSourceLocation_error_crowded :
    parse crowded.toBytes = .ok crowded ∧
      (crowded.setSourceLocation "/repo/out").1 = .error .poolFull ∧
      (crowded.setSourceLocation "/repo/out").2 ≠ crowded ∧
      (crowded.setSourceLocation "/repo/out").2.toBytes ≠ crowded.toBytes := by
  obtain ⟨hclass, hbytes, hleft⟩ := setSourceLocation_error crowded "/repo/out"
  exact ⟨parse_eq_ok.mpr ⟨crowded_wellFormed, rfl⟩,
    congrArg Prod.fst (hleft crowded_oneSlotShort), (hclass.mpr crowded_oneSlotShort).2,
    (hbytes.mpr crowded_oneSlotShort).2⟩

end ClassOrigin.ClassFile
