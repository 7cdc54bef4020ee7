/-
Accessors of a class that changes.

What was checked once, when the class was read, is what the accessors rely on ever after: constants
are only added behind the others, so every index goes on leading to what it led to, and of the
attributes only those of the location are touched.

* **`Retains`** — one class has what the accessors saw in another;
* **`Relocates.filter_isNamed`** — an update leaves the attributes of every other name as they are;
* **`retains_perform`** — hence one change keeps everything that is seen, and
  **`retains_of_mem_states`** — so does a history, by induction;
* **`accessors_of_parse`** — the accessors of a class that was read, throughout its history.
-/
import ClassOrigin.Proofs.Histories

namespace ClassOrigin.ClassFile

open Outcome

/-! ### Look-ups in longer pools -/

namespace ConstantPool

variable {pool grown : ConstantPool} {index : UInt16} {text name : String}

theorem Extends.get_eq_ok (h : pool.Extends grown) {c : Constant} (hc : pool.get index = .ok c) :
    grown.get index = .ok c :=
  ConstantPool.get_eq_ok.mpr (h.holds (ConstantPool.get_eq_ok.mp hc))

theorem Extends.text_eq_ok (h : pool.Extends grown) (htext : pool.text index = .ok text) :
    grown.text index = .ok text := by
  obtain ⟨bytes, hbytes, hdecode⟩ := ConstantPool.text_eq_ok.mp htext
  exact ConstantPool.text_eq_ok.mpr ⟨bytes, h.holds hbytes, hdecode⟩

theorem Extends.className_eq_ok (h : pool.Extends grown) (hname : pool.className index = .ok name) :
    grown.className index = .ok name := by
  obtain ⟨place, hplace, htext⟩ := ConstantPool.className_eq_ok.mp hname
  exact ConstantPool.className_eq_ok.mpr ⟨place, h.holds hplace, h.text_eq_ok htext⟩

/-- A text is found where it was found first, since what is added comes behind. -/
theorem Extends.find?_eq_some (h : pool.Extends grown) (hfound : pool.find? text = some index) :
    grown.find? text = some index := by
  obtain ⟨i, hindex, hi, hfirst⟩ := ConstantPool.find?_eq_some.mp hfound
  refine ConstantPool.find?_eq_some.mpr ⟨i, hindex, h.getElem? hi, fun j hj => ?_⟩
  have hlt := (Array.getElem?_eq_some_iff.mp hi).1
  rw [h.getElem?_of_lt (by omega)]
  exact hfirst j hj

/-- A string constant is there to be read, so all that can be wrong with it is its spelling. -/
theorem Utf8At.eq_of_text_eq_error (h : pool.Utf8At index) {e : Error}
    (herror : pool.text index = .error e) : e = .badModifiedUtf8 := by
  obtain ⟨bytes, hbytes⟩ := h
  rcases bind_eq_error.mp herror with hnone | ⟨found, -, hdecode⟩
  · rw [utf8Bytes_eq_ok.mpr hbytes] at hnone
    cases hnone
  · split at hdecode
    · cases hdecode
    · cases hdecode
      rfl

end ConstantPool

/-! ### What the accessors see -/

variable {c middle after s : ClassFile} {name : String} {changes : List Change} {bytes : Bytes}

/-- `after` has what the accessors see of `c`: its constants and maybe more behind them, its indices
and members, and its attributes of every name but that of the location. -/
structure Retains (c after : ClassFile) : Prop where
  pool : c.pool.Extends after.pool
  thisClass : after.thisClass = c.thisClass
  superClass : after.superClass = c.superClass
  interfaces : after.interfaces = c.interfaces
  fields : after.fields = c.fields
  methods : after.methods = c.methods
  attributes : ∀ name, name ≠ locationName →
    after.attributes.filter (after.isNamed name) = c.attributes.filter (c.isNamed name)

theorem Retains.refl (c : ClassFile) : Retains c c :=
  ⟨.refl _, rfl, rfl, rfl, rfl, rfl, fun _ _ => rfl⟩

theorem Retains.trans (h : Retains c middle) (h' : Retains middle after) : Retains c after where
  pool := h.pool.trans h'.pool
  thisClass := h'.thisClass.trans h.thisClass
  superClass := h'.superClass.trans h.superClass
  interfaces := h'.interfaces.trans h.interfaces
  fields := h'.fields.trans h.fields
  methods := h'.methods.trans h.methods
  attributes name hne := (h'.attributes name hne).trans (h.attributes name hne)

/-! ### What one change keeps -/

/-- An attribute has one name at most. -/
theorem isNamed_unique {a : Attribute} {other : String} (h : c.isNamed name a = true)
    (h' : c.isNamed other a = true) : name = other := by
  rw [isNamed_iff] at h h'
  exact Except.ok.inj (h.symm.trans h')

/-- Constants behind a pool give no attribute another name. -/
theorem retains_of_extends (hc : c.WellFormed) {pool : ConstantPool} (h : c.pool.Extends pool) :
    Retains c { c with pool } where
  pool := h
  thisClass := rfl
  superClass := rfl
  interfaces := rfl
  fields := rfl
  methods := rfl
  attributes _ _ := List.filter_congr fun a ha =>
    isNamed_eq_of_extends (show c.pool.Extends { c with pool }.pool from h)
      (hc.attributes.2 a ha).name rfl

/-- What stands in the place of the location attributes has their name, and so no other; and what
has another name is none of them. -/
theorem Relocates.filter_isNamed {index : UInt16} {front back : List Attribute} {a : Attribute}
    (h : Relocates c after index front a back) (hc : c.WellFormed)
    (hext : c.pool.Extends after.pool) (hne : name ≠ locationName) :
    after.attributes.filter (after.isNamed name) = c.attributes.filter (c.isNamed name) := by
  have hlocation : after.isNamed locationName a = true := by
    have hmem : a ∈ after.attributes.filter (after.isNamed locationName) :=
      h.only ▸ List.mem_singleton_self a
    exact (List.mem_filter.mp hmem).2
  have hother : ¬ after.isNamed name a = true := fun hname => hne (isNamed_unique hname hlocation)
  rw [h.attributes_eq, List.filter_append, List.filter_cons_of_neg hother, ← List.filter_append,
    h.others_eq, List.filter_filter]
  refine List.filter_congr fun b hb => ?_
  rw [isNamed_eq_of_extends hext (hc.attributes.2 b hb).name rfl]
  rcases hname : c.isNamed name b
  · rfl
  · rcases hlocation' : c.isNamed locationName b
    · rfl
    · exact absurd (isNamed_unique hname hlocation') hne

theorem Records.retains {path : String} {result : Except Error LocationUpdate}
    (h : Records c path result after) (hc : c.WellFormed) : Retains c after := by
  obtain ⟨hext, -⟩ := h.extends hc.pool.size_le
  rcases result with e | update
  · rcases h.of_error with ⟨rfl, -⟩ | ⟨-, -, rfl⟩
    · exact .refl after
    · exact retains_of_extends hc hext
  · by_cases hupdate : update = .unchanged
    · subst hupdate
      cases h with
      | unchanged => exact .refl c
    · obtain ⟨index, front, a, back, hrelocates, -⟩ := h.relocates hc hupdate
      exact
        { pool := hext
          thisClass := by rw [h.frame]
          superClass := by rw [h.frame]
          interfaces := by rw [h.frame]
          fields := by rw [h.frame]
          methods := by rw [h.frame]
          attributes := fun _ hne => hrelocates.filter_isNamed hc hext hne }

theorem retains_perform (hc : c.WellFormed) (change : Change) :
    Retains c (c.perform change).2 := by
  cases change with
  | push text =>
    rw [perform]
    rcases hpush : c.pool.push text with e | ⟨index, pool⟩
    · exact .refl c
    · exact retains_of_extends hc (ConstantPool.extends_of_push hpush).1
  | intern text =>
    rw [perform]
    rcases hintern : c.pool.intern text with e | ⟨index, pool⟩
    · exact .refl c
    · exact retains_of_extends hc (ConstantPool.extends_of_intern hc.pool.size_le hintern).1
  | locate path => exact (records_setSourceLocation c path).retains hc

/-! ### What a history keeps -/

theorem retains_of_mem_states (hc : c.WellFormed) (h : s ∈ c.states changes) : Retains c s := by
  induction changes generalizing c with
  | nil =>
    obtain rfl := List.mem_singleton.mp h
    exact .refl s
  | cons change changes ih =>
    rcases List.mem_cons.mp h with rfl | hlater
    · exact .refl s
    · exact (retains_perform hc change).trans (ih (keeps_perform hc change).wellFormed hlater)

namespace Retains

variable (h : Retains c s)
include h

/-! ### The accessors -/

theorem exists_className_eq_ok {index : UInt16} (hat : c.pool.NamedClassAt index) :
    ∃ name, c.pool.className index = .ok name ∧ s.pool.className index = .ok name := by
  obtain ⟨name, hname⟩ := ConstantPool.exists_className_eq_ok.mpr hat
  exact ⟨name, hname, h.pool.className_eq_ok hname⟩

theorem exists_thisClassName_eq_ok (hc : c.WellFormed) :
    ∃ name, c.thisClassName = .ok name ∧ s.thisClassName = .ok name := by
  rw [thisClassName, thisClassName, h.thisClass]
  exact h.exists_className_eq_ok hc.thisClass

theorem exists_superClassName_eq_ok (hc : c.WellFormed) :
    ∃ name, c.superClassName = .ok name ∧ s.superClassName = .ok name := by
  rw [superClassName, superClassName, h.superClass]
  by_cases hnone : c.superClass = 0
  · rw [if_pos hnone, if_pos hnone]
    exact ⟨none, rfl, rfl⟩
  · rw [if_neg hnone, if_neg hnone]
    obtain ⟨name, hname, hname'⟩ := h.exists_className_eq_ok (hc.superClass hnone)
    exact ⟨some name, by rw [hname]; rfl, by rw [hname']; rfl⟩

theorem memberName_eq (hc : c.WellFormed) {m : Member} (hm : m ∈ c.fields ++ c.methods) :
    s.memberName m = c.memberName m :=
  h.pool.text_eq (hc.member hm).name

theorem attributesNamed_eq (hne : name ≠ locationName) :
    (s.attributesNamed name).map Prod.snd = (c.attributesNamed name).map Prod.snd := by
  rw [attributesNamed_map_snd, attributesNamed_map_snd, h.attributes name hne]

theorem attribute?_eq (hne : name ≠ locationName) : s.attribute? name = c.attribute? name := by
  rw [attribute?, attribute?, ← List.head?_filter, ← List.head?_filter, h.attributes name hne]

theorem indexedText_eq_ok {a : Attribute} {text : String}
    (htext : c.indexedText name a = .ok text) : s.indexedText name a = .ok text := by
  rw [indexedText] at htext ⊢
  rcases hindex : a.index? with _ | index
  · rw [hindex] at htext
    cases htext
  · rw [hindex] at htext
    exact h.pool.text_eq_ok htext

theorem sourceFile_eq_ok {file : Option String} (hfile : c.sourceFile = .ok file) :
    s.sourceFile = .ok file := by
  rw [sourceFile] at hfile ⊢
  rw [h.attribute?_eq (by decide)]
  rcases hfound : c.attribute? "SourceFile" with _ | a
  · rwa [hfound] at hfile
  · rw [hfound] at hfile
    obtain ⟨text, htext, rfl⟩ := map_eq_ok.mp hfile
    exact map_eq_ok.mpr ⟨text, h.indexedText_eq_ok htext, rfl⟩

end Retains

/-- **Accessors stay safe and stable.**  Throughout the history of a class that was read, whatever
is added to it or recorded in it and whatever of that is refused: the names of the class, of its
superclass and of its interfaces are there and are those that were read; the name of a member is
what it was, and where it has none the constant is no modified UTF-8; every look-up in the pool that
succeeded gives the same; the attributes of every name but that of the location are the same in the
same order; and a source file that was read is still read. -/
theorem accessors_of_parse (h : parse bytes = .ok c) (changes : List Change) :
    ∀ s ∈ c.states changes,
      (∃ name, c.thisClassName = .ok name ∧ s.thisClassName = .ok name) ∧
      (∃ name, c.superClassName = .ok name ∧ s.superClassName = .ok name) ∧
      s.interfaces = c.interfaces ∧
      (∀ index ∈ c.interfaces,
        ∃ name, c.pool.className index = .ok name ∧ s.pool.className index = .ok name) ∧
      s.fields = c.fields ∧ s.methods = c.methods ∧
      (∀ m ∈ c.fields ++ c.methods, s.memberName m = c.memberName m ∧
        ∀ e, s.memberName m = .error e → e = .badModifiedUtf8) ∧
      (∀ index constant, c.pool.get index = .ok constant → s.pool.get index = .ok constant) ∧
      (∀ index text, c.pool.text index = .ok text → s.pool.text index = .ok text) ∧
      (∀ text index, c.pool.find? text = some index → s.pool.find? text = some index) ∧
      (∀ name, name ≠ locationName →
        (s.attributesNamed name).map Prod.snd = (c.attributesNamed name).map Prod.snd) ∧
      ∀ file, c.sourceFile = .ok file → s.sourceFile = .ok file := by
  intro s hs
  have hc : c.WellFormed := (parse_eq_ok.mp h).1
  have hretains := retains_of_mem_states hc hs
  refine ⟨hretains.exists_thisClassName_eq_ok hc, hretains.exists_superClassName_eq_ok hc,
    hretains.interfaces, fun index hindex => ?_, hretains.fields, hretains.methods,
    fun m hm => ⟨hretains.memberName_eq hc hm, fun e he => ?_⟩,
    fun _ _ => hretains.pool.get_eq_ok, fun _ _ => hretains.pool.text_eq_ok,
    fun _ _ => hretains.pool.find?_eq_some, fun _ hne => hretains.attributesNamed_eq hne,
    fun _ => hretains.sourceFile_eq_ok⟩
  · exact hretains.exists_className_eq_ok (hc.interfaces.2 index hindex)
  · rw [hretains.memberName_eq hc hm] at he
    exact (hc.member hm).name.eq_of_text_eq_error he

/-- A class is given two locations and two constants of its own name.  Its method, whose name cannot
be read, goes on having that name, and its own name is found where it was. -/
theorem accessors_of_parse_specimen :
    parse specimenBytes = .ok specimen ∧
      ∀ s ∈ specimen.states [.locate "/a", .push "A", .locate "/b", .push "A"],
        s.thisClassName = .ok "A" ∧ s.superClassName = .ok none ∧
          (∀ m ∈ specimen.methods, s.memberName m = .error .badModifiedUtf8) ∧
          s.pool.find? "A" = some 2 := by
  refine ⟨parse_specimenBytes, fun s hs => ?_⟩
  obtain ⟨⟨name, hname, hname'⟩, ⟨super, hsuper, hsuper'⟩, -, -, -, -, hmember, -, -, hfind, -⟩ :=
    accessors_of_parse parse_specimenBytes _ s hs
  refine ⟨?_, ?_, fun m hm => ?_, hfind "A" 2 (by decide +kernel)⟩
  · rw [hname', ← hname]
    decide +kernel
  · rw [hsuper', ← hsuper]
    rfl
  · rw [(hmember m (List.mem_append_right _ hm)).1]
    obtain rfl := List.mem_singleton.mp hm
    decide +kernel

end ClassOrigin.ClassFile
