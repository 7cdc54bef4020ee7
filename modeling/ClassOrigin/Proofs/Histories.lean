/-
Histories of a class.

A class that was read is changed any number of times, by constants added to its pool and locations
recorded in it, with any texts.  A change goes through or is refused, and the next one is made to
whatever it left, so what a refused change leaves behind is part of the history as well.

* **`keeps_perform`** — what one change keeps, refused or not;
* **`keeps_of_mem_history`**, **`pairwise_states`** — hence what a history keeps, by induction;
* **`history_of_parse`** — every class of a history can be written, with no length cut off, and is
  read back; and what a class of it holds at an index, all later ones hold there.
-/
import ClassOrigin.Proofs.LocationUpdate

namespace ClassOrigin.ClassFile

/-! ### Changes -/

/-- A change that can be made to a class. -/
inductive Change
  | push (text : String)
  | intern (text : String)
  | locate (path : String)

/-- What a change that goes through answers. -/
inductive Answer
  | index (index : UInt16)
  | update (update : LocationUpdate)

/-- The class with a constant added to its pool; where that is refused, the class as it was. -/
def withConstant (c : ClassFile) :
    Except Error (UInt16 × ConstantPool) → Except Error Answer × ClassFile
  | .ok (index, pool) => (.ok (.index index), { c with pool })
  | .error e => (.error e, c)

/-- Makes a change: its answer, and the class that it leaves. -/
def perform (c : ClassFile) : Change → Except Error Answer × ClassFile
  | .push text => c.withConstant (c.pool.push text)
  | .intern text => c.withConstant (c.pool.intern text)
  | .locate path => ((c.setSourceLocation path).1.map .update, (c.setSourceLocation path).2)

/-- The answers to changes made one after the other, each with the class that was left. -/
def history (c : ClassFile) : List Change → List (Except Error Answer × ClassFile)
  | [] => []
  | change :: changes => c.perform change :: (c.perform change).2.history changes

/-- The class and those that the changes leave, in order. -/
def states (c : ClassFile) (changes : List Change) : List ClassFile :=
  c :: (c.history changes).map Prod.snd

variable {c after : ClassFile} {change : Change} {changes : List Change} {bytes : Bytes}
  {outcome : Except Error Answer × ClassFile}

theorem states_cons : c.states (change :: changes) = c :: (c.perform change).2.states changes := rfl

/-! ### What one change keeps -/

/-- `outcome` leaves a well-formed class that holds what `c` holds, and answers with an index, if
with any, that stands for a constant. -/
structure Keeps (c : ClassFile) (outcome : Except Error Answer × ClassFile) : Prop where
  wellFormed : outcome.2.WellFormed
  pool_extends : c.pool.Extends outcome.2.pool
  index_mem : ∀ index, outcome.1 = .ok (.index index) → 1 ≤ index ∧ index ≤ 65534

theorem keeps_withConstant (hc : c.WellFormed) {text : String}
    {result : Except Error (UInt16 × ConstantPool)}
    (h : ∀ {index grown}, result = .ok (index, grown) →
      c.pool.Extends grown ∧ grown.slots.size ≤ 65535 ∧
        grown.Holds index (.utf8 (ModifiedUtf8.encode text))) :
    Keeps c (c.withConstant result) := by
  rcases result with e | ⟨index, grown⟩
  · exact ⟨hc, .refl _, nofun⟩
  · obtain ⟨hext, hsize, hholds⟩ := h rfl
    have hgrown := hc.of_extends hext hsize
    refine ⟨hgrown, hext, fun index' hindex => ?_⟩
    cases hindex
    exact hgrown.pool.index_mem hholds

theorem keeps_perform (hc : c.WellFormed) (change : Change) : Keeps c (c.perform change) := by
  cases change with
  | push text => exact keeps_withConstant hc ConstantPool.extends_of_push
  | intern text =>
    exact keeps_withConstant hc (ConstantPool.extends_of_intern hc.pool.size_le)
  | locate path =>
    have hrecords := records_setSourceLocation c path
    obtain ⟨hext, -⟩ := hrecords.extends hc.pool.size_le
    refine ⟨hrecords.wellFormed hc, hext, fun index hindex => ?_⟩
    -- An update answers with no index.
    obtain ⟨update, -, hanswer⟩ := Outcome.map_eq_ok.mp hindex
    cases hanswer

/-! ### What a history keeps -/

theorem keeps_of_mem_history (hc : c.WellFormed) (h : outcome ∈ c.history changes) :
    Keeps c outcome := by
  induction changes generalizing c with
  | nil => cases h
  | cons change changes ih =>
    have hperform := keeps_perform hc change
    rcases List.mem_cons.mp h with rfl | hlater
    · exact hperform
    · have hkeeps := ih hperform.wellFormed hlater
      exact ⟨hkeeps.wellFormed, hperform.pool_extends.trans hkeeps.pool_extends, hkeeps.index_mem⟩

theorem wellFormed_of_mem_states (hc : c.WellFormed) (h : after ∈ c.states changes) :
    after.WellFormed := by
  rcases List.mem_cons.mp h with rfl | hlater
  · exact hc
  · obtain ⟨outcome, houtcome, rfl⟩ := List.mem_map.mp hlater
    exact (keeps_of_mem_history hc houtcome).wellFormed

/-- Along a history the pool only grows. -/
theorem pairwise_states (hc : c.WellFormed) :
    (c.states changes).Pairwise fun earlier later => earlier.pool.Extends later.pool := by
  induction changes generalizing c with
  | nil => exact List.pairwise_singleton _ _
  | cons change changes ih =>
    rw [states_cons, List.pairwise_cons]
    refine ⟨fun later hlater => ?_, ih (keeps_perform hc change).wellFormed⟩
    have hmem : later ∈ (c.history (change :: changes)).map Prod.snd := hlater
    obtain ⟨outcome, houtcome, rfl⟩ := List.mem_map.mp hmem
    exact (keeps_of_mem_history hc houtcome).pool_extends

/-! ### Written lengths -/

/-- All attributes of a class and of its members. -/
def allAttributes (c : ClassFile) : List Attribute :=
  c.attributes ++ (c.fields ++ c.methods).flatMap Member.attributes

/-- No length that is written for a class is cut off: each word reads as the number that it was
made from. -/
structure ExactLengths (c : ClassFile) : Prop where
  slots : c.pool.length.toNat = c.pool.slots.size
  texts : ∀ (i : Nat) (text : Bytes), c.pool.slots[i]? = some (some (.utf8 text)) →
    (UInt16.ofNat text.length).toNat = text.length
  interfaces : (UInt16.ofNat c.interfaces.length).toNat = c.interfaces.length
  fields : (UInt16.ofNat c.fields.length).toNat = c.fields.length
  methods : (UInt16.ofNat c.methods.length).toNat = c.methods.length
  members : ∀ m ∈ c.fields ++ c.methods,
    (UInt16.ofNat m.attributes.length).toNat = m.attributes.length
  attributes : (UInt16.ofNat c.attributes.length).toNat = c.attributes.length
  payloads : ∀ a ∈ c.allAttributes,
    (UInt32.ofNat a.payload.length).toNat = a.payload.length

theorem toNat_ofNat_of_le {n : Nat} (h : n ≤ 65535) : (UInt16.ofNat n).toNat = n :=
  UInt16.toNat_ofNat_of_lt (Nat.lt_succ_of_le h)

theorem IsTable.toNat_length {α : Type} {valid : α → Prop} {xs : List α} (h : IsTable valid xs) :
    (UInt16.ofNat xs.length).toNat = xs.length :=
  toNat_ofNat_of_le h.1

theorem WellFormed.member (hc : c.WellFormed) {m : Member} (hm : m ∈ c.fields ++ c.methods) :
    m.WellFormed c.pool := by
  rcases List.mem_append.mp hm with hm | hm
  · exact hc.fields.2 m hm
  · exact hc.methods.2 m hm

theorem WellFormed.attribute (hc : c.WellFormed) {a : Attribute} (ha : a ∈ c.allAttributes) :
    a.WellFormed c.pool := by
  rcases List.mem_append.mp ha with ha | ha
  · exact hc.attributes.2 a ha
  · obtain ⟨m, hm, hma⟩ := List.mem_flatMap.mp ha
    exact (hc.member hm).attributes.2 a hma

theorem WellFormed.exactLengths (hc : c.WellFormed) : c.ExactLengths where
  slots := toNat_ofNat_of_le hc.pool.size_le
  texts := fun i text h => toNat_ofNat_of_le (hc.pool.utf8_le i text h)
  interfaces := hc.interfaces.toNat_length
  fields := hc.fields.toNat_length
  methods := hc.methods.toNat_length
  members := fun _ hm => (hc.member hm).attributes.toNat_length
  attributes := hc.attributes.toNat_length
  payloads := fun _ ha => UInt32.toNat_ofNat_of_lt (hc.attribute ha).payload_lt

/-! ### Histories of classes that were read -/

/-- **Changes keep a class fit for writing.**  Whatever is added to a class that was read or
recorded in it, and whether it goes through or is refused: each class on the way has a pool that
fits, is written with no length cut off, and is read back from its bytes; each index answered
stands for a constant; and what lies in a slot stays there. -/
theorem history_of_parse (h : parse bytes = .ok c) (changes : List Change) :
    (∀ s ∈ c.states changes,
        s.pool.slots.size ≤ 65535 ∧ s.ExactLengths ∧ parse s.toBytes = .ok s) ∧
      (∀ outcome ∈ c.history changes, ∀ index,
        outcome.1 = .ok (.index index) → 1 ≤ index ∧ index ≤ 65534) ∧
      (c.states changes).Pairwise fun earlier later =>
        ∀ (i : Nat) (slot : Option Constant),
          earlier.pool.slots[i]? = some slot → later.pool.slots[i]? = some slot := by
  have hc : c.WellFormed := (parse_eq_ok.mp h).1
  refine ⟨fun s hs => ?_, fun outcome houtcome => (keeps_of_mem_history hc houtcome).index_mem, ?_⟩
  · have hwf := wellFormed_of_mem_states hc hs
    exact ⟨hwf.pool.size_le, hwf.exactLengths, parse_eq_ok.mpr ⟨hwf, rfl⟩⟩
  · refine (pairwise_states hc).imp ?_
    intro earlier later hext i slot hslot
    exact hext.getElem? hslot

/-- A history in which the first change is refused half-way, with a constant left behind that
fills the pool, and the last one finds that constant. -/
theorem history_of_parse_crowded :
    parse crowded.toBytes = .ok crowded ∧
      (crowded.perform (.locate "/repo/out")).1 = .error .poolFull ∧
      (∀ s ∈ crowded.states [.locate "/repo/out", .push "/repo/in", .intern "/repo/out"],
        s.pool.slots.size ≤ 65535 ∧ s.ExactLengths ∧ parse s.toBytes = .ok s) ∧
      (∀ outcome ∈ crowded.history [.locate "/repo/out", .push "/repo/in", .intern "/repo/out"],
        ∀ index, outcome.1 = .ok (.index index) → 1 ≤ index ∧ index ≤ 65534) ∧
      (crowded.states [.locate "/repo/out", .push "/repo/in", .intern "/repo/out"]).Pairwise
        fun earlier later => ∀ (i : Nat) (slot : Option Constant),
          earlier.pool.slots[i]? = some slot → later.pool.slots[i]? = some slot := by
  have hparse : parse crowded.toBytes = .ok crowded := parse_eq_ok.mpr ⟨crowded_wellFormed, rfl⟩
  have hfirst : (crowded.perform (.locate "/repo/out")).1 = .error .poolFull := by
    rw [perform, crowded_oneSlotShort.setSourceLocation_eq]
    rfl
  exact ⟨hparse, hfirst, history_of_parse hparse _⟩

end ClassOrigin.ClassFile
