/-
Look-ups in a constant pool, described by what the pool holds.

Every look-up and every check of the pool is a chain of look-ups of single constants.  Here each
is tied to the conditions that a pool or a class is held to:

* **`get_eq_ok`**, **`utf8Bytes_eq_ok`**, **`text_eq_ok`**, **`className_eq_ok`** — a look-up
  succeeds exactly on what lies at the index;
* **`checkReferences_eq_ok`** — the check passes exactly when every constant refers well.
-/
import ClassOrigin.Proofs.Outcomes
import ClassOrigin.Proofs.WellFormed

namespace ClassOrigin.ClassFile.ConstantPool

open Outcome

variable {pool : ConstantPool} {index : UInt16}

/-! ### Single constants -/

theorem get_eq_ok {c : Constant} : pool.get index = .ok c ↔ pool.Holds index c := by
  rw [get, Holds]
  rcases pool.slots[index.toNat]? with _ | _ | d
  · simp
  · simp
  · simp

theorem utf8Bytes_eq_ok {bytes : Bytes} :
    pool.utf8Bytes index = .ok bytes ↔ pool.Holds index (.utf8 bytes) := by
  simp only [utf8Bytes, bind_eq_ok, get_eq_ok]
  constructor
  · rintro ⟨c, hc, h⟩
    cases c with
    | utf8 found =>
      cases h
      exact hc
    | _ => cases h
  · intro hc
    exact ⟨_, hc, rfl⟩

theorem text_eq_ok {text : String} :
    pool.text index = .ok text ↔
      ∃ bytes, pool.Holds index (.utf8 bytes) ∧ ModifiedUtf8.decode? bytes = some text := by
  simp only [ConstantPool.text, bind_eq_ok, utf8Bytes_eq_ok]
  refine exists_congr fun bytes => and_congr_right fun _ => ?_
  rcases ModifiedUtf8.decode? bytes with _ | found
  · simp
  · simp

theorem className_eq_ok {text : String} :
    pool.className index = .ok text ↔
      ∃ name, pool.Holds index (.classRef name) ∧ pool.text name = .ok text := by
  simp only [className, bind_eq_ok, get_eq_ok]
  constructor
  · rintro ⟨c, hc, h⟩
    cases c with
    | classRef name => exact ⟨name, hc, h⟩
    | _ => cases h
  · rintro ⟨name, hc, h⟩
    exact ⟨_, hc, h⟩

theorem exists_utf8Bytes_eq_ok :
    (∃ bytes, pool.utf8Bytes index = .ok bytes) ↔ pool.Utf8At index := by
  simp only [utf8Bytes_eq_ok, Utf8At]

theorem exists_className_eq_ok :
    (∃ text, pool.className index = .ok text) ↔ pool.NamedClassAt index := by
  simp only [className_eq_ok, text_eq_ok, NamedClassAt]
  constructor
  · rintro ⟨text, name, hname, bytes, hbytes, htext⟩
    exact ⟨name, bytes, text, hname, hbytes, htext⟩
  · rintro ⟨name, bytes, text, hname, hbytes, htext⟩
    exact ⟨text, name, hname, bytes, hbytes, htext⟩

/-! ### Checks -/

theorem expect_eq_ok {expected : Referent} :
    pool.expect expected index = .ok () ↔
      ∃ c, pool.Holds index c ∧ expected.admits c.kind = true := by
  simp only [expect, bind_eq_ok, get_eq_ok]
  refine exists_congr fun c => and_congr_right fun _ => ?_
  by_cases h : expected.admits c.kind = true
  · simp [h]
  · simp [h]

theorem expect_utf8_eq_ok : pool.expect .utf8 index = .ok () ↔ pool.Utf8At index := by
  rw [expect_eq_ok]
  constructor
  · rintro ⟨c, hc, hkind⟩
    cases c with
    | utf8 bytes => exact ⟨bytes, hc⟩
    | _ => cases hkind
  · rintro ⟨bytes, hc⟩
    exact ⟨_, hc, rfl⟩

theorem expect_classRef_eq_ok : pool.expect .classRef index = .ok () ↔ pool.ClassAt index := by
  rw [expect_eq_ok]
  constructor
  · rintro ⟨c, hc, hkind⟩
    cases c with
    | classRef name => exact ⟨name, hc⟩
    | _ => cases hkind
  · rintro ⟨name, hc⟩
    exact ⟨_, hc, rfl⟩

theorem expect_nameAndType_eq_ok :
    pool.expect .nameAndType index = .ok () ↔ pool.NameAndTypeAt index := by
  rw [expect_eq_ok]
  constructor
  · rintro ⟨c, hc, hkind⟩
    cases c with
    | nameAndType name descriptor => exact ⟨name, descriptor, hc⟩
    | _ => cases hkind
  · rintro ⟨name, descriptor, hc⟩
    exact ⟨_, hc, rfl⟩

theorem expect_memberRef_eq_ok : pool.expect .memberRef index = .ok () ↔ pool.MemberAt index := by
  rw [expect_eq_ok]
  constructor
  · rintro ⟨c, hc, hkind⟩
    cases c with
    | fieldRef owner member => exact ⟨owner, member, .inl hc⟩
    | methodRef owner member => exact ⟨owner, member, .inr (.inl hc)⟩
    | interfaceMethodRef owner member => exact ⟨owner, member, .inr (.inr hc)⟩
    | _ => cases hkind
  · rintro ⟨owner, member, hc | hc | hc⟩
    · exact ⟨_, hc, rfl⟩
    · exact ⟨_, hc, rfl⟩
    · exact ⟨_, hc, rfl⟩

theorem checkConstant_eq_ok {c : Constant} :
    pool.checkConstant index c = .ok () ↔ pool.RefersWell c := by
  cases c with
  | utf8 | integer | float | long | double => exact ⟨fun _ => trivial, fun _ => rfl⟩
  | classRef name | moduleRef name | packageRef name => exact expect_utf8_eq_ok
  | string text => exact expect_utf8_eq_ok
  | methodType descriptor => exact expect_utf8_eq_ok
  | fieldRef owner member | methodRef owner member | interfaceMethodRef owner member =>
    rw [checkConstant, both_eq_ok, expect_classRef_eq_ok, expect_nameAndType_eq_ok]
    rfl
  | nameAndType name descriptor =>
    rw [checkConstant, both_eq_ok, expect_utf8_eq_ok, expect_utf8_eq_ok]
    rfl
  | methodHandle kind reference =>
    rw [checkConstant, RefersWell, ← expect_memberRef_eq_ok]
    by_cases h : 1 ≤ kind ∧ kind ≤ 9
    · simp [h]
    · simp [h]
  | dynamic bootstrap member | invokeDynamic bootstrap member => exact expect_nameAndType_eq_ok

theorem mem_toList {c : Constant} :
    (index, c) ∈ pool.toList ↔
      ∃ i : Nat, pool.slots[i]? = some (some c) ∧ index = UInt16.ofNat i := by
  simp only [toList, List.mem_filterMap, List.mem_zipIdx_iff_getElem?]
  constructor
  · rintro ⟨⟨slot, i⟩, hi, hslot⟩
    obtain ⟨d, rfl, hd⟩ := Option.map_eq_some_iff.mp hslot
    cases hd
    exact ⟨i, by simpa using hi, rfl⟩
  · rintro ⟨i, hi, rfl⟩
    exact ⟨(some c, i), by simpa using hi, rfl⟩

theorem checkReferences_eq_ok :
    pool.checkReferences = .ok () ↔
      ∀ (i : Nat) (c : Constant), pool.slots[i]? = some (some c) → pool.RefersWell c := by
  rw [checkReferences, forM_eq_ok]
  constructor
  · intro h i c hc
    exact checkConstant_eq_ok.mp (h (UInt16.ofNat i, c) (mem_toList.mpr ⟨i, hc, rfl⟩))
  · rintro h ⟨index, c⟩ hmem
    obtain ⟨i, hc, -⟩ := mem_toList.mp hmem
    exact checkConstant_eq_ok.mpr (h i c hc)

end ClassOrigin.ClassFile.ConstantPool
