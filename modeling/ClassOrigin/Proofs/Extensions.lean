/-
Longer inputs.

A decoder takes bytes from the front and looks at nothing behind them.  So what it says about an
input it says about every longer one, unless it came to the end of the input; and only the check at
the very end of reading a class asks whether there is anything more.

* **`Decoder.Incremental`** — the verdict on an input stands for all longer ones, but for running
  out of bytes; it is kept by all ways of putting decoders together;
* **`decode_incremental`** — hence reading a class from the front of an input is incremental;
* **`parse_append`** — a whole input that is read is the only one on its way: what is shorter ends
  too early, what is longer has bytes left over, and any other error stays what it is.
-/
import ClassOrigin.Proofs.ClassCodec

namespace ClassOrigin.ClassFile

open Outcome

/-! ### Errors about the end of the input -/

/-- The error says where the input ends, and nothing about what was read. -/
def Error.AboutEnd : Error → Prop
  | .unexpectedEnd | .trailingBytes _ => True
  | _ => False

/-- A verdict on what has been read already. -/
@[reducible] def IsLocal {α : Type} (verdict : Except Error α) : Prop :=
  ∀ {e : Error}, verdict = .error e → ¬ e.AboutEnd

theorem IsLocal.bind {α β : Type} {x : Except Error α} {f : α → Except Error β}
    (hx : IsLocal x) (hf : ∀ a, IsLocal (f a)) : IsLocal (x >>= f) := by
  intro e h
  rcases bind_eq_error.mp h with h | ⟨a, -, h⟩
  · exact hx h
  · exact hf a h

namespace ConstantPool

variable (pool : ConstantPool) (index : UInt16)

theorem isLocal_get : IsLocal (pool.get index) := by
  intro e h
  rw [get] at h
  split at h
  · cases h
  · cases h
    exact id

theorem isLocal_utf8Bytes : IsLocal (pool.utf8Bytes index) := by
  refine IsLocal.bind (pool.isLocal_get index) fun c e h => ?_
  split at h
  · cases h
  · cases h
    exact id

theorem isLocal_text : IsLocal (pool.text index) := by
  refine IsLocal.bind (pool.isLocal_utf8Bytes index) fun bytes e h => ?_
  split at h
  · cases h
  · cases h
    exact id

theorem isLocal_className : IsLocal (pool.className index) := by
  refine IsLocal.bind (pool.isLocal_get index) fun c e h => ?_
  split at h
  · exact pool.isLocal_text _ h
  · cases h
    exact id

theorem isLocal_expect (expected : Referent) : IsLocal (pool.expect expected index) := by
  refine IsLocal.bind (pool.isLocal_get index) fun c e h => ?_
  split at h
  · cases h
  · cases h
    exact id

theorem isLocal_checkConstant (c : Constant) : IsLocal (pool.checkConstant index c) := by
  cases c with
  | utf8 | integer | float | long | double =>
    intro e h
    cases h
  | classRef name | moduleRef name | packageRef name => exact pool.isLocal_expect _ _
  | string text => exact pool.isLocal_expect _ _
  | methodType descriptor => exact pool.isLocal_expect _ _
  | fieldRef owner member | methodRef owner member | interfaceMethodRef owner member =>
    exact IsLocal.bind (pool.isLocal_expect _ _) fun _ => pool.isLocal_expect _ _
  | nameAndType name descriptor =>
    exact IsLocal.bind (pool.isLocal_expect _ _) fun _ => pool.isLocal_expect _ _
  | methodHandle kind reference =>
    intro e h
    rw [checkConstant] at h
    split at h
    · exact pool.isLocal_expect _ _ h
    · cases h
      exact id
  | dynamic bootstrap member | invokeDynamic bootstrap member => exact pool.isLocal_expect _ _

theorem isLocal_checkReferences : IsLocal pool.checkReferences := by
  intro e h
  obtain ⟨⟨index, c⟩, -, hc⟩ := exists_of_forM_eq_error h
  exact pool.isLocal_checkConstant index c hc

end ConstantPool

/-! ### Incremental decoders -/

namespace Decoder

variable {α β : Type} {bytes rest : Bytes}

/-- A value that was read is read from every longer input, with more left over; an error stays,
unless the bytes ran out. -/
structure Incremental (d : Decoder α) : Prop where
  ok_append : ∀ {bytes rest : Bytes} {x : α}, d bytes = .ok (x, rest) →
    ∀ more, d (bytes ++ more) = .ok (x, rest ++ more)
  error_append : ∀ {bytes : Bytes} {e : Error}, d bytes = .error e →
    e = .unexpectedEnd ∨ ¬ e.AboutEnd ∧ ∀ more, d (bytes ++ more) = .error e

namespace Incremental

theorem pure (x : α) : Incremental (pure x : Decoder α) where
  ok_append h more := by
    cases h
    rfl
  error_append h := by cases h

theorem bind {d : Decoder α} {k : α → Decoder β} (hd : Incremental d)
    (hk : ∀ x, Incremental (k x)) : Incremental (d >>= k) where
  ok_append h more := by
    obtain ⟨x, mid, hx, hy⟩ := bind_eq_ok.mp h
    exact bind_eq_ok.mpr ⟨x, mid ++ more, hd.ok_append hx more, (hk x).ok_append hy more⟩
  error_append h := by
    rcases bind_eq_error.mp h with h | ⟨x, mid, hx, h⟩
    · refine (hd.error_append h).imp_right fun ⟨hend, hmore⟩ => ⟨hend, fun more => ?_⟩
      exact bind_eq_error.mpr (.inl (hmore more))
    · -- The second decoder sees the longer rest that the first one leaves.
      refine ((hk x).error_append h).imp_right fun ⟨hend, hmore⟩ => ⟨hend, fun more => ?_⟩
      exact bind_eq_error.mpr (.inr ⟨x, mid ++ more, hd.ok_append hx more, hmore more⟩)

theorem raise {e : Error} (he : ¬ e.AboutEnd) {d : Decoder α}
    (h : ∀ bytes, d bytes = .error e) : Incremental d where
  ok_append {bytes rest x} hok := by
    rw [h] at hok
    cases hok
  error_append {bytes e'} herror := by
    rw [h] at herror
    cases herror
    exact .inr ⟨he, fun more => h _⟩

theorem ite {p : Prop} [Decidable p] {d d' : Decoder α} (hd : Incremental d)
    (hd' : Incremental d') : Incremental (if p then d else d') := by
  split
  · exact hd
  · exact hd'

/-- A guard in front of a decoder. -/
theorem guard {wrong : Prop} [Decidable wrong] {e : Error} (he : ¬ e.AboutEnd)
    {k : Unit → Decoder α} {d : Decoder α} (hd : Incremental d) :
    Incremental (if wrong then throw e >>= k else d) :=
  ite (raise he fun _ => rfl) hd

theorem check {verdict : Except Error α} (h : IsLocal verdict) : Incremental (check verdict) := by
  rcases verdict with e | x
  · exact raise (h rfl) fun _ => rfl
  · exact pure ()

/-- A decoder that inverts a writer, and fails only where bytes are missing. -/
theorem of_reads {d : Decoder α} {valid : α → Prop} {write : α → Bytes} (h : d.Reads valid write)
    (herror : ∀ {bytes e}, d bytes = .error e → e = .unexpectedEnd) : Incremental d where
  ok_append hok more := by
    obtain ⟨hvalid, rfl⟩ := h.mp hok
    exact h.mpr ⟨hvalid, List.append_assoc _ _ _⟩
  error_append he := .inl (herror he)

end Incremental

/-! ### The reads of the format -/

theorem u8_incremental : Incremental u8 := by
  have hreads : Reads u8 (fun _ => True) fun b => [b] := by
    intro bytes rest b
    rw [u8_eq_ok, true_and]
    rfl
  refine .of_reads hreads fun {bytes e} h => ?_
  unfold u8 at h
  split at h
  · cases h
  · cases h
    rfl

theorem u16_incremental : Incremental u16 := by
  have hreads : Reads u16 (fun _ => True) Bytes.ofWord16 := by
    intro bytes rest w
    rw [u16_eq_ok, true_and]
  refine .of_reads hreads fun {bytes e} h => ?_
  unfold u16 at h
  split at h
  · cases h
  · cases h
    rfl

theorem u32_incremental : Incremental u32 := by
  have hreads : Reads u32 (fun _ => True) Bytes.ofWord32 := by
    intro bytes rest w
    rw [u32_eq_ok, true_and]
  refine .of_reads hreads fun {bytes e} h => ?_
  unfold u32 at h
  split at h
  · cases h
  · cases h
    rfl

theorem u64_incremental : Incremental u64 := by
  have hreads : Reads u64 (fun _ => True) Bytes.ofWord64 := by
    intro bytes rest w
    rw [u64_eq_ok, true_and]
  refine .of_reads hreads fun {bytes e} h => ?_
  unfold u64 at h
  split at h
  · cases h
  · cases h
    rfl

theorem block_incremental (n : Nat) : Incremental (block n) := by
  have hreads : Reads (block n) (fun taken => taken.length = n) id := block_eq_ok
  refine .of_reads hreads fun {bytes e} h => ?_
  rw [block] at h
  split at h
  · cases h
  · cases h
    rfl

/-! ### Counted reads -/

/-- A decoder that goes on with what another one read is the chain of the two. -/
theorem eq_bind {d : Decoder α} {k : α → Decoder β} {chain : Decoder β}
    (hok : ∀ {bytes rest x}, d bytes = .ok (x, rest) → chain bytes = k x rest)
    (herror : ∀ {bytes e}, d bytes = .error e → chain bytes = .error e) : chain = d >>= k := by
  funext bytes
  show _ = d bytes >>= fun p => k p.1 p.2
  rcases h : d bytes with e | ⟨x, rest⟩
  · exact herror h
  · exact hok h

theorem timesOnto_incremental {item : Decoder α} (hitem : Incremental item) :
    ∀ (n : Nat) (acc : List α), Incremental (timesOnto item acc n) := by
  intro n
  induction n with
  | zero =>
    intro acc
    exact .pure acc.reverse
  | succ n ih =>
    intro acc
    have hstep : timesOnto item acc (n + 1) = item >>= fun x => timesOnto item (x :: acc) n :=
      eq_bind (fun h => by simp only [timesOnto, h]) (fun h => by simp only [timesOnto, h])
    rw [hstep]
    exact hitem.bind fun x => ih (x :: acc)

theorem table_incremental {item : Decoder α} (hitem : Incremental item) :
    Incremental (table item) :=
  u16_incremental.bind fun count => timesOnto_incremental hitem count.toNat []

end Decoder

open Decoder

/-! ### Constants and pools -/

theorem Constant.decode_incremental : Incremental Constant.decode := by
  refine u8_incremental.bind fun tag => ?_
  unfold decodeBody
  split
  · exact u16_incremental.bind fun length => (block_incremental _).bind fun text => .pure _
  · exact u32_incremental.bind fun bits => .pure _
  · exact u32_incremental.bind fun bits => .pure _
  · exact u64_incremental.bind fun bits => .pure _
  · exact u64_incremental.bind fun bits => .pure _
  · exact u16_incremental.bind fun index => .pure _
  · exact u16_incremental.bind fun index => .pure _
  · exact u16_incremental.bind fun first => u16_incremental.bind fun second => .pure _
  · exact u16_incremental.bind fun first => u16_incremental.bind fun second => .pure _
  · exact u16_incremental.bind fun first => u16_incremental.bind fun second => .pure _
  · exact u16_incremental.bind fun first => u16_incremental.bind fun second => .pure _
  · exact u8_incremental.bind fun kind => u16_incremental.bind fun reference => .pure _
  · exact u16_incremental.bind fun index => .pure _
  · exact u16_incremental.bind fun first => u16_incremental.bind fun second => .pure _
  · exact u16_incremental.bind fun first => u16_incremental.bind fun second => .pure _
  · exact u16_incremental.bind fun index => .pure _
  · exact u16_incremental.bind fun index => .pure _
  · exact .raise id fun _ => rfl

/-- The loop over the slots: what follows a constant depends on whether that is wide. -/
theorem ConstantPool.decodeSlots_incremental (count : UInt16) (free : Nat)
    (slots : Array (Option Constant)) : Incremental (decodeSlots count free slots) := by
  induction free, slots using decodeSlots.induct with
  | case1 slots => exact .pure slots
  | case2 slots =>
    have hstep : decodeSlots count 1 slots = Constant.decode >>= fun c rest =>
        if c.isWide then .error (.badIndex count) else .ok (slots.push (some c), rest) :=
      eq_bind (fun h => by simp only [decodeSlots, h]) (fun h => by simp only [decodeSlots, h])
    rw [hstep]
    refine Constant.decode_incremental.bind fun c => ?_
    rcases c.isWide
    · exact .pure _
    · exact .raise id fun _ => rfl
  | case3 free slots ihWide ihNarrow =>
    have hstep : decodeSlots count (free + 2) slots = Constant.decode >>= fun c rest =>
        if c.isWide then decodeSlots count free ((slots.push (some c)).push none) rest
        else decodeSlots count (free + 1) (slots.push (some c)) rest :=
      eq_bind (fun h => by simp only [decodeSlots, h]) (fun h => by simp only [decodeSlots, h])
    rw [hstep]
    refine Constant.decode_incremental.bind fun c => ?_
    rcases c.isWide
    · exact ihNarrow c
    · exact ihWide c

theorem ConstantPool.decode_incremental : Incremental ConstantPool.decode := by
  refine u16_incremental.bind fun count => .guard id ?_
  refine (decodeSlots_incremental count _ _).bind fun slots => ?_
  exact (Incremental.check (isLocal_checkReferences _)).bind fun _ => .pure _

/-! ### Attributes, members and classes -/

variable (pool : ConstantPool)

theorem Attribute.decode_incremental : Incremental (Attribute.decode pool) := by
  refine u16_incremental.bind fun name => ?_
  refine (Incremental.check (pool.isLocal_utf8Bytes name)).bind fun _ => ?_
  exact u32_incremental.bind fun length => (block_incremental _).bind fun payload => .pure _

theorem Member.decode_incremental : Incremental (Member.decode pool) := by
  refine u16_incremental.bind fun access => u16_incremental.bind fun name => ?_
  refine (Incremental.check (pool.isLocal_utf8Bytes name)).bind fun _ => ?_
  refine u16_incremental.bind fun descriptor => ?_
  refine (Incremental.check (pool.isLocal_utf8Bytes descriptor)).bind fun _ => ?_
  exact (table_incremental (Attribute.decode_incremental pool)).bind fun attributes => .pure _

theorem decodeClassIndex_incremental : Incremental (decodeClassIndex pool) := by
  refine u16_incremental.bind fun index => ?_
  exact (Incremental.check (pool.isLocal_className index)).bind fun _ => .pure _

theorem decodeSuperIndex_incremental : Incremental (decodeSuperIndex pool) := by
  refine u16_incremental.bind fun index => .ite ?_ (.pure _)
  exact (Incremental.check (pool.isLocal_className index)).bind fun _ => .pure _

theorem decode_incremental : Incremental decode := by
  refine u32_incremental.bind fun found => .guard id ?_
  refine u16_incremental.bind fun minor => u16_incremental.bind fun major => .guard id ?_
  refine ConstantPool.decode_incremental.bind fun pool => u16_incremental.bind fun access => ?_
  refine (decodeClassIndex_incremental pool).bind fun thisClass => ?_
  refine (decodeSuperIndex_incremental pool).bind fun superClass => ?_
  refine (table_incremental (decodeClassIndex_incremental pool)).bind fun interfaces => ?_
  refine (table_incremental (Member.decode_incremental pool)).bind fun fields => ?_
  refine (table_incremental (Member.decode_incremental pool)).bind fun methods => ?_
  exact (table_incremental (Attribute.decode_incremental pool)).bind fun attributes => .pure _

/-! ### Whole inputs -/

section

variable {bytes front more : Bytes} {c : ClassFile} {e : Error} {n : Nat}

theorem parse_of_decode {rest : Bytes} (h : decode bytes = .ok (c, rest)) :
    parse bytes = if rest = [] then .ok c else .error (.trailingBytes rest.length) := by
  rw [parse, h]
  rcases rest with _ | ⟨b, rest⟩
  · rfl
  · rfl

theorem parse_of_decode_error (h : decode bytes = .error e) : parse bytes = .error e := by
  rw [parse, h]
  rfl

theorem parse_eq_ok_iff_decode : parse bytes = .ok c ↔ decode bytes = .ok (c, []) := by
  rcases h : decode bytes with e | ⟨c', rest⟩
  · rw [parse_of_decode_error h]
    simp
  · rw [parse_of_decode h]
    by_cases hrest : rest = []
    · simp [hrest]
    · simp [hrest]

/-- Bytes are left over only behind a class that was read. -/
theorem parse_eq_trailingBytes :
    parse bytes = .error (.trailingBytes n) ↔
      ∃ c rest, decode bytes = .ok (c, rest) ∧ rest ≠ [] ∧ rest.length = n := by
  constructor
  · intro hparse
    rcases h : decode bytes with e | ⟨c, rest⟩
    · -- Reading from the front asks for more, and never says that there is too much.
      rw [parse_of_decode_error h] at hparse
      cases hparse
      rcases decode_incremental.error_append h with hend | ⟨hend, -⟩
      · cases hend
      · exact absurd trivial hend
    · rw [parse_of_decode h] at hparse
      split at hparse
      · cases hparse
      · rename_i hrest
        cases hparse
        exact ⟨c, rest, rfl, hrest, rfl⟩
  · rintro ⟨c, rest, h, hrest, rfl⟩
    rw [parse_of_decode h, if_neg hrest]

theorem decode_eq_error_of_parse (h : parse bytes = .error e) (he : ∀ n, e ≠ .trailingBytes n) :
    decode bytes = .error e := by
  rcases hd : decode bytes with e' | ⟨c, rest⟩
  · rw [parse_of_decode_error hd] at h
    cases h
    rfl
  · rw [parse_of_decode hd] at h
    split at h
    · cases h
    · cases h
      exact absurd rfl (he _)

/-! ### Longer and shorter inputs -/

theorem parse_append_of_ok (h : parse bytes = .ok c) (hmore : more ≠ []) :
    parse (bytes ++ more) = .error (.trailingBytes more.length) := by
  have hdecode := decode_incremental.ok_append (parse_eq_ok_iff_decode.mp h) more
  exact parse_eq_trailingBytes.mpr ⟨c, more, hdecode, hmore, rfl⟩

theorem parse_append_of_trailingBytes (h : parse bytes = .error (.trailingBytes n)) :
    parse (bytes ++ more) = .error (.trailingBytes (n + more.length)) := by
  obtain ⟨c, rest, hdecode, hrest, rfl⟩ := parse_eq_trailingBytes.mp h
  refine parse_eq_trailingBytes.mpr ⟨c, rest ++ more, ?_, ?_, List.length_append⟩
  · exact decode_incremental.ok_append hdecode more
  · intro hnil
    exact hrest (List.append_eq_nil_iff.mp hnil).1

theorem parse_append_of_error (h : parse bytes = .error e) (hend : e ≠ .unexpectedEnd)
    (htrailing : ∀ n, e ≠ .trailingBytes n) : parse (bytes ++ more) = .error e := by
  have hdecode := decode_eq_error_of_parse h htrailing
  rcases decode_incremental.error_append hdecode with he | ⟨-, hmore⟩
  · exact absurd he hend
  · exact parse_of_decode_error (hmore more)

/-- What stands in front of the end of a class can only be too short: any other verdict on it
would be one on the class. -/
theorem parse_of_shorter (h : parse bytes = .ok c) (hstart : front <+: bytes)
    (hne : front ≠ bytes) : parse front = .error .unexpectedEnd := by
  obtain ⟨more, rfl⟩ := hstart
  have hmore : more ≠ [] := by
    rintro rfl
    exact hne (List.append_nil front).symm
  rcases hfront : parse front with e | c'
  · by_cases hend : e = .unexpectedEnd
    · rw [hend]
    · by_cases htrailing : ∃ n, e = .trailingBytes n
      · obtain ⟨n, rfl⟩ := htrailing
        rw [parse_append_of_trailingBytes hfront] at h
        cases h
      · rw [parse_append_of_error hfront hend (not_exists.mp htrailing)] at h
        cases h
  · rw [parse_append_of_ok hfront hmore] at h
    cases h

end

/-- **Reading stops at no other place.**  Of the inputs on the way to a class that is read, all
shorter ones end too early, and all longer ones have bytes left over, each more counted; an error
that is about neither end stands whatever follows.  So no class begins another one. -/
theorem parse_append (bytes more : Bytes) :
    (∀ c, parse bytes = .ok c →
        (∀ front, front <+: bytes → front ≠ bytes → parse front = .error .unexpectedEnd) ∧
          (more ≠ [] → parse (bytes ++ more) = .error (.trailingBytes more.length))) ∧
      (∀ n, parse bytes = .error (.trailingBytes n) →
        parse (bytes ++ more) = .error (.trailingBytes (n + more.length))) ∧
      (∀ e, parse bytes = .error e → e ≠ .unexpectedEnd → (∀ n, e ≠ .trailingBytes n) →
        parse (bytes ++ more) = .error e) ∧
      (∀ c c', parse bytes = .ok c → parse (bytes ++ more) = .ok c' → more = []) := by
  refine ⟨fun c h => ⟨fun front => parse_of_shorter h, parse_append_of_ok h⟩,
    fun n => parse_append_of_trailingBytes, fun e => parse_append_of_error, fun c c' h h' => ?_⟩
  by_contra hmore
  rw [parse_append_of_ok h hmore] at h'
  cases h'

/-- A class cut off in the middle of its method, one with bytes behind it, and one that starts with
the wrong word. -/
theorem parse_append_specimen :
    parse (specimenBytes.take 150) = .error .unexpectedEnd ∧
      parse (specimenBytes ++ [0x00, 0x01]) = .error (.trailingBytes 2) ∧
      parse ((specimenBytes ++ [0x00, 0x01]) ++ [0x02]) = .error (.trailingBytes 3) ∧
      parse ([0xCA, 0xFE, 0xBA, 0xBF] ++ specimenBytes) = .error (.badMagic 0xCAFEBABF) := by
  obtain ⟨hread, -⟩ := parse_append specimenBytes [0x00, 0x01]
  obtain ⟨hshorter, hlonger⟩ := hread specimen parse_specimenBytes
  have htrailing := hlonger (by decide)
  refine ⟨?_, htrailing, ?_, ?_⟩
  · exact hshorter _ (List.take_prefix 150 specimenBytes) (by decide)
  · exact (parse_append _ [0x02]).2.1 2 htrailing
  · exact (parse_append [0xCA, 0xFE, 0xBA, 0xBF] specimenBytes).2.2.1 _ rfl nofun nofun

end ClassOrigin.ClassFile
