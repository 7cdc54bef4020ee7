/-
Keys that nothing knows.

A record is read entry by entry, and a key that names no field ends the reading.  So in what has been
read there are known keys only, at the top and in every record below it.  The table of a path policy
is no record: two of its keys are looked up, and whatever else stands there is passed over.

* **`HasUnknown`** — a document has a table, under some keys, with a key that is not known, which
  **`decidableHasUnknown`** finds out;
* **`Schema.read_below`** — where a record was read, so was what stands under each of its keys;
* **`Schema.not_hasUnknown_of_read`** — and all of these name fields;
* **`Schema.read_changeAt`** — what stands under a key can be changed in a way that its own reader
  does not notice;
* **`Settings.ofText_of_hasUnknown`** — hence unknown keys are refused in three tables of the
  settings, and in the fourth they make no difference.
-/
import ClassOrigin.Proofs.Outcomes
import ClassOrigin.Settings.Basic

namespace ClassOrigin

open Outcome

namespace Document

variable {document value inner : Document} {entries : List (String × Document)} {complete : Bool}
  {path known : List String} {key : String}

/-! ### Tables in a document -/

/-- What stands under a path of keys in a document. -/
inductive Under : List String → Document → Document → Prop
  | here (document : Document) : Under [] document document
  | entry {path : List String} {key : String} {entries : List (String × Document)}
      {complete : Bool} {value inner : Document} (hmem : (key, value) ∈ entries)
      (h : Under path value inner) : Under (key :: path) (.table entries complete) inner

/-- Under a path of keys stands a table that has a key which is not known. -/
def HasUnknown (path known : List String) (document : Document) : Prop :=
  ∃ entries complete, Under path document (.table entries complete) ∧
    ∃ entry ∈ entries, entry.1 ∉ known

theorem under_nil : Under [] document inner ↔ inner = document := by
  constructor
  · intro h
    cases h
    rfl
  · rintro rfl
    exact .here inner

theorem under_cons :
    Under (key :: path) document inner ↔
      ∃ entries complete value, document = .table entries complete ∧ (key, value) ∈ entries ∧
        Under path value inner := by
  constructor
  · intro h
    cases h with
    | entry hmem h => exact ⟨_, _, _, rfl, hmem, h⟩
  · rintro ⟨entries, complete, value, rfl, hmem, h⟩
    exact .entry hmem h

theorem hasUnknown_cons :
    HasUnknown (key :: path) known document ↔
      ∃ value, Under [key] document value ∧ HasUnknown path known value := by
  constructor
  · rintro ⟨found, complete, hunder, hfound⟩
    obtain ⟨entries, complete', value, rfl, hmem, hbelow⟩ := under_cons.mp hunder
    exact ⟨value, .entry hmem (.here value), found, complete, hbelow, hfound⟩
  · rintro ⟨value, hunder, found, complete, hbelow, hfound⟩
    obtain ⟨entries, complete', value', rfl, hmem, hvalue⟩ := under_cons.mp hunder
    obtain rfl := under_nil.mp hvalue
    exact ⟨found, complete, .entry hmem hbelow, hfound⟩

/-- The entries of a document; none when it is no table. -/
def tableEntries : Document → List (String × Document)
  | table entries _ => entries
  | _ => []

theorem hasUnknown_nil_iff :
    HasUnknown [] known document ↔ ∃ entry ∈ document.tableEntries, entry.1 ∉ known := by
  constructor
  · rintro ⟨found, complete, hunder, h⟩
    cases hunder
    exact h
  · rintro ⟨entry, hmem, h⟩
    cases document with
    | table found complete => exact ⟨found, complete, .here _, entry, hmem, h⟩
    | _ => cases hmem

theorem hasUnknown_cons_iff :
    HasUnknown (key :: path) known document ↔
      ∃ entry ∈ document.tableEntries, entry.1 = key ∧ HasUnknown path known entry.2 := by
  rw [hasUnknown_cons]
  constructor
  · rintro ⟨value, hunder, h⟩
    obtain ⟨found, complete, value', rfl, hmem, hvalue⟩ := under_cons.mp hunder
    obtain rfl := under_nil.mp hvalue
    exact ⟨(key, value), hmem, rfl, h⟩
  · rintro ⟨⟨_, value⟩, hmem, rfl, h⟩
    cases document with
    | table found complete => exact ⟨value, .entry hmem (.here value), h⟩
    | _ => cases hmem

/-- By recursion on the path: the entries under its first key are tried in turn. -/
instance decidableHasUnknown :
    ∀ (path known : List String) (document : Document), Decidable (HasUnknown path known document)
  | [], _, _ => decidable_of_iff _ hasUnknown_nil_iff.symm
  | _ :: path, known, _ =>
    have := decidableHasUnknown path known
    decidable_of_iff _ hasUnknown_cons_iff.symm

/-! ### Records that were read -/

section

variable {ρ α : Type} {schema : Schema ρ} {format : Format} {record : ρ} {seen : List String}
  {result : List String × ρ} {reader : Reader α} {set : ρ → α → ρ}

/-- By induction on the entries: each one had a field that took its value. -/
theorem Schema.exists_fill_of_fillEntries
    (h : schema.fillEntries entries seen record = .ok result) (hmem : (key, value) ∈ entries) :
    ∃ field before after, schema.fields.find? (fun field => field.name == key) = some field ∧
      field.fill value before = .ok after := by
  induction entries generalizing seen record with
  | nil => cases hmem
  | cons entry rest ih =>
    obtain ⟨key', value'⟩ := entry
    rw [fillEntries] at h
    split at h
    · cases h
    · rename_i field hfield
      split at h
      · cases h
      · split at h
        · rename_i after hfill
          rcases List.mem_cons.mp hmem with heq | hmem
          · cases heq
            exact ⟨field, record, after, hfield, hfill⟩
          · exact ih h hmem
        · cases h

theorem Schema.exists_fill_of_read (h : schema.read format document = .ok record)
    (hunder : Under [key] document value) :
    ∃ field before after, schema.fields.find? (fun field => field.name == key) = some field ∧
      field.fill value before = .ok after := by
  obtain ⟨entries, complete, value', rfl, hmem, hvalue⟩ := under_cons.mp hunder
  obtain rfl := under_nil.mp hvalue
  obtain ⟨⟨seen, filled⟩, hfill, -⟩ := bind_eq_ok.mp h
  exact exists_fill_of_fillEntries hfill hmem

/-- Where a record was read, what stands under the key of a field was read as that field's value. -/
theorem Schema.read_below {required : Bool}
    (hfield : schema.fields.find? (fun field => field.name == key) =
      some ⟨key, required, fun found record => set record <$> reader found⟩)
    (h : schema.read format document = .ok record) (hunder : Under [key] document value) :
    ∃ content, reader value = .ok content := by
  obtain ⟨field, before, after, hfound, hfill⟩ := exists_fill_of_read h hunder
  rw [hfield, Option.some.injEq] at hfound
  subst hfound
  obtain ⟨content, hcontent, -⟩ := map_eq_ok.mp hfill
  exact ⟨content, hcontent⟩

/-- What was read as a record has known keys only. -/
theorem Schema.not_hasUnknown_of_read (h : schema.read format document = .ok record) :
    ¬ document.HasUnknown [] schema.names := by
  rintro ⟨entries, complete, hunder, ⟨key, value⟩, hmem, hunknown⟩
  have hself := under_nil.mp hunder
  subst hself
  obtain ⟨field, before, after, hfound, -⟩ := exists_fill_of_read h (.entry hmem (.here value))
  have hname : field.name = key := by simpa using List.find?_some hfound
  exact hunknown (hname ▸ List.mem_map_of_mem (List.mem_of_find?_eq_some hfound))

end

/-! ### Changes below a key -/

/-- The document with what stands under a key changed. -/
def changeAt (key : String) (change : Document → Document) : Document → Document
  | .table entries complete =>
    .table (entries.map fun entry =>
      (entry.1, if entry.1 = key then change entry.2 else entry.2)) complete
  | document => document

/-- A table without its unknown keys. -/
def onlyKnown (known : List String) : Document → Document
  | .table entries complete => .table (entries.filter fun entry => known.contains entry.1) complete
  | document => document

theorem not_hasUnknown_onlyKnown : ¬ (document.onlyKnown known).HasUnknown [] known := by
  rintro ⟨entries, complete, hunder, entry, hmem, hunknown⟩
  have hself := under_nil.mp hunder
  cases document with
  | table found complete' =>
    cases hself
    exact hunknown (by simpa using (List.mem_filter.mp hmem).2)
  | _ => cases hself

theorem exists_of_under_changeAt {change : Document → Document}
    (h : Under [key] (document.changeAt key change) inner) :
    ∃ value, Under [key] document value ∧ inner = change value := by
  obtain ⟨entries, complete, value, htable, hmem, hvalue⟩ := under_cons.mp h
  obtain rfl := under_nil.mp hvalue
  cases document with
  | table found complete' =>
    cases htable
    obtain ⟨⟨key', value'⟩, hfound, heq⟩ := List.mem_map.mp hmem
    obtain ⟨rfl, rfl⟩ := Prod.mk.inj heq
    exact ⟨value', .entry hfound (.here value'), if_pos rfl⟩
  | _ => cases htable

theorem lookup_filter_of_contains (h : known.contains key = true)
    (entries : List (String × Document)) :
    (entries.filter fun entry => known.contains entry.1).lookup key = entries.lookup key := by
  induction entries with
  | nil => rfl
  | cons entry entries ih =>
    obtain ⟨key', value⟩ := entry
    by_cases hkey : key = key'
    · subst hkey
      rw [List.filter_cons, if_pos h, List.lookup_cons_self, List.lookup_cons_self]
    · rw [List.lookup_cons, beq_false_of_ne hkey, ← ih, List.filter_cons]
      split
      · rw [List.lookup_cons, beq_false_of_ne hkey]
      · rfl

section

variable {ρ : Type} {schema : Schema ρ} {change : Document → Document}

/-- By induction on the entries: their keys stay, and their values fill the same fields alike. -/
theorem Schema.fillEntries_changeAt
    (h : ∀ field ∈ schema.fields, field.name = key →
      ∀ value record, field.fill (change value) record = field.fill value record)
    (entries : List (String × Document)) (seen : List String) (record : ρ) :
    schema.fillEntries (entries.map fun entry =>
        (entry.1, if entry.1 = key then change entry.2 else entry.2)) seen record =
      schema.fillEntries entries seen record := by
  induction entries generalizing seen record with
  | nil => rfl
  | cons entry entries ih =>
    obtain ⟨key', value⟩ := entry
    simp only [List.map_cons, fillEntries]
    rcases hfield : schema.fields.find? fun field => field.name == key' with _ | field
    · simp only [hfield]
    · have hfill : field.fill (if key' = key then change value else value) record =
          field.fill value record := by
        have hname : field.name = key' := by simpa using List.find?_some hfield
        split
        · rename_i hkey
          exact h field (List.mem_of_find?_eq_some hfield) (hname.trans hkey) value record
        · rfl
      simp only [hfield, hfill, ih]

/-- A change below a key that no field of that name notices is not noticed by the record. -/
theorem Schema.read_changeAt (format : Format)
    (h : ∀ field ∈ schema.fields, field.name = key →
      ∀ value record, field.fill (change value) record = field.fill value record)
    (document : Document) :
    schema.read format (document.changeAt key change) = schema.read format document := by
  cases document with
  | table entries complete => rw [changeAt, read, read, fillEntries_changeAt h]
  | _ => rfl

end

end Document

open Document

/-! ### Settings -/

/-- The keys that are looked up in the table of a path policy. -/
def PathPolicy.keys : List String := ["kind", "root"]

/-- A path policy is read from two keys. -/
theorem PathPolicy.ofDocument_onlyKnown (document : Document) :
    ofDocument (document.onlyKnown keys) = ofDocument document := by
  cases document with
  | table entries complete =>
    rw [onlyKnown, ofDocument, ofDocument, ofEntries, ofEntries,
      lookup_filter_of_contains (by decide), lookup_filter_of_contains (by decide)]
  | _ => rfl

namespace Settings

/-- The document without what its path policy passes over. -/
def withoutStrays : Document → Document :=
  changeAt "agent" (changeAt "path_policy" (onlyKnown PathPolicy.keys))

theorem not_hasUnknown_withoutStrays (document : Document) :
    ¬ (withoutStrays document).HasUnknown ["agent", "path_policy"] PathPolicy.keys := by
  intro h
  obtain ⟨agent, hagent, h⟩ := hasUnknown_cons.mp h
  obtain ⟨policy, hpolicy, h⟩ := hasUnknown_cons.mp h
  obtain ⟨agent', -, rfl⟩ := exists_of_under_changeAt hagent
  obtain ⟨policy', -, rfl⟩ := exists_of_under_changeAt hpolicy
  exact not_hasUnknown_onlyKnown h

/-- What a path policy passes over makes no difference to the settings. -/
theorem ofDocument_withoutStrays (document : Document) :
    ofDocument (withoutStrays document) = ofDocument document := by
  refine Schema.read_changeAt .toml (fun field hfield hname value settings => ?_) document
  obtain rfl | rfl : field = .free "logging" (LogSettings.schema.read .toml) _ ∨
      field = .free "agent" (AgentSettings.schema.read .toml) _ := by
    simpa [schema] using hfield
  · exact absurd hname (by decide)
  · refine congrArg (Functor.map _) (Schema.read_changeAt .toml ?_ value)
    intro field hfield hname value settings
    obtain rfl | rfl : field = .free "debuglog" Reader.boolean _ ∨
        field = .free "path_policy" PathPolicy.ofDocument _ := by
      simpa [AgentSettings.schema] using hfield
    · exact absurd hname (by decide)
    · exact congrArg (Functor.map _) (PathPolicy.ofDocument_onlyKnown value)

/-- Settings that could be read have no unknown keys in the tables that are records. -/
theorem not_hasUnknown_of_ofDocument {document : Document} {settings : Settings}
    (h : ofDocument document = .ok settings) :
    ¬ document.HasUnknown [] schema.names ∧
      ¬ document.HasUnknown ["logging"] LogSettings.schema.names ∧
      ¬ document.HasUnknown ["agent"] AgentSettings.schema.names := by
  refine ⟨Schema.not_hasUnknown_of_read h, fun hlog => ?_, fun hagent => ?_⟩
  · obtain ⟨value, hunder, hunknown⟩ := hasUnknown_cons.mp hlog
    obtain ⟨log, hlog⟩ := Schema.read_below (by rfl) h hunder
    exact Schema.not_hasUnknown_of_read hlog hunknown
  · obtain ⟨value, hunder, hunknown⟩ := hasUnknown_cons.mp hagent
    obtain ⟨agent, hagent⟩ := Schema.read_below (by rfl) h hunder
    exact Schema.not_hasUnknown_of_read hagent hunknown

/-- **Unknown keys.**  A text that is well-formed is refused when the document or its table for the
log or the agent has a key that names no field, whatever else it has.  Under a path policy unknown keys
are passed over: the text means what it means without them, settings or a fault. -/
theorem ofText_of_hasUnknown {text : String} {document : Document}
    (h : Toml.read? text = some document) :
    (document.HasUnknown [] schema.names ∨ document.HasUnknown ["logging"] LogSettings.schema.names ∨
        document.HasUnknown ["agent"] AgentSettings.schema.names →
      ∃ fault, ofText text = .error (.malformed fault)) ∧
    ofText text = (ofDocument (withoutStrays document)).mapError .malformed ∧
    ¬ (withoutStrays document).HasUnknown ["agent", "path_policy"] PathPolicy.keys := by
  have hread : ofText text = (ofDocument document).mapError .malformed := by rw [ofText, h]
  refine ⟨fun hunknown => ?_, ?_, not_hasUnknown_withoutStrays document⟩
  · rcases hsettings : ofDocument document with fault | settings
    · rw [hread, hsettings]
      exact ⟨fault, rfl⟩
    · obtain ⟨htop, hlog, hagent⟩ := not_hasUnknown_of_ofDocument hsettings
      rcases hunknown with hunknown | hunknown | hunknown
      · exact absurd hunknown htop
      · exact absurd hunknown hlog
      · exact absurd hunknown hagent
  · rw [hread, ofDocument_withoutStrays]

/-- A root that is spelled wrong is passed over. -/
theorem ofText_of_hasUnknown_misspelled :
    let text := "[agent]\npath_policy = \x7b kind = \"absolute\", rot = \"/work\" \x7d\n"
    ∃ document, Toml.read? text = some document ∧
      document.HasUnknown ["agent", "path_policy"] PathPolicy.keys ∧
      ¬ (withoutStrays document).HasUnknown ["agent", "path_policy"] PathPolicy.keys ∧
      ofText text = .ok {} := by
  intro text
  have hunknown : (Toml.read? text).any
      (fun document => document.HasUnknown ["agent", "path_policy"] PathPolicy.keys) = true := by
    decide +kernel
  obtain ⟨document, hread, hunknown⟩ := (Option.any_eq_true _ _).mp hunknown
  obtain ⟨-, -, hnone⟩ := ofText_of_hasUnknown hread
  exact ⟨document, hread, of_decide_eq_true hunknown, hnone, by decide +kernel⟩

end Settings

end ClassOrigin
