/-
Filters in layers.

The items of the environment are put over the configured level by writing one list behind the
other and reading the whole.  Reading a list puts its rules into place one by one, and a filter is
determined by the thresholds that it has for targets, so this comes to laying one filter over
another, as long as both lists can be read:

* **`threshold?_insert`** — what placing a rule does to the thresholds;
* **`Ordered.ext`** — rules in order are determined by the thresholds;
* **`threshold?_overlay`** — the filter on top decides wherever it has a rule;
* **`parse?_append`** — two lists of items behind each other are read as one filter over the other;
* **`layered_eq`**, **`layered_eq_overlay_iff`** — what the environment does to a configured level,
  and that it does nothing where that level cannot be read.
-/
import Mathlib.Data.List.Induction
import Mathlib.Data.List.Sort
import Mathlib.Data.Prod.Lex
import Mathlib.Order.WithBot
import ClassOrigin.Log.Filter
import ClassOrigin.Proofs.Splitting

namespace ClassOrigin

/-! ### The order of rules -/

namespace LogRule

/-- What rules are in order by, from the greatest on: the size of the target, then the target. -/
def rank (rule : LogRule) : WithBot (ℕ ×ₗ String) :=
  match rule.target with
  | none => ⊥
  | some target => ↑(toLex (target.utf8ByteSize, target))

variable {a b : LogRule}

theorem rank_inj : a.rank = b.rank ↔ a.target = b.target := by
  rw [rank, rank]
  rcases a.target with _ | s
  · rcases b.target with _ | t
    · simp
    · simp
  · rcases b.target with _ | t
    · simp
    · simp only [WithBot.coe_inj, toLex_inj, Prod.mk.injEq, Option.some.injEq]
      constructor
      · rintro ⟨-, rfl⟩
        rfl
      · rintro rfl
        exact ⟨rfl, rfl⟩

theorem precedes_iff : a.precedes b = true ↔ b.rank < a.rank := by
  rw [precedes, rank, rank]
  rcases a.target with _ | s
  · rcases b.target with _ | t
    · simp
    · simp
  · rcases b.target with _ | t
    · simp
    · simp [Prod.Lex.toLex_lt_toLex, @eq_comm _ s.utf8ByteSize]

end LogRule

namespace LogFilter

variable {filter base top : LogFilter} {rule : LogRule} {rules : List LogRule}
  {target : Option String}

/-- Each rule stands before those that it precedes, and no two have the same target. -/
def Ordered (filter : LogFilter) : Prop :=
  filter.rules.Pairwise fun a b => b.rank < a.rank

/-! ### Placing a rule -/

theorem find?_place :
    (place rule rules).find? (fun r => r.target = target) =
      if rule.target = target then some rule else rules.find? fun r => r.target = target := by
  induction rules with
  | nil =>
    rw [place, List.find?_cons]
    by_cases h : rule.target = target
    · simp [h]
    · simp [h]
  | cons first rest ih =>
    rw [place]
    split
    · -- A rule of the same target gives up its place.
      rename_i hsame
      by_cases h : rule.target = target
      · simp [h]
      · simp [h, hsame]
    · rename_i hother
      split
      · rw [List.find?_cons, List.find?_cons, ih]
        by_cases h : rule.target = target
        · simp [h, show first.target ≠ target from fun heq => hother (heq.trans h.symm)]
        · simp [h]
      · by_cases h : rule.target = target
        · simp [h]
        · simp [h]

theorem mem_place {r : LogRule} (h : r ∈ place rule rules) : r = rule ∨ r ∈ rules := by
  induction rules with
  | nil => exact .inl (List.mem_singleton.mp h)
  | cons first rest ih =>
    rw [place] at h
    split at h
    · exact (List.mem_cons.mp h).imp_right (List.mem_cons_of_mem first)
    · split at h
      · rcases List.mem_cons.mp h with rfl | hrest
        · exact .inr List.mem_cons_self
        · exact (ih hrest).imp_right (List.mem_cons_of_mem first)
      · exact List.mem_cons.mp h

theorem threshold?_insert :
    (filter.insert rule).threshold? target =
      if rule.target = target then some rule.threshold else filter.threshold? target := by
  rw [threshold?, insert, find?_place]
  by_cases h : rule.target = target
  · simp [h]
  · simp [h, threshold?]

theorem pairwise_place (h : rules.Pairwise fun a b => b.rank < a.rank) :
    (place rule rules).Pairwise fun a b => b.rank < a.rank := by
  induction rules with
  | nil => exact List.pairwise_singleton _ _
  | cons first rest ih =>
    rw [List.pairwise_cons] at h
    obtain ⟨hfirst, hrest⟩ := h
    rw [place]
    split
    · rename_i hsame
      rw [List.pairwise_cons, ← LogRule.rank_inj.mpr hsame]
      exact ⟨hfirst, hrest⟩
    · rename_i hother
      split
      · rename_i hprecedes
        rw [List.pairwise_cons]
        refine ⟨fun r hr => ?_, ih hrest⟩
        rcases mem_place hr with rfl | hmem
        · exact LogRule.precedes_iff.mp hprecedes
        · exact hfirst r hmem
      · -- The first rule neither precedes the new one nor has its target.
        rename_i hnot
        have hlt : first.rank < rule.rank := by
          rw [LogRule.precedes_iff, not_lt] at hnot
          exact lt_of_le_of_ne hnot fun heq => hother (LogRule.rank_inj.mp heq)
        rw [List.pairwise_cons, List.pairwise_cons, List.forall_mem_cons]
        exact ⟨⟨hlt, fun r hr => (hfirst r hr).trans hlt⟩, hfirst, hrest⟩

theorem ordered_empty : empty.Ordered :=
  List.Pairwise.nil

theorem Ordered.insert (h : filter.Ordered) (rule : LogRule) : (filter.insert rule).Ordered :=
  pairwise_place h

theorem ordered_ofRules (rules : List LogRule) : (ofRules rules).Ordered := by
  induction rules using List.reverseRecOn with
  | nil => exact ordered_empty
  | append_singleton rules rule ih =>
    rw [ofRules, List.foldl_append]
    exact ih.insert rule

/-! ### Thresholds -/

/-- Where rules are in order, none hides another. -/
theorem Ordered.mem_iff (h : filter.Ordered) :
    rule ∈ filter.rules ↔ filter.threshold? rule.target = some rule.threshold := by
  rcases filter with ⟨rules⟩
  show rule ∈ rules ↔ (rules.find? fun r => r.target = rule.target).map _ = _
  induction rules with
  | nil => simp
  | cons first rest ih =>
    obtain ⟨hfirst, hrest⟩ := List.pairwise_cons.mp h
    rw [List.mem_cons, List.find?_cons]
    by_cases hsame : first.target = rule.target
    · have hnot : rule ∉ rest := fun hmem =>
        absurd (hfirst rule hmem) (by rw [LogRule.rank_inj.mpr hsame]; exact lt_irrefl _)
      simp only [hsame, hnot, or_false, decide_true, Option.map_some, Option.some.injEq]
      constructor
      · rintro rfl
        rfl
      · intro hthreshold
        rcases rule with ⟨target, threshold⟩
        rcases first with ⟨target', threshold'⟩
        cases hsame
        cases hthreshold
        rfl
    · have hne : rule ≠ first := fun heq => hsame (by rw [heq])
      simp only [hsame, hne, false_or, decide_false, ih hrest]

/-- Rules in order are determined by the thresholds that they give. -/
theorem Ordered.ext (h : base.Ordered) (h' : top.Ordered)
    (hsame : ∀ target, base.threshold? target = top.threshold? target) : base = top := by
  have : Std.Antisymm fun a b : LogRule => b.rank < a.rank :=
    ⟨fun a b hab hba => absurd (hab.trans hba) (lt_irrefl _)⟩
  have : Std.Irrefl fun a b : LogRule => b.rank < a.rank :=
    ⟨fun a => lt_irrefl _⟩
  have hrules : base.rules = top.rules := by
    refine List.Pairwise.eq_of_mem_iff h h' fun rule => ?_
    rw [h.mem_iff, h'.mem_iff, hsame]
  rcases base with ⟨rules⟩
  exact congrArg LogFilter.mk hrules

/-! ### Overlays -/

/-- The filter `base` with the rules of `top` over its own. -/
def overlay (base top : LogFilter) : LogFilter :=
  ⟨top.rules.foldr place base.rules⟩

/-- What the filter on top has a rule for, that rule decides. -/
theorem threshold?_overlay :
    (base.overlay top).threshold? target = (top.threshold? target).or (base.threshold? target) := by
  rw [overlay, threshold?, threshold?]
  induction top.rules with
  | nil => rfl
  | cons first rest ih =>
    rw [List.foldr_cons, find?_place, List.find?_cons]
    by_cases h : first.target = target
    · simp [h]
    · simpa [h] using ih

theorem Ordered.overlay (h : base.Ordered) (top : LogFilter) : (base.overlay top).Ordered := by
  rw [Ordered, LogFilter.overlay]
  induction top.rules with
  | nil => exact h
  | cons first rest ih => exact pairwise_place ih

/-- A rule can be added to the filter on top or to the whole. -/
theorem overlay_insert (h : base.Ordered) :
    base.overlay (top.insert rule) = (base.overlay top).insert rule := by
  refine (h.overlay _).ext ((h.overlay top).insert rule) fun target => ?_
  rw [threshold?_overlay, threshold?_insert, threshold?_insert, threshold?_overlay]
  by_cases htarget : rule.target = target
  · simp [htarget]
  · simp [htarget]

/-- Rules behind others make a filter over the filter of the others. -/
theorem ofRules_append (first second : List LogRule) :
    ofRules (first ++ second) = (ofRules first).overlay (ofRules second) := by
  induction second using List.reverseRecOn with
  | nil => simp [ofRules, overlay, empty]
  | append_singleton second rule ih =>
    have hlast : ∀ rules, ofRules (rules ++ [rule]) = (ofRules rules).insert rule := by
      simp [ofRules]
    rw [← List.append_assoc, hlast, hlast, ih, overlay_insert (ordered_ofRules first)]

/-! ### Lists of items -/

theorem rules?_append (first second : String) :
    rules? (first ++ "," ++ second) =
      (rules? first).bind fun rules => (rules? second).map fun more => rules ++ more := by
  have hcomma : "," = String.ofList [','] := rfl
  rw [rules?, rules?, rules?, hcomma, splitOn_append, List.filter_append, List.mapM_append]
  rcases ((first.splitOn _).filter _).mapM LogRule.parse? with _ | rules
  · rfl
  · rcases ((second.splitOn _).filter _).mapM LogRule.parse? with _ | more
    · rfl
    · rfl

/-- A list of items behind another is read as a filter over the other's. -/
theorem parse?_append (first second : String) :
    parse? (first ++ "," ++ second) =
      (parse? first).bind fun base => (parse? second).map fun top => base.overlay top := by
  rw [parse?, parse?, parse?, rules?_append]
  rcases rules? first with _ | rules
  · rfl
  · rcases rules? second with _ | more
    · rfl
    · exact congrArg some (ofRules_append rules more)

/-- Reading a list on its characters, which can be evaluated. -/
theorem parse?_eq (text : String) :
    parse? text =
      ((((text.toList.splitOn ',').map String.ofList).filter fun item => ! item.isEmpty).mapM
        LogRule.parse?).map ofRules := by
  have hcomma : "," = String.ofList [','] := rfl
  rw [parse?, rules?, hcomma, splitOn_singleton]

theorem parse?_empty : parse? "" = some empty := by
  rw [parse?_eq]
  decide +kernel

theorem ordered_of_parse? {text : String} (h : parse? text = some filter) : filter.Ordered := by
  obtain ⟨rules, -, rfl⟩ := Option.map_eq_some_iff.mp h
  exact ordered_ofRules rules

/-! ### The environment over the configured level -/

/-- The filter of the environment's items, which is empty where there are none or they cannot be
read.  Blanks around the list do not count. -/
def ofEnvironment (environment : Option String) : LogFilter :=
  ((environment.map Blank.trim).bind parse?).getD empty

theorem ordered_ofEnvironment (environment : Option String) :
    (ofEnvironment environment).Ordered := by
  rw [ofEnvironment]
  rcases h : (environment.map Blank.trim).bind parse? with _ | top
  · exact ordered_empty
  · obtain ⟨items, -, hitems⟩ := Option.bind_eq_some_iff.mp h
    exact ordered_of_parse? hitems

/-- The environment goes over a level that can be read, and nothing goes over one that cannot. -/
theorem layered_eq (level : String) (environment : Option String) :
    layered level environment =
      match parse? (directives level) with
      | some base => base.overlay (ofEnvironment environment)
      | none => ofRules [⟨none, some .info⟩] := by
  rw [layered, ofEnvironment, configured]
  rcases environment.map Blank.trim with _ | items
  · rcases parse? (directives level) with _ | base
    · rfl
    · rfl
  · simp only [Option.bind_some]
    split
    · contradiction
    · -- A blank list has no items.
      rename_i hblank
      cases hblank
      rw [parse?_empty]
      rcases parse? (directives level) with _ | base
      · rfl
      · rfl
    · rename_i heq
      cases heq
      rw [parse?_append]
      rcases parse? (directives level) with _ | base
      · rfl
      · rcases parse? items with _ | top
        · rfl
        · rfl

theorem threshold?_eq_some {threshold : LogThreshold}
    (h : filter.threshold? target = some threshold) :
    ∃ r ∈ filter.rules, r.target = target ∧ r.threshold = threshold := by
  obtain ⟨r, hr, hthreshold⟩ := Option.map_eq_some_iff.mp h
  exact ⟨r, List.mem_of_find?_eq_some hr, by simpa using List.find?_some hr, hthreshold⟩

/-- Over a filter of one rule, another changes nothing when it has no other rule. -/
theorem overlay_singleton_eq_iff (h : top.Ordered) :
    (ofRules [rule]).overlay top = ofRules [rule] ↔ ∀ r ∈ top.rules, r = rule := by
  constructor
  · intro heq r hr
    have hmem : r ∈ (ofRules [rule]).rules := by
      rw [(ordered_ofRules [rule]).mem_iff, ← heq, threshold?_overlay, h.mem_iff.mp hr]
      rfl
    exact List.mem_singleton.mp hmem
  · intro hall
    refine (Ordered.overlay (ordered_ofRules _) top).ext (ordered_ofRules _) fun target => ?_
    rw [threshold?_overlay]
    rcases htop : top.threshold? target with _ | threshold
    · rfl
    · obtain ⟨r, hr, rfl, rfl⟩ := threshold?_eq_some htop
      have hmem : r ∈ (ofRules [rule]).rules := List.mem_singleton.mpr (hall r hr)
      exact ((ordered_ofRules [rule]).mem_iff.mp hmem).symm

/-- **The environment over the configured level.**  What the environment has a rule for, that rule
decides, provided that the configured level can be read.  Where it cannot, `info` stands in for it,
and the environment is left out as well, which goes unnoticed only if it asks for nothing else. -/
theorem layered_eq_overlay_iff (level : String) (environment : Option String) :
    (∀ target, ((configured level).overlay (ofEnvironment environment)).threshold? target =
        ((ofEnvironment environment).threshold? target).or ((configured level).threshold? target)) ∧
      (parse? (directives level) = none →
        layered level environment = ofRules [⟨none, some .info⟩]) ∧
      (layered level environment = (configured level).overlay (ofEnvironment environment) ↔
        parse? (directives level) ≠ none ∨
          ∀ rule ∈ (ofEnvironment environment).rules, rule = ⟨none, some .info⟩) := by
  refine ⟨fun target => threshold?_overlay, fun h => ?_, ?_⟩
  · rw [layered_eq, h]
  · rw [layered_eq, configured]
    rcases parse? (directives level) with _ | base
    · simpa [eq_comm] using overlay_singleton_eq_iff (ordered_ofEnvironment environment)
    · simp

/-- A level that cannot be read takes the environment down with it. -/
theorem layered_eq_overlay_iff_unreadable :
    parse? (directives "a=b=c") = none ∧
      ofEnvironment (some "warn") = ofRules [⟨none, some .warn⟩] ∧
      layered "a=b=c" (some "warn") = ofRules [⟨none, some .info⟩] ∧
      layered "a=b=c" (some "warn") ≠
        (configured "a=b=c").overlay (ofEnvironment (some "warn")) := by
  have hlevel : parse? (directives "a=b=c") = none := by
    rw [parse?_eq]
    decide +kernel
  have hitems : (Option.map Blank.trim (some "warn")).bind parse? =
      some (ofRules [⟨none, some .warn⟩]) := by
    have htrim : Blank.trim "warn" = "warn" := by decide +kernel
    rw [Option.map_some, Option.bind_some, htrim, parse?_eq]
    decide +kernel
  have henvironment : ofEnvironment (some "warn") = ofRules [⟨none, some .warn⟩] := by
    rw [ofEnvironment, hitems]
    rfl
  obtain ⟨-, hinfo, hoverlay⟩ := layered_eq_overlay_iff "a=b=c" (some "warn")
  refine ⟨hlevel, henvironment, hinfo hlevel, fun heq => ?_⟩
  rcases hoverlay.mp heq with hread | hall
  · exact hread hlevel
  · rw [henvironment] at hall
    exact absurd (hall _ (List.mem_singleton.mpr rfl)) (by decide)

end LogFilter

end ClassOrigin
