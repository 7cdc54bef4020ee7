/-
Registering describers.

A registry takes describers one after the other and turns away those whose name it lists already.
Whoever is turned away leaves no trace, so after any number of calls a registry holds the first
describer of each name, in the order of the calls:

* **`offer`** — a call with its answer and the registry that it leaves, and **`offerAll`** — the
  registry after any number of calls;
* **`offer_of_mem`**, **`offer_of_notMem`** — what a call does is decided by the names;
* **`nodup_ids_offerAll`** — names stay different, by induction from one call;
* **`describers_offerAll`** — what is held is what is left of the describers offered when those are
  dropped that repeat a name;
* **`fst_describe`**, **`snd_describe`** — a description is that of each describer after the other;
* **`offerAll_complete`** — all of this for the registries that a run can start from.
-/
import ClassOrigin.Project.Describer
import Mathlib.Data.List.Nodup

namespace ClassOrigin.DescriberRegistry

variable {registry : DescriberRegistry} {describer : Describer} {offered : List Describer}

/-! ### Calls -/

/-- A call that registers a describer: its answer, and the registry that it leaves.  Where it is an
error there is no new registry, and the caller goes on with the one that there was. -/
def offer (registry : DescriberRegistry) (describer : Describer) :
    Except RegistryFault Unit × DescriberRegistry :=
  match registry.register describer with
  | .ok grown => (.ok (), grown)
  | .error fault => (.error fault, registry)

/-- The registry after calls made one after the other, whatever they answer. -/
def offerAll (registry : DescriberRegistry) : List Describer → DescriberRegistry
  | [] => registry
  | describer :: later => (registry.offer describer).2.offerAll later

theorem offer_of_mem (h : describer.id ∈ registry.ids) :
    registry.offer describer = (.error (.duplicateId describer.id), registry) := by
  rw [offer, register, if_pos (List.contains_iff_mem.mpr h)]

theorem offer_of_notMem (h : describer.id ∉ registry.ids) :
    registry.offer describer = (.ok (), ⟨registry.describers ++ [describer]⟩) := by
  rw [offer, register, if_neg (mt List.contains_iff_mem.mp h)]

/-- A call succeeds or is turned away, and it is the list of names that decides. -/
theorem offer_fst_iff (registry : DescriberRegistry) (describer : Describer) :
    ((registry.offer describer).1 = .error (.duplicateId describer.id) ↔
        describer.id ∈ registry.ids) ∧
      ((registry.offer describer).1 = .ok () ↔ describer.id ∉ registry.ids) := by
  by_cases h : describer.id ∈ registry.ids
  · rw [offer_of_mem h]
    exact ⟨iff_of_true rfl h, iff_of_false nofun (not_not_intro h)⟩
  · rw [offer_of_notMem h]
    exact ⟨iff_of_false nofun h, iff_of_true rfl h⟩

/-! ### Names stay different -/

theorem nodup_ids_offer (h : registry.ids.Nodup) (describer : Describer) :
    (registry.offer describer).2.ids.Nodup := by
  by_cases hmem : describer.id ∈ registry.ids
  · rwa [offer_of_mem hmem]
  · rw [offer_of_notMem hmem, ids, List.map_append]
    refine List.nodup_append.mpr ⟨h, List.nodup_singleton _, ?_⟩
    rintro name hname _ hlast rfl
    exact hmem (List.mem_singleton.mp hlast ▸ hname)

theorem nodup_ids_offerAll (h : registry.ids.Nodup) (offered : List Describer) :
    (registry.offerAll offered).ids.Nodup := by
  induction offered generalizing registry with
  | nil => exact h
  | cons describer later ih => exact ih (nodup_ids_offer h describer)

/-! ### What is held -/

/-- Whether two describers go by one name. -/
def sameName (d e : Describer) : Bool :=
  d.id == e.id

/-- Describers without those that repeat the name of an earlier one. -/
def firsts (describers : List Describer) : List Describer :=
  describers.eraseDupsBy sameName

theorem any_sameName : registry.describers.any (sameName describer) = true ↔
    describer.id ∈ registry.ids := by
  rw [ids, List.any_eq_true, List.mem_map]
  exact exists_congr fun d => and_congr_right fun _ => beq_iff_eq.trans eq_comm

/-- By induction on the calls: on its way through the describers, the registry is the list of those
that are kept, which the library's function carries along in reverse. -/
theorem describers_offerAll (registry : DescriberRegistry) (offered : List Describer) :
    (registry.offerAll offered).describers =
      List.eraseDupsBy.loop sameName offered registry.describers.reverse := by
  induction offered generalizing registry with
  | nil => exact registry.describers.reverse_reverse.symm
  | cons describer later ih =>
    rw [offerAll, ih, List.eraseDupsBy.loop, List.any_reverse]
    rcases hany : registry.describers.any (sameName describer)
    · have hnew : describer.id ∉ registry.ids := by simp [← any_sameName, hany]
      rw [offer_of_notMem hnew, List.reverse_append]
      rfl
    · rw [offer_of_mem (any_sameName.mp hany)]

/-- Names are dropped where describers are. -/
theorem map_id_loop (describers kept : List Describer) :
    (List.eraseDupsBy.loop sameName describers kept).map Describer.id =
      List.eraseDupsBy.loop (· == ·) (describers.map Describer.id) (kept.map Describer.id) := by
  induction describers generalizing kept with
  | nil => exact List.map_reverse
  | cons describer later ih =>
    have hany : (kept.map Describer.id).any (describer.id == ·) =
        kept.any (sameName describer) := List.any_map
    rw [List.map_cons, List.eraseDupsBy.loop, List.eraseDupsBy.loop, hany]
    rcases kept.any (sameName describer)
    · exact ih (describer :: kept)
    · exact ih kept

theorem map_id_firsts (describers : List Describer) :
    (firsts describers).map Describer.id = (describers.map Describer.id).eraseDups :=
  map_id_loop describers []

/-! ### Descriptions -/

/-- One that breaks down adds no directives, and a warning to what it had said. -/
theorem contribution_eq (project : Project) (d : Describer) :
    contribution project d =
      ((d.describe project).directives.getD [],
        (d.describe project).log ++
          if (d.describe project).directives = none then [brokeDown d project] else []) := by
  rw [contribution]
  rcases (d.describe project).directives with _ | directives
  · rfl
  · exact congrArg (Prod.mk directives) (List.append_nil _).symm

/-- The directives of each describer in its turn. -/
theorem fst_describe (registry : DescriberRegistry) (project : Project) :
    (registry.describe project).1 =
      registry.describers.flatMap fun d => (d.describe project).directives.getD [] := by
  simp only [describe, List.flatMap_map, contribution_eq]

/-- The messages of each describer in its turn. -/
theorem snd_describe (registry : DescriberRegistry) (project : Project) :
    (registry.describe project).2 = registry.describers.flatMap fun d =>
      (d.describe project).log ++
        if (d.describe project).directives = none then [brokeDown d project] else [] := by
  simp only [describe, List.flatMap_map, contribution_eq]

/-- **Registries.**  A run of calls starts from the empty registry or from the one with the standard
describer.  Whatever is offered, the names that are listed in the end are the first ones of all that
were offered, in that order, and no two are the same.  The next call is turned away for its name
exactly when that is listed, and then it leaves the registry as it is.  A description has the
directives of the describers that are held, one after the other; one that breaks down adds none and
takes none away, and leaves one warning. -/
theorem offerAll_complete {start : DescriberRegistry} (hstart : start = empty ∨ start = standard)
    (offered : List Describer) :
    let reached := start.offerAll offered
    reached.describers = firsts (start.describers ++ offered) ∧
      reached.ids = (start.ids ++ offered.map Describer.id).eraseDups ∧ reached.ids.Nodup ∧
      (∀ describer,
        ((reached.offer describer).1 = .error (.duplicateId describer.id) ↔
          describer.id ∈ reached.ids) ∧
        ((reached.offer describer).1 = .ok () ↔ describer.id ∉ reached.ids) ∧
        (describer.id ∈ reached.ids → (reached.offer describer).2 = reached)) ∧
      ∀ project,
        (reached.describe project).1 =
          (firsts (start.describers ++ offered)).flatMap
            (fun d => (d.describe project).directives.getD []) ∧
        (∀ front broken back, reached.describers = front ++ broken :: back →
          (broken.describe project).directives = none →
          (reached.describe project).1 = (describe ⟨front ++ back⟩ project).1) ∧
        (reached.describe project).2 =
          (firsts (start.describers ++ offered)).flatMap
            (fun d => (d.describe project).log ++
              if (d.describe project).directives = none then [brokeDown d project] else []) := by
  intro reached
  -- Neither registry repeats a name, so nothing is dropped before the first call.
  have hheld : reached.describers = firsts (start.describers ++ offered) := by
    refine (describers_offerAll start offered).trans ?_
    rcases hstart with rfl | rfl
    · rfl
    · rfl
  have hnodup : start.ids.Nodup := by
    rcases hstart with rfl | rfl
    · exact List.nodup_nil
    · exact List.nodup_singleton _
  refine ⟨hheld, ?_, nodup_ids_offerAll hnodup offered, fun describer => ?_,
    fun project => ⟨?_, ?_, ?_⟩⟩
  · rw [ids, hheld, map_id_firsts, List.map_append]
    rfl
  · obtain ⟨herror, hok⟩ := offer_fst_iff reached describer
    exact ⟨herror, hok, fun h => by rw [offer_of_mem h]⟩
  · rw [fst_describe, hheld]
  · intro front broken back hsplit hbroken
    rw [fst_describe, fst_describe, hsplit]
    simp [hbroken]
  · rw [snd_describe, hheld]

/-- A describer that always gives the same directives, or breaks down. -/
def fixed (id : String) (directives : Option (List SearchDirective)) : Describer :=
  ⟨id, fun _ => ⟨directives, []⟩⟩

/-- Of five calls two are turned away, and one of the describers that are held breaks down. -/
theorem offerAll_complete_crowded :
    let roots (name : String) := some [SearchDirective.projectFallback name []]
    let reached := standard.offerAll
      [fixed "a" (roots "first"), fixed "default" (roots "second"), fixed "b" none,
        fixed "a" (roots "third"), fixed "c" (roots "fourth")]
    let project : Project := ⟨"app", false, [], [], []⟩
    reached.ids = ["default", "a", "b", "c"] ∧
      (reached.offer (fixed "b" none)).1 = .error (.duplicateId "b") ∧
      (reached.describe project).1 =
        [.projectFallback "first" [], .projectFallback "fourth" []] := by
  intro roots reached project
  obtain ⟨-, hids, -, hoffer, hdescribe⟩ := offerAll_complete (.inr rfl)
    [fixed "a" (roots "first"), fixed "default" (roots "second"), fixed "b" none,
      fixed "a" (roots "third"), fixed "c" (roots "fourth")]
  have hlisted : reached.ids = ["default", "a", "b", "c"] := hids.trans (by decide +kernel)
  refine ⟨hlisted, (hoffer _).1.mpr ?_, (hdescribe project).1.trans rfl⟩
  exact hlisted ▸ (by decide : "b" ∈ ["default", "a", "b", "c"])

end ClassOrigin.DescriberRegistry
