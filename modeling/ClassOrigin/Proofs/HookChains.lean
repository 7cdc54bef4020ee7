/-
Chains of load hooks.

A chain hands the bytes of a class from hook to hook, so it can be cut anywhere.  The weaving hook
leaves alone what it has woven, and what it could not weave it cannot weave the next time either:

* **`defineClass_append`** — a chain defines and says what its parts do one after the other;
* **`defineClass_sourceLocation_twice`** — a second weaving hook with the same policy is idle;
* **`defineClass_repeated`** — so installing the weaving hook again, in any mixture of verbose and
  silent hooks, changes nothing of what is defined.
-/
import ClassOrigin.Proofs.Loading

namespace ClassOrigin

open ClassFile

/-! ### Cutting a chain -/

/-- What comes before a chain is handed through: its bytes are what the chain starts from, and its
messages stand in front. -/
theorem foldl_eq_defineClass (hooks : List LoadHook) (event : LoadEvent) (bytes : Bytes)
    (log : List LogEntry) :
    hooks.foldl
        (fun (bytes, log) hook =>
          let (replaced, entries) := hook { event with bytes }
          (replaced.getD bytes, log ++ entries))
        (bytes, log) =
      ((defineClass hooks { event with bytes }).1,
        log ++ (defineClass hooks { event with bytes }).2) := by
  induction hooks generalizing bytes log with
  | nil => simp [defineClass]
  | cons hook hooks ih =>
    simp only [defineClass, List.foldl_cons, List.nil_append]
    rw [ih, ih _ (hook { event with bytes }).2, List.append_assoc]

/-- A chain runs its first part, and the rest on what that defines. -/
theorem defineClass_append (first second : List LoadHook) (event : LoadEvent) :
    defineClass (first ++ second) event =
      ((defineClass second { event with bytes := (defineClass first event).1 }).1,
        (defineClass first event).2 ++
          (defineClass second { event with bytes := (defineClass first event).1 }).2) := by
  rw [defineClass, List.foldl_append]
  exact foldl_eq_defineClass second event _ _

/-! ### The weaving hook in a chain -/

variable (policy : PathPolicy) (verbose other : Bool) (event : LoadEvent)

namespace LoadHook

/-- Verbose mode has no part in what is defined. -/
theorem fst_sourceLocation :
    (sourceLocation policy verbose event).1 = (sourceLocation policy other event).1 :=
  Option.ext fun out =>
    ((follows_sourceLocation policy verbose event).replaces_iff out).trans
      ((follows_sourceLocation policy other event).replaces_iff out).symm

/-- The hook has nothing to do for a class that it has woven. -/
theorem sourceLocation_of_woven {out : Bytes}
    (h : (sourceLocation policy verbose event).1 = some out) :
    (sourceLocation policy other { event with bytes := out }).1 = none := by
  obtain ⟨-, hweave⟩ := (follows_sourceLocation policy verbose event).fst_eq_some_iff.mp h
  obtain ⟨path, c, woven, update, hpath, hparse, hrecords, -, hwoven⟩ := records_of_weave hweave
  have hidle : weave policy (.ofUrl event.codeSource) out = .ok none :=
    weave_eq_none.mpr ⟨path, woven, hpath, hwoven, hrecords.isRecorded (parse_eq_ok.mp hparse).1⟩
  refine Option.eq_none_iff_forall_ne_some.mpr fun again hagain => ?_
  obtain ⟨-, hagain⟩ :=
    (follows_sourceLocation policy other { event with bytes := out }).fst_eq_some_iff.mp hagain
  cases hidle.symm.trans hagain

end LoadHook

/-- A second weaving hook defines what the first one left. -/
theorem defineClass_sourceLocation_twice :
    (defineClass [LoadHook.sourceLocation policy other]
        { event with bytes := (defineClass [LoadHook.sourceLocation policy verbose] event).1 }).1 =
      (defineClass [LoadHook.sourceLocation policy verbose] event).1 := by
  rw [defineClass_singleton, defineClass_singleton]
  rcases hfirst : (LoadHook.sourceLocation policy verbose event).1 with _ | out
  · -- The class was left as it is, and the second hook sees it with the same eyes.
    rw [LoadHook.fst_sourceLocation policy verbose other] at hfirst
    exact congrArg (Option.getD · event.bytes) hfirst
  · exact congrArg (Option.getD · out) (LoadHook.sourceLocation_of_woven policy verbose other event
      hfirst)

/-- So is every further one. -/
theorem defineClass_map_sourceLocation (flags : List Bool) :
    (defineClass ((verbose :: flags).map (LoadHook.sourceLocation policy)) event).1 =
      (defineClass [LoadHook.sourceLocation policy verbose] event).1 := by
  induction flags using List.reverseRecOn with
  | nil => rfl
  | append_singleton flags flag ih =>
    rw [← List.cons_append, List.map_append, defineClass_append, ih]
    exact defineClass_sourceLocation_twice policy verbose flag event

/-- **Installing the weaving hook again is harmless, and chains compose.**  One or more weaving
hooks with the same policy, verbose or not, define for every class the bytes that a single one
does.  And of any two lists of hooks, whatever the hooks do, the one behind the other defines what
the second makes of the class with the bytes that the first defines, and says what both say. -/
theorem defineClass_repeated (flags : List Bool) (first second : List LoadHook) :
    (defineClass ((verbose :: flags).map (LoadHook.sourceLocation policy)) event).1 =
        (defineClass [LoadHook.sourceLocation policy other] event).1 ∧
      let before := defineClass first event
      let after := defineClass second { event with bytes := before.1 }
      defineClass (first ++ second) event = (after.1, before.2 ++ after.2) := by
  refine ⟨?_, defineClass_append first second event⟩
  rw [defineClass_map_sourceLocation, defineClass_singleton, defineClass_singleton,
    LoadHook.fst_sourceLocation policy verbose other]

end ClassOrigin
