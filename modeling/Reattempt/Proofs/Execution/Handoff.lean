import Mathlib.Tactic
import Reattempt.Execution.Handoff
import Reattempt.Proofs.Execution.Trace

/-!
# Which arguments reach an operation

A run calls its operation at least once, and always with the same arguments. Whether these are the
arguments that the caller gave depends on the names of the keywords: the layers between the caller
and the operation refuse some names, and others they take for themselves. The arguments arrive
unchanged exactly if no keyword has one of these names (`call_forwards_iff`).
-/

set_option autoImplicit false

namespace Reattempt

/-! ## Every attempt of a run -/

def Action.call? : Action → Option Arguments
  | .attempt _ arguments => some arguments
  | _ => none

def Execution.calls {ρ κ : Type} (execution : Execution ρ κ) : List Arguments :=
  execution.actions.filterMap Action.call?

namespace RunSetup

variable {ρ κ : Type} [RandomSource ρ] [Clock κ]

/-- A turn makes one call, unless it ends before the attempt. -/
theorem turn_calls (setup : RunSetup) (started : Binary64) (progress : Progress ρ κ) :
    (setup.turn started progress).actions.filterMap Action.call? =
      match (setup.beforeAttempt progress).1 with
      | .error _ => []
      | .ok () => [setup.arguments] :=
  filterMap_turn (fun _ => rfl) (fun _ _ _ => rfl) (fun _ _ => rfl) (fun _ => rfl) setup started
    progress

/-- Some calls, all with the arguments of the run, and at least one if none was made before. -/
def CallsAfter (setup : RunSetup) (attempts : ℕ) (calls : List Arguments) : Prop :=
  ∃ count, calls = List.replicate count setup.arguments ∧ (attempts = 0 → 0 < count)

theorem turn_callsAfter (setup : RunSetup) (started : Binary64) (progress : Progress ρ κ) :
    setup.CallsAfter progress.attempts
      ((setup.turn started progress).actions.filterMap Action.call?) := by
  have made := turn_calls setup started progress
  cases ready : (setup.beforeAttempt progress).1 with
  | error raised =>
      rw [ready] at made
      refine ⟨0, made, ?_⟩
      intro none
      rw [beforeAttempt, if_pos none] at ready
      cases ready
  | ok told =>
      rw [ready] at made
      exact ⟨1, made, fun _ => Nat.one_pos⟩

theorem runFrom_callsAfter (setup : RunSetup) (started : Binary64) (sleeps : ℕ) :
    ∀ progress : Progress ρ κ,
      setup.CallsAfter progress.attempts (setup.runFrom started sleeps progress).calls := by
  induction sleeps with
  | zero =>
      intro progress
      have first := turn_callsAfter setup started progress
      cases ended : (setup.turn started progress).ended with
      | none =>
          rw [runFrom_refused ended]
          exact first
      | some result =>
          rw [runFrom_ended ended]
          exact first
  | succ sleeps ih =>
      intro progress
      have first := turn_callsAfter setup started progress
      cases ended : (setup.turn started progress).ended with
      | some result =>
          rw [runFrom_ended ended]
          exact first
      | none =>
          obtain ⟨made, now, least⟩ := first
          obtain ⟨more, later, -⟩ := ih (setup.turn started progress).progress
          rw [runFrom_slept ended]
          refine ⟨made + more, ?_, fun none => Nat.add_pos_left (least none) more⟩
          unfold Execution.calls Execution.after at *
          rw [List.filterMap_append, now, later, List.replicate_append_replicate]

/-- A run calls its operation, and always with its arguments. -/
theorem run_calls (setup : RunSetup) (clock : κ) (sleeps : ℕ) (source : ρ) :
    ∃ count, 0 < count ∧
      (setup.run clock sleeps source).calls = List.replicate count setup.arguments := by
  obtain ⟨count, made, least⟩ := runFrom_callsAfter setup (Clock.read clock).1 sleeps
    { clock := (Clock.read clock).2, source := source }
  exact ⟨count, least rfl, made⟩

end RunSetup

/-! ## Names that stay behind -/

namespace Layer

def refused (layer : Layer) : List String := layer.named ++ layer.placed

theorem refusal?_eq_none_iff (layer : Layer) (keyword : String) :
    layer.refusal? keyword = none ↔ keyword ∉ layer.placed := by
  simp [refusal?]

theorem clash?_eq_none_iff (layer : Layer) (keywords : List String) :
    layer.clash? keywords = none ↔ ∀ keyword ∈ keywords, keyword ∉ layer.refused := by
  simp only [refused, List.mem_append, not_or]
  unfold clash?
  cases found : keywords.find? layer.named.contains with
  | some keyword =>
      have listed := List.mem_of_find?_eq_some found
      have named := List.find?_some found
      rw [List.contains_iff_mem] at named
      simp only [reduceCtorEq, false_iff]
      intro clear
      exact (clear keyword listed).1 named
  | none =>
      rw [List.find?_eq_none] at found
      simp only [List.findSome?_eq_none_iff, refusal?_eq_none_iff]
      constructor
      · intro unplaced keyword listed
        have unnamed := found keyword listed
        rw [List.contains_iff_mem] at unnamed
        exact ⟨unnamed, unplaced keyword listed⟩
      · intro clear keyword listed
        exact (clear keyword listed).2

theorem clash?_eq_some {layer : Layer} {keywords : List String} {failure : Failure}
    (clashes : layer.clash? keywords = some failure) : failure.kind = .typeError := by
  unfold clash? at clashes
  split at clashes
  · cases clashes
    rfl
  · obtain ⟨keyword, -, refuses⟩ := List.exists_of_findSome?_eq_some clashes
    unfold refusal? at refuses
    split at refuses
    · cases refuses
      rfl
    · cases refuses

theorem handOn_of_clear {layer : Layer} {arguments : Arguments}
    (clear : ∀ entry ∈ arguments.keywords, entry.1 ∉ layer.refused) :
    layer.handOn arguments =
      .ok { arguments with
        keywords := arguments.keywords.filter fun entry => !layer.unset.contains entry.1 } := by
  have unclashed : layer.clash? (arguments.keywords.map Prod.fst) = none := by
    rw [clash?_eq_none_iff]
    intro keyword listed
    obtain ⟨entry, among, rfl⟩ := List.mem_map.mp listed
    exact clear entry among
  rw [handOn, unclashed]

theorem taken?_eq_none {layer : Layer} {arguments : Arguments} {parameter : String}
    (untaken : ∀ entry ∈ arguments.keywords, entry.1 ∈ layer.unset → entry.1 ≠ parameter) :
    layer.taken? arguments parameter = none := by
  unfold taken?
  split
  next set =>
    rw [List.contains_iff_mem] at set
    rw [List.lookup_eq_none_iff]
    intro entry among
    by_cases named : entry.1 = parameter
    · exact absurd named (untaken entry among (named ▸ set))
    · simpa using Ne.symm named
  next => rfl

theorem handOn_of_refused {layer : Layer} {arguments : Arguments}
    (refuses : ∃ entry ∈ arguments.keywords, entry.1 ∈ layer.refused) :
    ∃ failure, layer.handOn arguments = .error failure ∧ failure.kind = .typeError := by
  unfold handOn
  cases clashes : layer.clash? (arguments.keywords.map Prod.fst) with
  | some failure => exact ⟨failure, rfl, clash?_eq_some clashes⟩
  | none =>
      rw [clash?_eq_none_iff] at clashes
      obtain ⟨entry, among, named⟩ := refuses
      exact absurd named (clashes entry.1 (List.mem_map_of_mem among))

end Layer

namespace Start

/-- Keywords with these names are refused on the way to the operation. -/
def refused (way : Start) (isAsync : Bool) : List String :=
  (way.layer isAsync).refused ++ (attemptLayer isAsync).refused

/-- Keywords with these names are parameters of the run and go no further. -/
def taken (way : Start) (isAsync : Bool) : List String := (way.layer isAsync).unset

variable {way : Start} {isAsync : Bool} {arguments : Arguments}

theorem mem_runParameters_of_taken {keyword : String} (set : keyword ∈ way.taken isAsync) :
    keyword ∈ runParameters := by
  unfold taken layer at set
  dsimp only at set
  exact List.mem_of_mem_filter set

/-- The layer that makes the attempts takes nothing for itself. -/
theorem handOn_of_unrefused
    (clear : ∀ entry ∈ arguments.keywords, entry.1 ∉ way.refused isAsync) :
    way.handOn isAsync arguments =
      .ok { arguments with
        keywords := arguments.keywords.filter fun entry =>
          !(way.taken isAsync).contains entry.1 } := by
  simp only [refused, List.mem_append, not_or] at clear
  have first := Layer.handOn_of_clear fun entry among => (clear entry among).1
  unfold handOn taken
  rw [first]
  change (attemptLayer isAsync).handOn _ = _
  rw [Layer.handOn_of_clear]
  · congr 2
    apply List.filter_eq_self.mpr
    intro entry among
    rfl
  · intro entry among
    exact (clear entry (List.mem_of_mem_filter among)).2

theorem handOn_of_refused
    (refuses : ∃ entry ∈ arguments.keywords, entry.1 ∈ way.refused isAsync) :
    ∃ failure, way.handOn isAsync arguments = .error failure ∧ failure.kind = .typeError := by
  unfold handOn
  by_cases early : ∃ entry ∈ arguments.keywords, entry.1 ∈ (way.layer isAsync).refused
  · obtain ⟨failure, raised, kind⟩ := Layer.handOn_of_refused early
    rw [raised]
    exact ⟨failure, rfl, kind⟩
  · have clear : ∀ entry ∈ arguments.keywords, entry.1 ∉ (way.layer isAsync).refused := by
      intro entry among named
      exact early ⟨entry, among, named⟩
    obtain ⟨entry, among, named⟩ := refuses
    have later : entry.1 ∈ (attemptLayer isAsync).refused := by
      rcases List.mem_append.mp named with first | second
      · exact absurd first (clear entry among)
      · exact second
    have untaken : entry.1 ∉ (way.layer isAsync).unset := by
      intro set
      have parameter := mem_runParameters_of_taken set
      have placed : entry.1 = "self" ∨ entry.1 = "fn" := by
        simpa [attemptLayer, Layer.refused] using later
      rcases placed with self | fn
      · rw [self] at parameter
        revert parameter
        decide
      · rw [fn] at parameter
        revert parameter
        decide
    have first := Layer.handOn_of_clear clear
    rw [first]
    apply Layer.handOn_of_refused
    refine ⟨entry, List.mem_filter.mpr ⟨among, ?_⟩, later⟩
    simpa using untaken

end Start

namespace RunSetup

variable {ρ κ : Type} [RandomSource ρ] [Clock κ]

theorem call_of_refused (setup : RunSetup) {way : Start} {isAsync : Bool} (clock : κ)
    (sleeps : ℕ) (source : ρ)
    (refuses : ∃ entry ∈ setup.arguments.keywords, entry.1 ∈ way.refused isAsync) :
    (setup.call way isAsync clock sleeps source).calls = [] ∧
      ∃ failure, (setup.call way isAsync clock sleeps source).outcome = .error failure ∧
        failure.kind = .typeError := by
  obtain ⟨failure, raised, kind⟩ := Start.handOn_of_refused refuses
  unfold call
  rw [raised]
  exact ⟨rfl, failure, rfl, kind⟩

theorem sleepless_calls (setup : RunSetup) (fault : Failure) (clock : κ) (source : ρ) :
    ∃ count, 0 < count ∧
      (setup.sleepless fault clock source).calls = List.replicate count setup.arguments := by
  obtain ⟨count, positive, made⟩ := run_calls { setup with sleepRefusal := fault } clock 0 source
  refine ⟨count, positive, ?_⟩
  rw [← made]
  unfold sleepless Execution.calls
  dsimp only
  rw [List.filterMap_filter]
  -- the sleep that is left out is no call
  congr 1
  funext action
  cases action <;> rfl

/-- Whatever is taken for the classifier, the engine or the sleep, the first attempt is made. What
is taken for the clock may prevent it. -/
theorem call_of_unrefused (setup : RunSetup) {way : Start} {isAsync : Bool} (clock : κ)
    (sleeps : ℕ) (source : ρ)
    (clear : ∀ entry ∈ setup.arguments.keywords, entry.1 ∉ way.refused isAsync) :
    ∃ count,
      (setup.call way isAsync clock sleeps source).calls =
        List.replicate count { setup.arguments with
          keywords := setup.arguments.keywords.filter fun entry =>
            !(way.taken isAsync).contains entry.1 } ∧
      ((∀ entry ∈ setup.arguments.keywords, entry.1 ∈ way.taken isAsync → entry.1 ≠ "clock") →
        0 < count) := by
  unfold call
  rw [Start.handOn_of_unrefused clear]
  dsimp only
  split
  next failure unclocked =>
    refine ⟨0, rfl, ?_⟩
    intro untaken
    have given := Layer.taken?_eq_none untaken
    rw [given] at unclocked
    cases unclocked
  next =>
    split
    next fault unslept =>
      obtain ⟨count, positive, made⟩ := sleepless_calls { setup.taking _ with arguments := _ } fault
        clock source
      exact ⟨count, made, fun _ => positive⟩
    next =>
      obtain ⟨count, positive, made⟩ := run_calls { setup.taking _ with arguments := _ } clock
        sleeps source
      exact ⟨count, made, fun _ => positive⟩

/-- The arguments arrive at every attempt as they were given exactly if no keyword has the name of a
parameter on the way. A name that is refused ends the call before any attempt; a name that is taken
is missing from the arguments of every attempt, and there is a first attempt unless it was the
clock that was taken. -/
theorem call_forwards_iff (setup : RunSetup) (way : Start) (isAsync : Bool) (clock : κ)
    (sleeps : ℕ) (source : ρ) :
    ((∃ count, 0 < count ∧
        (setup.call way isAsync clock sleeps source).calls =
          List.replicate count setup.arguments) ↔
      ∀ entry ∈ setup.arguments.keywords,
        entry.1 ∉ way.refused isAsync ∧ entry.1 ∉ way.taken isAsync) ∧
    ((∃ entry ∈ setup.arguments.keywords, entry.1 ∈ way.refused isAsync) →
      (setup.call way isAsync clock sleeps source).calls = [] ∧
      ∃ failure, (setup.call way isAsync clock sleeps source).outcome = .error failure ∧
        failure.kind = .typeError) ∧
    ((∀ entry ∈ setup.arguments.keywords, entry.1 ∉ way.refused isAsync) →
      ∃ count,
        (setup.call way isAsync clock sleeps source).calls =
          List.replicate count { setup.arguments with
            keywords := setup.arguments.keywords.filter fun entry =>
              !(way.taken isAsync).contains entry.1 } ∧
        ((∀ entry ∈ setup.arguments.keywords, entry.1 ∈ way.taken isAsync → entry.1 ≠ "clock") →
          0 < count)) := by
  refine ⟨⟨?_, ?_⟩, setup.call_of_refused clock sleeps source,
    setup.call_of_unrefused clock sleeps source⟩
  · rintro ⟨count, positive, forwarded⟩
    have clear : ∀ entry ∈ setup.arguments.keywords, entry.1 ∉ way.refused isAsync := by
      intro entry among named
      have none := (setup.call_of_refused clock sleeps source ⟨entry, among, named⟩).1
      rw [forwarded, List.replicate_eq_nil_iff] at none
      omega
    obtain ⟨number, made, -⟩ := setup.call_of_unrefused clock sleeps source clear
    rw [forwarded, List.replicate_inj] at made
    have same := made.2.resolve_left (by omega)
    have keywords := congrArg Arguments.keywords same
    intro entry among
    refine ⟨clear entry among, ?_⟩
    have kept := List.filter_eq_self.mp keywords.symm entry among
    simpa using kept
  · intro clear
    obtain ⟨count, made, least⟩ :=
      setup.call_of_unrefused clock sleeps source fun entry among => (clear entry among).1
    have positive : 0 < count :=
      least fun entry among taken => absurd taken (clear entry among).2
    have kept : (setup.arguments.keywords.filter fun entry =>
        !(way.taken isAsync).contains entry.1) = setup.arguments.keywords := by
      apply List.filter_eq_self.mpr
      intro entry among
      simpa using (clear entry among).2
    rw [kept] at made
    exact ⟨count, positive, made⟩

/-- Which keywords are in the way of a decorated operation. -/
example (isAsync : Bool) : Start.decorated.refused isAsync ++ Start.decorated.taken isAsync =
    ["is_failure", "operation", "config", "self", "fn", "engine", "sleep", "clock"] := by
  cases isAsync <;> decide

/-! ## Names in the way -/

def callingWith (keyword : String) : RunSetup :=
  { failingOnce standardPolicy with arguments := { keywords := [(keyword, .int 1)] } }

/-- A decorated operation cannot have a keyword that is named as the policy, nor one that is named
as the clock, and does not see one that is named as the engine, which then fails as an engine; a
direct call cannot hand on one that is named as the function. -/
theorem call_loses_keywords :
    ((callingWith "config").call .decorated false Binary64.zero 5 noNumbers).calls = [] ∧
    failureOf ((callingWith "config").call .decorated false Binary64.zero 5 noNumbers).outcome =
      some (.typeError ("execute() got multiple values for argument " ++
        Text.between Text.singleQuote "config")) ∧
    ((callingWith "clock").call .decorated false Binary64.zero 5 noNumbers).calls = [] ∧
    failureOf ((callingWith "clock").call .decorated false Binary64.zero 5 noNumbers).outcome =
      some (.typeError (Text.between Text.singleQuote "int" ++ " object is not callable")) ∧
    (((callingWith "engine").call .decorated false Binary64.zero 5 noNumbers).calls.map
      fun arguments => arguments.keywords.map Prod.fst) = [[]] ∧
    ((failureOf ((callingWith "engine").call .decorated false Binary64.zero 5
        noNumbers).outcome).map fun failure => failure.kind.name) = some "AttributeError" ∧
    ((callingWith "fn").call (.direct runParameters) false Binary64.zero 5 noNumbers).calls = [] ∧
    failureOf ((callingWith "fn").call (.direct runParameters) false Binary64.zero 5
        noNumbers).outcome =
      some (.typeError ("Retrying.__call__() got multiple values for argument " ++
        Text.between Text.singleQuote "fn")) := by
  exact ⟨rfl, by decide +kernel, rfl, by decide +kernel, by decide +kernel, by decide +kernel, rfl,
    by decide +kernel⟩

end RunSetup
end Reattempt
