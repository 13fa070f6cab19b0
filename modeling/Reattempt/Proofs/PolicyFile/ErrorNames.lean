import Mathlib.Tactic
import Reattempt.PolicyFile
import Reattempt.Proofs.PolicyFile.SectionChanges
import Reattempt.Proofs.Text.Runs

/-!
# Names of error classes in a section

A name gives an error class, or it is reported as an error of the configuration, unless it starts
with a dot and has another one. Its module is then named relative to a package, which there is not,
and a `TypeError` is raised. A section is reported likewise, up to the first name without a class;
if each of them has one, a limit on retries that is too long still raises an error in the value
(`toPolicy_escapes_iff`). What can be imported is left open: only how importing fails is assumed.
-/

set_option autoImplicit false

namespace Reattempt

namespace ErrorClass

def Raisable (errorClass : ErrorClass) : Prop := errorClass.isA "BaseException" = true

instance (errorClass : ErrorClass) : Decidable errorClass.Raisable :=
  inferInstanceAs (Decidable (errorClass.isA "BaseException" = true))

end ErrorClass

namespace ErrorName

open ErrorClass

/-! ## How importing fails -/

/-- How importing and looking up fail, as documented: a module that is missing raises an
`ImportError`, one whose name starts with a dot a `TypeError`, and a name that is missing in a
module an `AttributeError`. -/
structure Modules.Documented (modules : Modules) : Prop where
  missing : ∀ moduleName failure, modules.load moduleName = .error failure →
    moduleName.startsWith "." = false → failure.kind.isA "ImportError" = true
  relative : ∀ moduleName, moduleName.startsWith "." = true →
    ∃ failure, modules.load moduleName = .error failure ∧ failure.kind = .typeError
  absent : ∀ moduleName offered name failure, modules.load moduleName = .ok offered →
    offered name = .error failure → failure.kind.isA "AttributeError" = true

theorem Modules.offer_eq_error {moduleName name : String} {find? : String → Option Entry}
    {failure : Failure} (failed : offer moduleName find? name = .error failure) :
    failure.kind.isA "AttributeError" = true := by
  unfold offer at failed
  cases found : find? name with
  | some entry =>
      rw [found] at failed
      cases failed
  | none =>
      rw [found] at failed
      cases failed
      simp [missingName, isA]

theorem Modules.standard_documented : Modules.standard.Documented where
  missing moduleName failure failed undotted := by
    simp only [standard, undotted, Bool.false_eq_true, if_false] at failed
    split at failed
    · cases failed
    · split at failed
      · cases failed
        simp [missingModule, isA]
      · cases failed
  relative moduleName dotted := by
    refine ⟨relativeImport moduleName, ?_, rfl⟩
    simp only [standard, dotted, if_true]
  absent moduleName offered name failure loaded failed := by
    simp only [standard] at loaded
    split at loaded
    · cases loaded
    · split at loaded
      · cases loaded
        exact offer_eq_error failed
      · split at loaded
        · cases loaded
        · cases loaded
          exact offer_eq_error failed

/-! ## What a name comes to -/

/-- The module of the name is named relative to a package: the name starts with a dot and has
another one. -/
def Relative (name : String) : Prop := ∃ rest, name.toList = '.' :: rest ∧ '.' ∈ rest

theorem exists_last_point {text : List Char} (dotted : '.' ∈ text) :
    ∃ front last, text = front ++ '.' :: last ∧ '.' ∉ last := by
  obtain ⟨before, after, mirrored, undotted⟩ :=
    List.eq_append_cons_of_mem (List.mem_reverse.mpr dotted)
  refine ⟨after.reverse, before.reverse, ?_, by simpa using undotted⟩
  have straight := congrArg List.reverse mirrored
  simpa using straight

theorem ne_point {text : List Char} (undotted : '.' ∉ text) :
    ∀ c ∈ text.reverse, decide (c ≠ '.') = true := by
  intro c member
  refine decide_eq_true ?_
  rintro rfl
  exact undotted (List.mem_reverse.mp member)

theorem split_dotted {name : String} {front last : List Char}
    (spelled : name.toList = front ++ '.' :: last) (undotted : '.' ∉ last) :
    split name = (String.ofList front, String.ofList last) := by
  -- a name is split from its end on
  have mirrored : name.toList.reverse = last.reverse ++ '.' :: front.reverse := by simp [spelled]
  have spanned := Text.span_before ('.' :: front.reverse) (ne_point undotted) (by simp)
  rw [split, mirrored, spanned]
  simp

theorem split_undotted {name : String} (undotted : '.' ∉ name.toList) :
    split name = ("", name) := by
  have spanned := Text.span_before [] (ne_point undotted) (by simp)
  rw [List.append_nil] at spanned
  rw [split, spanned]
  simp

/-- Only in a relative name does a dot begin what stands before the last dot. -/
theorem relative_iff_split (name : String) :
    Relative name ↔ (split name).1.startsWith "." = true := by
  by_cases dotted : '.' ∈ name.toList
  · obtain ⟨front, last, spelled, undotted⟩ := exists_last_point dotted
    rw [split_dotted spelled undotted, Relative, spelled, String.startsWith_string_iff]
    simp only [String.toList_ofList]
    constructor
    · rintro ⟨rest, begins, another⟩
      cases front with
      | nil =>
          cases begins
          exact absurd another undotted
      | cons c front =>
          rw [List.cons_append, List.cons.injEq] at begins
          exact ⟨front, by simp [begins.1]⟩
    · rintro ⟨front', begins⟩
      refine ⟨front' ++ '.' :: last, ?_, by simp⟩
      rw [← begins]
      rfl
  · rw [split_undotted dotted, Relative]
    constructor
    · rintro ⟨rest, spelled, -⟩
      simp [spelled] at dotted
    · intro begins
      simp at begins

variable {modules : Modules} {name : String} {names : List String}

theorem isEmpty_of_startsWith {text : String} (dotted : text.startsWith "." = true) :
    text.isEmpty = false := by
  rw [String.startsWith_string_iff] at dotted
  rw [Bool.eq_false_iff]
  intro empty
  rw [String.isEmpty_iff] at empty
  rw [empty] at dotted
  exact absurd dotted (by decide)

theorem resolve_of_relative (documented : modules.Documented) (relative : Relative name) :
    ∃ failure, resolve name modules = .error (.raised failure) ∧ failure.kind = .typeError := by
  have dot := (relative_iff_split name).mp relative
  obtain ⟨failure, failed, kind⟩ := documented.relative _ dot
  have known : isMissing failure = false := by
    rw [isMissing, kind]
    decide
  refine ⟨failure, ?_, kind⟩
  simp [resolve, lookup, isEmpty_of_startsWith dot, failed, known, Except.bind]

/-- If the name is not relative, then it is missing, or something is found. -/
theorem isMissing_of_not_relative {failure : Failure} (documented : modules.Documented)
    (notRelative : ¬ Relative name) (failed : lookup name modules = .error failure) :
    isMissing failure = true := by
  have noDot : (split name).1.startsWith "." = false :=
    Bool.eq_false_iff.mpr ((not_congr (relative_iff_split name)).mp notRelative)
  unfold lookup at failed
  unfold isMissing
  dsimp only at failed
  split at failed
  · rw [Modules.offer_eq_error failed, Bool.or_true]
  · cases loaded : modules.load (split name).1 with
    | error raised =>
        rw [loaded] at failed
        cases failed
        rw [documented.missing _ _ loaded noDot, Bool.true_or]
    | ok offered =>
        rw [loaded] at failed
        rw [documented.absent _ _ _ _ loaded failed, Bool.or_true]

/-- What a name that is not relative comes to: an error class, or one of the two faults that are
errors of the configuration. -/
theorem resolve_of_not_relative (documented : modules.Documented)
    (notRelative : ¬ Relative name) :
    (∃ errorClass, resolve name modules = .ok errorClass ∧ errorClass.Raisable) ∨
      resolve name modules = .error (.unknown name) ∨
      resolve name modules = .error (.notError name) := by
  unfold resolve
  cases found : lookup name modules with
  | error failure =>
      have missing := isMissing_of_not_relative documented notRelative found
      simp [missing]
  | ok entry =>
      cases entry with
      | other => exact Or.inr (Or.inr rfl)
      | error errorClass =>
          by_cases raisable : errorClass.isA "BaseException"
          · exact Or.inl ⟨errorClass, if_pos raisable, raisable⟩
          · exact Or.inr (Or.inr (if_neg raisable))

/-! ## What a list of names comes to -/

def AllResolve (modules : Modules) (names : List String) : Prop :=
  ∀ name ∈ names, ∃ errorClass, resolve name modules = .ok errorClass

def StopsAtRelative (modules : Modules) (names : List String) : Prop :=
  ∃ known name rest, names = known ++ name :: rest ∧ AllResolve modules known ∧ Relative name

theorem resolveAll_eq_error {fault : Fault} (failed : resolveAll modules names = .error fault) :
    ∃ known name rest, names = known ++ name :: rest ∧ AllResolve modules known ∧
      resolve name modules = .error fault := by
  induction names with
  | nil => cases failed
  | cons name names ih =>
      rw [resolveAll] at failed
      cases resolved : resolve name modules with
      | error found =>
          rw [resolved] at failed
          cases failed
          exact ⟨[], name, names, rfl, by simp [AllResolve], resolved⟩
      | ok errorClass =>
          rw [resolved] at failed
          cases others : resolveAll modules names with
          | ok errorClasses =>
              simp only [others] at failed
              cases failed
          | error found =>
              simp only [others] at failed
              cases failed
              obtain ⟨known, stopped, rest, split, before, unresolved⟩ := ih others
              refine ⟨name :: known, stopped, rest, by rw [split, List.cons_append], ?_, unresolved⟩
              exact List.forall_mem_cons.mpr ⟨⟨errorClass, resolved⟩, before⟩

theorem resolveAll_of_stop {known rest : List String} {fault : Fault}
    (before : AllResolve modules known) (unresolved : resolve name modules = .error fault) :
    resolveAll modules (known ++ name :: rest) = .error fault := by
  induction known with
  | nil =>
      rw [List.nil_append, resolveAll, unresolved]
      rfl
  | cons first known ih =>
      obtain ⟨⟨errorClass, resolved⟩, others⟩ := List.forall_mem_cons.mp before
      rw [List.cons_append, resolveAll, resolved]
      simp only [ih others]
      rfl

theorem resolveAll_raised_iff (documented : modules.Documented) :
    (∃ failure, resolveAll modules names = .error (.raised failure)) ↔
      StopsAtRelative modules names := by
  constructor
  · rintro ⟨failure, failed⟩
    obtain ⟨known, name, rest, split, before, unresolved⟩ := resolveAll_eq_error failed
    refine ⟨known, name, rest, split, before, ?_⟩
    by_contra notRelative
    rcases resolve_of_not_relative documented notRelative with
      ⟨errorClass, resolved, -⟩ | unknown | noError
    · rw [resolved] at unresolved
      cases unresolved
    · rw [unknown] at unresolved
      cases unresolved
    · rw [noError] at unresolved
      cases unresolved
  · rintro ⟨known, name, rest, rfl, before, relative⟩
    obtain ⟨failure, unresolved, -⟩ := resolve_of_relative documented relative
    exact ⟨failure, resolveAll_of_stop before unresolved⟩

theorem resolveAll_of_stops (documented : modules.Documented)
    (stops : StopsAtRelative modules names) :
    ∃ failure, resolveAll modules names = .error (.raised failure) ∧
      failure.kind = .typeError := by
  obtain ⟨known, name, rest, rfl, before, relative⟩ := stops
  obtain ⟨failure, unresolved, kind⟩ := resolve_of_relative documented relative
  exact ⟨failure, resolveAll_of_stop before unresolved, kind⟩

end ErrorName

namespace SectionError

open ErrorName

def Own (error : SectionError) : Prop :=
  error.toFailure.isInstance configurationError = true

instance (error : SectionError) : Decidable error.Own :=
  inferInstanceAs (Decidable (error.toFailure.isInstance configurationError = true))

theorem own_unknown (name : String) : (SectionError.name (.unknown name)).Own := by
  have same : configurationError.isA configurationError.path = true := by decide +kernel
  exact same

theorem own_notError (name : String) : (SectionError.name (.notError name)).Own :=
  own_unknown name

theorem own_policy (problems : List Problem) : (SectionError.policy problems).Own :=
  own_unknown ""

theorem not_own_of_typeError {failure : Failure} (kind : failure.kind = .typeError) :
    ¬ (SectionError.name (.raised failure)).Own := by
  unfold Own Failure.isInstance toFailure
  rw [kind]
  decide +kernel

theorem not_own_digits : ¬ (SectionError.note .digits).Own := by
  decide +kernel

end SectionError

namespace ErrorName

variable {modules : Modules} {name : String}

theorem answered_iff (documented : modules.Documented) :
    ((∃ errorClass, resolve name modules = .ok errorClass ∧ errorClass.Raisable) ∨
      ∃ fault, resolve name modules = .error fault ∧ (SectionError.name fault).Own) ↔
        ¬ Relative name := by
  constructor
  · intro answered relative
    obtain ⟨failure, raised, kind⟩ := resolve_of_relative documented relative
    rw [raised] at answered
    rcases answered with ⟨errorClass, ⟨⟩, -⟩ | ⟨fault, same, own⟩
    cases same
    exact SectionError.not_own_of_typeError kind own
  · intro notRelative
    rcases resolve_of_not_relative documented notRelative with found | unknown | noError
    · exact Or.inl found
    · exact Or.inr ⟨_, unknown, SectionError.own_unknown name⟩
    · exact Or.inr ⟨_, noError, SectionError.own_notError name⟩

end ErrorName

namespace RetrySection

open ErrorName

variable {modules : Modules} {tag : Nat} {retry : RetrySection}

theorem toPolicy_of_refused {error : ChangeError}
    (refused : applyChanges tag retry.changes {} = .error error) :
    retry.toPolicy tag modules = .error (.change error) := by
  rw [toPolicy, toSettings, refused]
  rfl

theorem toPolicy_of_unresolved {settings : Settings} {fault : ErrorName.Fault}
    (accepted : applyChanges tag retry.changes {} = .ok settings)
    (unresolved : resolveAll modules retry.abortOn = .error fault) :
    retry.toPolicy tag modules = .error (.name fault) := by
  have named : retry.abortOn.isEmpty = false := by
    cases names : retry.abortOn with
    | nil =>
        rw [names] at unresolved
        cases unresolved
    | cons name rest => rfl
  rw [toPolicy, toSettings, accepted]
  simp only [addNames, named, unresolved]
  rfl

theorem toSettings_of_resolved {settings : Settings} {errorClasses : List ErrorClass}
    (accepted : applyChanges tag retry.changes {} = .ok settings)
    (resolved : resolveAll modules retry.abortOn = .ok errorClasses) :
    ∃ extended, retry.toSettings tag modules = .ok extended := by
  rw [toSettings, accepted]
  simp only [addNames, resolved]
  split
  · exact ⟨_, rfl⟩
  · exact ⟨_, rfl⟩

/-- The changes before the names are accepted, and the first name that has no class is relative. -/
def Escapes (modules : Modules) (retry : RetrySection) (tag : Nat) : Prop :=
  (∃ settings, applyChanges tag retry.changes {} = .ok settings) ∧
    StopsAtRelative modules retry.abortOn

/-- The section makes a policy with a limit on retries that is too long to be noted. -/
def Overlong (modules : Modules) (retry : RetrySection) (tag : Nat) : Prop :=
  ∃ settings policy, retry.toSettings tag modules = .ok settings ∧ settings.build = .ok policy ∧
    Decimal.isWritable policy.maxRetries = false

theorem toPolicy_of_escapes (documented : modules.Documented)
    (escapes : Escapes modules retry tag) :
    ∃ failure, retry.toPolicy tag modules = .error (.name (.raised failure)) ∧
      failure.kind = .typeError := by
  obtain ⟨⟨settings, accepted⟩, stops⟩ := escapes
  obtain ⟨failure, unresolved, kind⟩ := resolveAll_of_stops documented stops
  exact ⟨failure, toPolicy_of_unresolved accepted unresolved, kind⟩

theorem toPolicy_of_overlong (overlong : Overlong modules retry tag) :
    retry.toPolicy tag modules = .error (.note .digits) := by
  obtain ⟨settings, policy, made, built, long⟩ := overlong
  simp [toPolicy, made, Settings.buildAndNote_of_built built, long, bind, Except.bind]

/-- Settings that a section comes to make a policy, unless that is too long to be noted. -/
theorem toPolicy_of_toSettings {settings : Settings}
    (made : retry.toSettings tag modules = .ok settings)
    (short : ¬ Overlong modules retry tag) :
    (∃ policy, retry.toPolicy tag modules = .ok policy) ∨
      ∃ problems, retry.toPolicy tag modules = .error (.policy problems) := by
  cases built : settings.build with
  | error problems =>
      have noted : settings.buildAndNote = .ok (.error problems) := by
        rw [Settings.buildAndNote, built]
        rfl
      exact Or.inr ⟨problems, by simp [toPolicy, made, noted, bind, Except.bind]⟩
  | ok policy =>
      have writable : Decimal.isWritable policy.maxRetries = true := by
        by_contra long
        exact short ⟨settings, policy, made, built, Bool.eq_false_iff.mpr long⟩
      refine Or.inl ⟨policy, ?_⟩
      simp [toPolicy, made, Settings.buildAndNote_of_built built, writable, bind, Except.bind]

theorem toPolicy_of_not_escapes (documented : modules.Documented)
    (within : ¬ Escapes modules retry tag) (short : ¬ Overlong modules retry tag) :
    (∃ policy, retry.toPolicy tag modules = .ok policy) ∨
      ∃ error, retry.toPolicy tag modules = .error error ∧ error.Own := by
  cases changed : applyChanges tag retry.changes {} with
  | error error =>
      have inRange : Change.InRange (applyChanges tag retry.changes {}) :=
        applyChanges_inRange retry.changes retry.changes_inRange {}
      refine Or.inr ⟨.change error, toPolicy_of_refused changed, ?_⟩
      refine change_toFailure_isInstance error fun range same => ?_
      rw [same] at changed
      exact inRange range changed
  | ok settings =>
      cases names : resolveAll modules retry.abortOn with
      | ok errorClasses =>
          obtain ⟨extended, made⟩ := toSettings_of_resolved changed names
          rcases toPolicy_of_toSettings made short with made | ⟨problems, failed⟩
          · exact Or.inl made
          · exact Or.inr ⟨_, failed, SectionError.own_policy problems⟩
      | error fault =>
          refine Or.inr ⟨_, toPolicy_of_unresolved changed names, ?_⟩
          cases fault with
          | unknown name => exact SectionError.own_unknown name
          | notError name => exact SectionError.own_notError name
          | raised failure =>
              have stops := (resolveAll_raised_iff documented).mp ⟨failure, names⟩
              exact absurd ⟨⟨settings, changed⟩, stops⟩ within

/-- A name comes to an error class or to an error of the configuration unless it is relative; then a
`TypeError` is raised. A section comes to a policy or to such an error unless a relative name is the
first without a class, which raises the same, or its limit on retries is too long to be noted, which
raises an error in the value. -/
theorem toPolicy_escapes_iff (modules : Modules) (documented : modules.Documented) (name : String)
    (retry : RetrySection) (tag : Nat) :
    ((((∃ errorClass, resolve name modules = .ok errorClass ∧ errorClass.Raisable) ∨
        ∃ fault, resolve name modules = .error fault ∧ (SectionError.name fault).Own) ↔
          ¬ Relative name) ∧
      (Relative name → ∃ failure, resolve name modules = .error (.raised failure) ∧
        failure.kind = .typeError)) ∧
    (((∃ policy, retry.toPolicy tag modules = .ok policy) ∨
        ∃ error, retry.toPolicy tag modules = .error error ∧ error.Own) ↔
      ¬ Escapes modules retry tag ∧ ¬ Overlong modules retry tag) ∧
    (Escapes modules retry tag → ∃ failure,
      retry.toPolicy tag modules = .error (.name (.raised failure)) ∧
        failure.kind = .typeError) ∧
    (Overlong modules retry tag → retry.toPolicy tag modules = .error (.note .digits)) := by
  refine ⟨⟨answered_iff documented, resolve_of_relative documented⟩, ⟨?_, ?_⟩,
    toPolicy_of_escapes documented, toPolicy_of_overlong⟩
  · intro answered
    constructor
    · intro escapes
      obtain ⟨failure, escaped, kind⟩ := toPolicy_of_escapes documented escapes
      rw [escaped] at answered
      rcases answered with ⟨policy, ⟨⟩⟩ | ⟨error, same, own⟩
      cases same
      exact SectionError.not_own_of_typeError kind own
    · intro overlong
      rw [toPolicy_of_overlong overlong] at answered
      rcases answered with ⟨policy, ⟨⟩⟩ | ⟨error, same, own⟩
      cases same
      exact SectionError.not_own_digits own
  · rintro ⟨within, short⟩
    exact toPolicy_of_not_escapes documented within short

/-- A built-in class has its name, and `.a.b` behind it still raises a `TypeError`. -/
theorem toPolicy_escapes_of_second_name :
    Modules.standard.Documented ∧
      (∃ errorClass, resolve "ValueError" = .ok errorClass) ∧
      ∃ failure, ({ abortOn := ["ValueError", ".a.b"] } : RetrySection).toPolicy 0 =
        .error (.name (.raised failure)) ∧ failure.kind = .typeError := by
  have resolved : resolve "ValueError" = .ok .valueError := by decide +kernel
  obtain ⟨-, -, escapes, -⟩ := toPolicy_escapes_iff .standard Modules.standard_documented ".a.b"
    { abortOn := ["ValueError", ".a.b"] } 0
  refine ⟨Modules.standard_documented, ⟨_, resolved⟩, escapes ⟨⟨{}, rfl⟩, ?_⟩⟩
  refine ⟨["ValueError"], ".a.b", [], rfl, ?_, "a.b".toList, rfl, by decide⟩
  intro name listed
  rw [List.mem_singleton.mp listed]
  exact ⟨_, resolved⟩

/-- The name `.a.b` is answered by a `TypeError`, and so is a section with nothing but it. -/
theorem toPolicy_escapes_of_relative_name :
    resolve ".a.b" = .error (.raised (Modules.relativeImport ".a")) ∧
      PolicyFile.sectionOf [(.text "retry", .mapping [(.text "abort_on",
        .list [.text ".a.b"])])] = .ok { abortOn := [".a.b"] } ∧
      ({ abortOn := [".a.b"] } : RetrySection).toPolicy 0 =
        .error (.name (.raised (Modules.relativeImport ".a"))) ∧
      (Modules.relativeImport ".a").kind = .typeError ∧
      ¬ (SectionError.name (.raised (Modules.relativeImport ".a"))).Own := by
  refine ⟨by decide +kernel, rfl, ?_, rfl, SectionError.not_own_of_typeError rfl⟩
  have unresolved : resolveAll .standard [".a.b"] =
      .error (.raised (Modules.relativeImport ".a")) := by decide +kernel
  have accepted : applyChanges 0 [] {} = .ok {} := rfl
  exact toPolicy_of_unresolved accepted unresolved

end RetrySection
end Reattempt
