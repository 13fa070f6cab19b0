import Mathlib.Tactic
import Reattempt.Proofs.Builder.Requests
import Reattempt.Proofs.Builder.Acceptance

/-!
# Faults of arguments come first

A change fails because its arguments are unsuitable, because of a conflict with what was set before,
or because an argument stands for a duration out of range. Which of the three it is depends on the
arguments alone, and a conflict is reported only for suitable arguments (`argument_faults_iff`),
with one exception: the limit on the whole time is compared with the start of a growing delay before
its greatest delay and its factor are looked at.
-/

set_option autoImplicit false

namespace Reattempt

inductive ChangeError.Kind where
  | argument
  | state
  | range
deriving DecidableEq

def ChangeError.kind : ChangeError → ChangeError.Kind
  | .argument _ => .argument
  | .state _ => .state
  | .range _ => .range

namespace Change

/-! ## How computations fail -/

section Failing

variable {α β : Type} {kind : ChangeError.Kind}

def FailsWith (kind : ChangeError.Kind) (answer : Except ChangeError α) : Prop :=
  ∃ error, answer = .error error ∧ error.kind = kind

@[simp] theorem failsWith_ok (value : α) :
    ¬ FailsWith kind (.ok value : Except ChangeError α) := by
  rintro ⟨error, failed, _⟩
  cases failed

@[simp] theorem failsWith_error (error : ChangeError) :
    FailsWith kind (.error error : Except ChangeError α) ↔ error.kind = kind := by
  simp [FailsWith]

@[simp] theorem failsWith_bind (first : Except ChangeError α)
    (next : α → Except ChangeError β) :
    FailsWith kind (first >>= next) ↔
      FailsWith kind first ∨ ∃ middle, first = .ok middle ∧ FailsWith kind (next middle) := by
  cases first with
  | error error => simp [bind, Except.bind]
  | ok middle => simp [bind, Except.bind]

@[simp] theorem failsWith_map (answer : Except ChangeError α) (f : α → β) :
    FailsWith kind (answer.map f) ↔ FailsWith kind answer := by
  cases answer with
  | error error => simp [Except.map]
  | ok value => simp [Except.map]

@[simp] theorem failsWith_functor_map (answer : Except ChangeError α) (f : α → β) :
    FailsWith kind (f <$> answer) ↔ FailsWith kind answer :=
  failsWith_map answer f

@[simp] theorem failsWith_demandArgument (condition : Prop) [Decidable condition]
    (fault : ArgumentFault) :
    FailsWith kind (demandArgument condition fault) ↔ ¬ condition ∧ kind = .argument := by
  unfold demandArgument demand
  split <;> simp_all [ChangeError.kind, eq_comm]

@[simp] theorem failsWith_demandState (condition : Prop) [Decidable condition]
    (conflict : StateConflict) :
    FailsWith kind (demandState condition conflict) ↔ ¬ condition ∧ kind = .state := by
  unfold demandState demand
  split <;> simp_all [ChangeError.kind, eq_comm]

/-- An answer that is no value fails with one kind of error, and only with that one. -/
theorem FailsWith.unique {answer : Except ChangeError α} {other : ChangeError.Kind}
    (fails : FailsWith kind answer) (also : FailsWith other answer) : kind = other := by
  obtain ⟨error, rfl, rfl⟩ := fails
  exact (failsWith_error error).mp also

end Failing

/-- A refusal that is not about a duration out of range. -/
def InRange {α : Type} (answer : Except ChangeError α) : Prop :=
  ∀ error, answer ≠ .error (.range error)

theorem inRange_iff_not_fails {α : Type} (answer : Except ChangeError α) :
    InRange answer ↔ ¬ FailsWith .range answer := by
  constructor
  · rintro inRange ⟨error, rfl, kind⟩
    cases error with
    | range error => exact inRange error rfl
    | argument fault => cases kind
    | state conflict => cases kind
  · rintro inRange error rfl
    exact inRange ⟨_, rfl, rfl⟩

theorem inRange_bind {α β : Type} {first : Except ChangeError α}
    {next : α → Except ChangeError β} (head : InRange first)
    (tail : ∀ middle, InRange (next middle)) : InRange (first >>= next) := by
  simp only [inRange_iff_not_fails, failsWith_bind, not_or, not_exists, not_and] at head tail ⊢
  exact ⟨head, fun middle _ => tail middle⟩

/-! ## How arguments are read -/

theorem failsWith_iff_of_argument {α : Type} {answer : Except ChangeError α}
    {kind : ChangeError.Kind} (only : ∀ error, answer = .error error → error.kind = .argument) :
    FailsWith kind answer ↔ (∀ value, answer ≠ .ok value) ∧ kind = .argument := by
  cases answer with
  | error error => simp [only error rfl, eq_comm]
  | ok value => simp

/-- What is read of an argument is refused as one, or escapes as out of range. -/
theorem failsWith_iff_of_beyond {α : Type} {answer : Except ChangeError α} {beyond : Prop}
    {kind : ChangeError.Kind} (range : FailsWith .range answer ↔ beyond)
    (noState : ¬ FailsWith .state answer) :
    FailsWith kind answer ↔
      (∀ value, answer ≠ .ok value) ∧ ¬ beyond ∧ kind = .argument ∨ beyond ∧ kind = .range := by
  rw [← range]
  cases answer with
  | ok value => simp
  | error error =>
      rw [failsWith_error] at noState
      cases found : error.kind with
      | state => exact absurd found noState
      | argument => simp [found, eq_comm]
      | range => simp [found, eq_comm]

/-- What is refused as no value of its kind cannot be shown for it. -/
def Unshown {α : Type} (read : Option α) (value : Value) : Prop :=
  read = none ∧ value.isShowable = false

/-- The value stands for a duration that is out of range, or it stands for none and cannot be shown.
-/
def BeyondRange (value : Value) : Prop :=
  (∃ error, Field.duration value = .error (.range error)) ∨
    (∃ fault, Field.duration value = .error (.fault fault)) ∧ value.isShowable = false

def UnshownAmong (values : List Value) : Prop :=
  ∃ before value after, values = before ++ value :: after ∧
    (∃ errorClasses, readErrorTypes before = .ok errorClasses) ∧
    (∀ errorClass, value ≠ .className (.error errorClass)) ∧ value.isShowable = false

theorem not_beyondRange_duration (duration : Duration) : ¬ BeyondRange (.duration duration) := by
  rintro (⟨error, ⟨⟩⟩ | ⟨⟨fault, ⟨⟩⟩, _⟩)

theorem not_unshown_of_some {α : Type} {read : Option α} {value : Value} {given : α}
    (taken : read = some given) : ¬ Unshown read value := by
  rintro ⟨missing, _⟩
  cases taken.symm.trans missing

@[simp] theorem refusal_kind_ne_state (fault : String → ArgumentFault) (value : Value) :
    (refusal fault value).kind ≠ .state := by
  unfold refusal
  split <;> nofun

@[simp] theorem refusal_kind_eq_range_iff (fault : String → ArgumentFault) (value : Value) :
    (refusal fault value).kind = .range ↔ value.isShowable = false := by
  unfold refusal
  split <;> simp_all [ChangeError.kind]

section Reading

variable {kind : ChangeError.Kind} (name : String) (value : Value)

theorem durationOfInt_truth (truth : Bool) :
    Field.duration (.bool truth) =
      .ok ⟨if truth then 1000000 else 0, by cases truth <;> decide⟩ := by
  cases truth <;> rfl

theorem isShowable_null : Value.null.isShowable = true := rfl

theorem isShowable_bool (truth : Bool) : (Value.bool truth).isShowable = true := rfl

theorem readDuration_range_iff :
    FailsWith .range (readDuration name value) ↔ BeyondRange value := by
  unfold readDuration BeyondRange
  dsimp only
  split
  · simp [isShowable_null, Field.duration]
  · simp [isShowable_bool, durationOfInt_truth]
  · split
    · rename_i given
      simp [given]
    · rename_i given
      simp [given]
    · rename_i given
      simp [given, ChangeError.kind]

/-- A value gives a duration, is no duration, or stands for one out of range. -/
@[simp] theorem readDuration_fails_iff :
    FailsWith kind (readDuration name value) ↔
      (∀ duration, readDuration name value ≠ .ok duration) ∧ ¬ BeyondRange value ∧
          kind = .argument ∨
        BeyondRange value ∧ kind = .range := by
  refine failsWith_iff_of_beyond (readDuration_range_iff name value) ?_
  unfold readDuration
  dsimp only
  split
  · simp
  · simp
  · split
    · simp
    · simp
    · simp [ChangeError.kind]

@[simp] theorem readInteger_fails_iff :
    FailsWith kind (readInteger name value) ↔
      (∀ number, readInteger name value ≠ .ok number) ∧
          ¬ Unshown (Field.strictInteger? value) value ∧ kind = .argument ∨
        Unshown (Field.strictInteger? value) value ∧ kind = .range := by
  unfold readInteger Unshown
  refine failsWith_iff_of_beyond ?_ ?_ <;> split <;> simp_all

@[simp] theorem readNumber_fails_iff :
    FailsWith kind (readNumber name value) ↔
      (∀ number, readNumber name value ≠ .ok number) ∧
          ¬ Unshown (Field.strictNumber? value) value ∧ kind = .argument ∨
        Unshown (Field.strictNumber? value) value ∧ kind = .range := by
  unfold readNumber Unshown
  refine failsWith_iff_of_beyond ?_ ?_ <;> split <;> simp_all

theorem unshownAmong_cons_error (errorClass : ErrorClass) (values : List Value) :
    UnshownAmong (.className (.error errorClass) :: values) ↔ UnshownAmong values := by
  constructor
  · rintro ⟨before, value, after, same, ⟨errorClasses, read⟩, other, unshown⟩
    cases before with
    | nil =>
        cases same
        exact absurd rfl (other errorClass)
    | cons head before =>
        obtain ⟨rfl, rfl⟩ := List.cons.inj same
        refine ⟨before, value, after, rfl, ?_, other, unshown⟩
        cases rest : readErrorTypes before with
        | ok others => exact ⟨others, rfl⟩
        | error error =>
            rw [readErrorTypes, rest] at read
            cases read
  · rintro ⟨before, value, after, rfl, ⟨errorClasses, read⟩, other, unshown⟩
    refine ⟨.className (.error errorClass) :: before, value, after, rfl,
      ⟨errorClass :: errorClasses, ?_⟩, other, unshown⟩
    rw [readErrorTypes, read]
    rfl

theorem unshownAmong_cons_other (other : ∀ errorClass, value ≠ .className (.error errorClass))
    (values : List Value) : UnshownAmong (value :: values) ↔ value.isShowable = false := by
  constructor
  · rintro ⟨before, found, after, same, ⟨errorClasses, read⟩, _, unshown⟩
    cases before with
    | nil =>
        cases same
        exact unshown
    | cons head before =>
        obtain ⟨rfl, rfl⟩ := List.cons.inj same
        unfold readErrorTypes at read
        split at read
        · rename_i nothing
          cases nothing
        · rename_i errorClass _ same
          exact absurd (List.cons.inj same).1 (other errorClass)
        · cases read
  · exact fun unshown => ⟨[], value, values, rfl, ⟨[], rfl⟩, other, unshown⟩

theorem readErrorTypes_range_iff (values : List Value) :
    FailsWith .range (readErrorTypes values) ↔ UnshownAmong values := by
  induction values with
  | nil =>
      refine iff_of_false (failsWith_ok _) ?_
      rintro ⟨before, value, after, same, _⟩
      simp at same
  | cons value values ih =>
      unfold readErrorTypes
      split
      · rename_i nothing
        cases nothing
      · rename_i errorClass rest same
        obtain ⟨rfl, rfl⟩ := List.cons.inj same
        rw [failsWith_map, ih, unshownAmong_cons_error]
      · rename_i head rest other same
        obtain ⟨rfl, rfl⟩ := List.cons.inj same
        rw [failsWith_error, refusal_kind_eq_range_iff, unshownAmong_cons_other value other]

theorem readErrorTypes_noState (values : List Value) :
    ¬ FailsWith .state (readErrorTypes values) := by
  induction values with
  | nil => exact failsWith_ok _
  | cons value values ih =>
      unfold readErrorTypes
      split
      · exact failsWith_ok _
      · rename_i errorClass rest same
        obtain ⟨rfl, rfl⟩ := List.cons.inj same
        rwa [failsWith_map]
      · simp

@[simp] theorem readErrorTypes_fails_iff (values : List Value) :
    FailsWith kind (readErrorTypes values) ↔
      (∀ errorClasses, readErrorTypes values ≠ .ok errorClasses) ∧ ¬ UnshownAmong values ∧
          kind = .argument ∨
        UnshownAmong values ∧ kind = .range :=
  failsWith_iff_of_beyond (readErrorTypes_range_iff values) (readErrorTypes_noState values)

@[simp] theorem readPredicate_fails_iff (argument : Argument) :
    FailsWith kind (readPredicate argument) ↔
      (∀ predicate, readPredicate argument ≠ .ok predicate) ∧ kind = .argument := by
  refine failsWith_iff_of_argument fun error failed => ?_
  unfold readPredicate at failed
  split at failed <;> cases failed
  rfl

@[simp] theorem readHandler_fails_iff (argument : Argument) :
    FailsWith kind (readHandler argument) ↔
      (∀ handler, readHandler argument ≠ .ok handler) ∧ kind = .argument := by
  refine failsWith_iff_of_argument fun error failed => ?_
  unfold readHandler at failed
  split at failed <;> cases failed
  rfl

end Reading

/-! ## Three ways to fail -/

/-- An argument is reached that stands for a duration out of range, or that is refused for its kind
and cannot be shown for it. -/
def OutOfRange : Change → Prop
  | .delay value | .jitter value | .maxDuration value => BeyondRange value
  | .delayRange low high =>
      BeyondRange low ∨
        (∃ delayMin, readDuration "delay_min" low = .ok delayMin) ∧ BeyondRange high
  | .backoff value cap rate =>
      BeyondRange value ∨
        (∃ delay, readDuration "delay" value = .ok delay) ∧
          (BeyondRange cap ∨
            (∃ maxDelay, readDuration "max_delay" cap = .ok maxDelay) ∧
              Unshown (Field.strictNumber? rate) rate)
  | .jitterFactor value => Unshown (Field.strictNumber? value) value
  | .maxRetries value | .maxAttempts value => Unshown (Field.strictInteger? value) value
  | .abortOn failureTypes => UnshownAmong failureTypes
  | _ => False

/-- The start of a growing delay is not below the limit on the whole time, and what is wrong with
the greatest delay or the factor is not looked at any more. -/
def Overshadowed (settings : Settings) : Change → Prop
  | .backoff value cap rate =>
      ∃ delay, readDuration "delay" value = .ok delay ∧
        ∃ maxDelay, readDuration "max_delay" cap = .ok maxDelay ∧
          ∃ factor, readNumber "delay_factor" rate = .ok factor ∧
            .zero < delay ∧ ¬ Settings.below delay settings.maxDuration ∧
            ¬ (delay < maxDelay ∧ Binary64.ofInt 1 < factor)
  | _ => False

theorem Overshadowed.not_suitable {settings : Settings} {change : Change}
    (hidden : change.Overshadowed settings) : ¬ change.Suitable := by
  cases change with
  | backoff value cap rate =>
      obtain ⟨delay, readDelay, maxDelay, readCap, factor, readFactor, -, -, flawed⟩ := hidden
      intro suitable
      obtain ⟨request, asks⟩ := suitable 0
      cases asks with
      | backoff takenDelay takenCap takenFactor positive increasing growing =>
          cases Except.ok.inj (readDelay.symm.trans takenDelay)
          cases Except.ok.inj (readCap.symm.trans takenCap)
          cases Except.ok.inj (readFactor.symm.trans takenFactor)
          exact flawed ⟨increasing, growing⟩
  | _ => exact hidden.elim

/-- Without a limit on the whole time, all arguments are looked at. -/
theorem not_overshadowed_of_unlimited {settings : Settings}
    (unlimited : settings.maxDuration = none) (change : Change) :
    ¬ change.Overshadowed settings := by
  intro hidden
  cases change with
  | backoff value cap rate =>
      obtain ⟨delay, -, maxDelay, -, factor, -, -, above, -⟩ := hidden
      exact above (by simp [Settings.below, unlimited])
  | _ => exact hidden

end Change

namespace Settings

open Change

variable {settings : Settings} {kind : ChangeError.Kind} {change : Change} {tag : Nat}

/-- Suitable arguments fail neither as arguments nor as out of range. -/
theorem not_fails_of_asks {request : Request} (asks : change.Asks tag request)
    (other : kind ≠ .state) (made : Nat) : ¬ FailsWith kind (settings.change made change) := by
  cases asks with
  | delay read positive => simp [Settings.change, withDelay, read, positive, other]
  | delayRange readMin readMax positiveMin positiveMax increasing =>
      simp [Settings.change, withDelayRange, readMin, readMax, positiveMin, positiveMax,
        increasing, other]
  | backoff readDelay readCap readFactor positive increasing growing =>
      simp [Settings.change, withBackoff, readDelay, readCap, readFactor, positive, increasing,
        growing, other]
  | jitter read positive => simp [Settings.change, withJitter, read, positive, other]
  | jitterFactor read within => simp [Settings.change, withJitterFactor, read, within, other]
  | maxDuration read nonnegative =>
      simp [Settings.change, withMaxDuration, read, nonnegative, other]
  | maxRetries read enough =>
      simp [Settings.change, withMaxRetries, read, Int.not_lt.mpr enough]
  | maxAttempts read notZero enough =>
      simp [Settings.change, withMaxAttempts, read, notZero, Int.not_lt.mpr enough]
  | abortOn given read => simp [Settings.change, abortOn, given, read]
  | abortOnFailureIf read => simp [Settings.change, read]
  | abortIf read => simp [Settings.change, read]
  | abortIfResult read => simp [Settings.change, read]
  | abortWhen result objects => simp [Settings.change]
  | handle read => simp [Settings.change, read]

theorem fails_of_outOfRange (beyond : change.OutOfRange) (tag : Nat) :
    FailsWith .range (settings.change tag change) := by
  have early {α : Type} {answer : Except ChangeError α} {next : α → Except ChangeError Settings}
      (beyond : FailsWith .range answer) : FailsWith .range (answer >>= next) :=
    (failsWith_bind _ _).mpr (Or.inl beyond)
  have later {α : Type} {answer : Except ChangeError α} {next : α → Except ChangeError Settings}
      {value : α} (read : answer = .ok value) (beyond : FailsWith .range (next value)) :
      FailsWith .range (answer >>= next) :=
    (failsWith_bind _ _).mpr (Or.inr ⟨value, read, beyond⟩)
  have duration {name : String} {value : Value} (beyond : BeyondRange value) :
      FailsWith .range (readDuration name value) := (readDuration_range_iff name value).mpr beyond
  have integer {name : String} {value : Value}
      (unshown : Unshown (Field.strictInteger? value) value) :
      FailsWith .range (readInteger name value) := by simp [unshown]
  have number {name : String} {value : Value}
      (unshown : Unshown (Field.strictNumber? value) value) :
      FailsWith .range (readNumber name value) := by simp [unshown]
  cases change with
  | delay value => exact early (duration beyond)
  | delayRange low high =>
      rcases beyond with beyond | ⟨⟨delayMin, read⟩, beyond⟩
      · exact early (duration beyond)
      · exact later read (early (duration beyond))
  | backoff value cap rate =>
      rcases beyond with beyond | ⟨⟨delay, read⟩, beyond | ⟨⟨maxDelay, readCap⟩, unshown⟩⟩
      · exact early (duration beyond)
      · exact later read (early (duration beyond))
      · exact later read (later readCap (early (number unshown)))
  | jitter value => exact early (duration beyond)
  | jitterFactor value => exact early (number beyond)
  | maxDuration value => exact early (duration beyond)
  | maxRetries value => exact early (integer beyond)
  | maxAttempts value => exact early (integer beyond)
  | abortOn failureTypes =>
      have given : failureTypes.isEmpty = false := by
        obtain ⟨before, value, after, rfl, _⟩ := beyond
        simp
      exact later (if_pos given) (early ((readErrorTypes_range_iff failureTypes).mpr beyond))
  | _ => exact beyond.elim

theorem change_of_overshadowed (hidden : change.Overshadowed settings) (tag : Nat) :
    settings.change tag change = .error (.state .delayNotBelowMaxDuration) := by
  cases change with
  | backoff value cap rate =>
      obtain ⟨delay, read, maxDelay, readCap, factor, readFactor, positive, above, -⟩ := hidden
      simp [Settings.change, withBackoff, read, readCap, readFactor, bind, Except.bind,
        demandArgument, demandState, demand, positive, above]
  | _ => exact hidden.elim

section Unfaulted

variable {name : String} {value low high cap rate : Value}

/-- Whatever comes after, a computation that does not start with a fault reads its argument. -/
theorem exists_of_not_fails {α : Type} {answer : Except ChangeError α}
    {next : α → Except ChangeError Settings}
    (refused : (∀ value, answer ≠ .ok value) → FailsWith .argument answer)
    (fine : ¬ FailsWith .argument (answer >>= next)) : ∃ value, answer = .ok value := by
  by_contra unread
  exact fine ((failsWith_bind _ _).mpr (Or.inl (refused (not_exists.mp unread))))

theorem exists_duration {next : Duration → Except ChangeError Settings}
    (inRange : ¬ BeyondRange value)
    (fine : ¬ FailsWith .argument (readDuration name value >>= next)) :
    ∃ duration, readDuration name value = .ok duration :=
  exists_of_not_fails (fun unread => by simp [unread, inRange]) fine

theorem exists_integer {next : Int → Except ChangeError Settings}
    (shown : ¬ Unshown (Field.strictInteger? value) value)
    (fine : ¬ FailsWith .argument (readInteger name value >>= next)) :
    ∃ number, readInteger name value = .ok number :=
  exists_of_not_fails (fun unread => by simp [unread, shown]) fine

theorem exists_number {next : Binary64 → Except ChangeError Settings}
    (shown : ¬ Unshown (Field.strictNumber? value) value)
    (fine : ¬ FailsWith .argument (readNumber name value >>= next)) :
    ∃ number, readNumber name value = .ok number :=
  exists_of_not_fails (fun unread => by simp [unread, shown]) fine

theorem not_fails_next {α : Type} {first : Except ChangeError α} {value : α}
    {next : α → Except ChangeError Settings} (read : first = .ok value)
    (fine : ¬ FailsWith kind (first >>= next)) : ¬ FailsWith kind (next value) :=
  fun fails => fine ((failsWith_bind _ _).mpr (Or.inr ⟨value, read, fails⟩))

theorem asks_delayRange_of_not_fails (inRange : ¬ (Change.delayRange low high).OutOfRange)
    (fine : ¬ FailsWith .argument (settings.withDelayRange low high)) :
    ∃ request, (Change.delayRange low high).Asks tag request := by
  obtain ⟨lowInRange, highInRange⟩ := not_or.mp inRange
  obtain ⟨delayMin, readMin⟩ := exists_duration lowInRange fine
  have highInRange : ¬ BeyondRange high := fun beyond => highInRange ⟨⟨delayMin, readMin⟩, beyond⟩
  have fine' := not_fails_next readMin fine
  obtain ⟨delayMax, readMax⟩ := exists_duration highInRange fine'
  have ordered : .zero < delayMin ∧ .zero < delayMax ∧ delayMin < delayMax := by
    by_contra flawed
    exact fine (by simp [withDelayRange, readMin, readMax]; tauto)
  exact ⟨_, .delayRange readMin readMax ordered.1 ordered.2.1 ordered.2.2⟩

theorem asks_backoff_of_not_fails (inRange : ¬ (Change.backoff value cap rate).OutOfRange)
    (visible : ¬ (Change.backoff value cap rate).Overshadowed settings)
    (fine : ¬ FailsWith .argument (settings.withBackoff value cap rate)) :
    ∃ request, (Change.backoff value cap rate).Asks tag request := by
  obtain ⟨valueInRange, others⟩ := not_or.mp inRange
  obtain ⟨delay, readDelay⟩ := exists_duration valueInRange fine
  obtain ⟨capInRange, shown⟩ := not_or.mp fun beyond => others ⟨⟨delay, readDelay⟩, beyond⟩
  have fine' := not_fails_next readDelay fine
  obtain ⟨maxDelay, readCap⟩ := exists_duration capInRange fine'
  have shown : ¬ Unshown (Field.strictNumber? rate) rate := fun unshown =>
    shown ⟨⟨maxDelay, readCap⟩, unshown⟩
  have fine'' := not_fails_next readCap fine'
  obtain ⟨factor, readFactor⟩ := exists_number shown fine''
  have positive : .zero < delay := by
    by_contra flawed
    exact fine (by simp [withBackoff, readDelay, readCap, readFactor, flawed])
  have growing : delay < maxDelay ∧ Binary64.ofInt 1 < factor := by
    by_contra flawed
    -- What is wrong here is either looked at or overshadowed by the limit on the whole time.
    by_cases room : below delay settings.maxDuration
    · have faulted : delay < maxDelay → ¬ Binary64.ofInt 1 < factor := not_and.mp flawed
      by_cases increasing : delay < maxDelay
      · exact fine (by
          simp [withBackoff, readDelay, readCap, readFactor, positive, room, increasing,
            faulted increasing])
      · exact fine (by
          simp [withBackoff, readDelay, readCap, readFactor, positive, room, increasing])
    · exact visible
        ⟨delay, readDelay, maxDelay, readCap, factor, readFactor, positive, room, flawed⟩
  exact ⟨_, .backoff readDelay readCap readFactor positive growing.1 growing.2⟩

/-- A change that could fail in no other way, and does not fail because of its arguments, asks for
something. -/
theorem asks_of_not_fails {made : Nat} (inRange : ¬ change.OutOfRange)
    (visible : ¬ change.Overshadowed settings)
    (fine : ¬ FailsWith .argument (settings.change made change)) :
    ∃ request, change.Asks tag request := by
  cases change with
  | delay value =>
      obtain ⟨delay, read⟩ := exists_duration inRange fine
      have positive : .zero < delay := by
        by_contra flawed
        exact fine (by simp [Settings.change, withDelay, read, flawed])
      exact ⟨_, .delay read positive⟩
  | delayRange low high => exact asks_delayRange_of_not_fails inRange fine
  | backoff value cap rate => exact asks_backoff_of_not_fails inRange visible fine
  | jitter value =>
      obtain ⟨jitter, read⟩ := exists_duration inRange fine
      have positive : .zero < jitter := by
        by_contra flawed
        exact fine (by simp [Settings.change, withJitter, read, flawed])
      exact ⟨_, .jitter read positive⟩
  | jitterFactor value =>
      obtain ⟨factor, read⟩ := exists_number inRange fine
      have within : Binary64.ofInt 0 ≤ factor ∧ factor ≤ Binary64.ofInt 1 := by
        by_contra flawed
        exact fine (by simpa [Settings.change, withJitterFactor, read] using not_and.mp flawed)
      exact ⟨_, .jitterFactor read within⟩
  | maxDuration value =>
      obtain ⟨limit, read⟩ := exists_duration inRange fine
      have nonnegative : .zero ≤ limit := by
        by_contra flawed
        exact fine (by simp [Settings.change, withMaxDuration, read, flawed])
      exact ⟨_, .maxDuration read nonnegative⟩
  | maxRetries value =>
      obtain ⟨retries, read⟩ := exists_integer inRange fine
      have enough : -1 ≤ retries := by
        by_contra flawed
        exact fine (by simpa [Settings.change, withMaxRetries, read] using flawed)
      exact ⟨_, .maxRetries read enough⟩
  | maxAttempts value =>
      obtain ⟨attempts, read⟩ := exists_integer inRange fine
      obtain ⟨notZero, enough⟩ : ¬ attempts = 0 ∧ (¬ attempts = 0 → -1 ≤ attempts) := by
        simpa [Settings.change, withMaxAttempts, read] using fine
      exact ⟨_, .maxAttempts read notZero (enough notZero)⟩
  | abortOn failureTypes =>
      have shown : ¬ UnshownAmong failureTypes := inRange
      obtain ⟨given, read⟩ : ¬ failureTypes = [] ∧
          (¬ failureTypes = [] →
            ∃ errorClasses, readErrorTypes failureTypes = .ok errorClasses) := by
        simpa [Settings.change, abortOn, shown] using fine
      obtain ⟨errorClasses, read⟩ := read given
      exact ⟨_, .abortOn given read⟩
  | abortOnFailureIf argument =>
      obtain ⟨predicate, read⟩ : ∃ predicate, readPredicate argument = .ok predicate := by
        simpa [Settings.change] using fine
      exact ⟨_, .abortOnFailureIf read⟩
  | abortIf argument =>
      obtain ⟨predicate, read⟩ : ∃ predicate, readPredicate argument = .ok predicate := by
        simpa [Settings.change] using fine
      exact ⟨_, .abortIf read⟩
  | abortIfResult argument =>
      obtain ⟨predicate, read⟩ : ∃ predicate, readPredicate argument = .ok predicate := by
        simpa [Settings.change] using fine
      exact ⟨_, .abortIfResult read⟩
  | abortWhen result objects => exact ⟨_, .abortWhen result objects⟩
  | handle occasion argument =>
      obtain ⟨handler, read⟩ : ∃ handler, readHandler argument = .ok handler := by
        simpa [Settings.change] using fine
      exact ⟨_, .handle read⟩

theorem fails_of_not_suitable (tag : Nat) (unsuitable : ¬ change.Suitable)
    (inRange : ¬ change.OutOfRange) (visible : ¬ change.Overshadowed settings) :
    FailsWith .argument (settings.change tag change) := by
  by_contra fine
  exact unsuitable fun _ => asks_of_not_fails inRange visible fine

end Unfaulted

theorem fails_argument_iff (tag : Nat) :
    FailsWith .argument (settings.change tag change) ↔
      ¬ change.Suitable ∧ ¬ change.OutOfRange ∧ ¬ change.Overshadowed settings := by
  constructor
  · intro fails
    refine ⟨fun suitable => ?_, fun beyond => ?_, fun hidden => ?_⟩
    · obtain ⟨request, asks⟩ := suitable tag
      exact not_fails_of_asks asks (by decide) tag fails
    · cases fails.unique (fails_of_outOfRange beyond tag)
    · rw [change_of_overshadowed hidden tag] at fails
      cases (failsWith_error _).mp fails
  · rintro ⟨unsuitable, inRange, visible⟩
    exact fails_of_not_suitable tag unsuitable inRange visible

theorem fails_range_iff (tag : Nat) :
    FailsWith .range (settings.change tag change) ↔ change.OutOfRange := by
  refine ⟨fun fails => ?_, fun beyond => fails_of_outOfRange beyond tag⟩
  by_contra inRange
  have visible : ¬ change.Overshadowed settings := by
    intro hidden
    rw [change_of_overshadowed hidden tag] at fails
    cases (failsWith_error _).mp fails
  by_cases suitable : change.Suitable
  · obtain ⟨request, asks⟩ := suitable tag
    exact not_fails_of_asks asks (by decide) tag fails
  · cases fails.unique (fails_of_not_suitable tag suitable inRange visible)

theorem change_inRange (taken : ¬ change.OutOfRange) (settings : Settings) (tag : Nat) :
    InRange (settings.change tag change) :=
  (inRange_iff_not_fails _).mpr (mt (fails_range_iff tag).mp taken)

/-- On settings without anything set, the same arguments are refused as arguments exactly if the
conflict came before a fault of theirs. -/
theorem fresh_fails_iff_of_fails_state (fails : FailsWith .state (settings.change tag change)) :
    FailsWith .argument (({} : Settings).change tag change) ↔ change.Overshadowed settings := by
  have inRange : ¬ change.OutOfRange := fun beyond => by
    cases fails.unique (fails_of_outOfRange beyond tag)
  rw [fails_argument_iff]
  constructor
  · rintro ⟨unsuitable, -, -⟩
    by_contra visible
    cases fails.unique (fails_of_not_suitable tag unsuitable inRange visible)
  · exact fun hidden =>
      ⟨hidden.not_suitable, inRange, not_overshadowed_of_unlimited rfl change⟩

/-- A change fails because of its arguments exactly if they are unsuitable, unless one is reached
before that is out of range or cannot be shown, or the limit on the whole time overshadows the
fault. Whether one is out of range depends on the arguments alone. A conflict is reported for
arguments that would be refused without anything set only if it overshadows their fault. -/
theorem argument_faults_iff (settings : Settings) (tag : Nat) (change : Change) :
    (FailsWith .argument (settings.change tag change) ↔
      ¬ change.Suitable ∧ ¬ change.OutOfRange ∧ ¬ change.Overshadowed settings) ∧
    (FailsWith .range (settings.change tag change) ↔ change.OutOfRange) ∧
    (change.Overshadowed settings →
      settings.change tag change = .error (.state .delayNotBelowMaxDuration)) ∧
    (FailsWith .state (settings.change tag change) →
      (FailsWith .argument (({} : Settings).change tag change) ↔ change.Overshadowed settings)) :=
  ⟨fails_argument_iff tag, fails_range_iff tag, fun hidden => change_of_overshadowed hidden tag,
    fresh_fails_iff_of_fails_state⟩

/-- A delay that grows from five seconds to three is a fault of the arguments, but not after the
whole time is limited to one second. A delay below the least duration is no fault of an argument. -/
theorem argument_fault_overshadowed :
    (∃ limited, ({} : Settings).change 0 (.maxDuration (.int 1)) = .ok limited ∧
      limited.change 1 (.backoff (.int 5) (.int 3) (.float (Binary64.ofInt 2))) =
        .error (.state .delayNotBelowMaxDuration)) ∧
    ({} : Settings).change 1 (.backoff (.int 5) (.int 3) (.float (Binary64.ofInt 2))) =
      .error (.argument .delayNotBelowMaxDelay) ∧
    ¬ (Change.delay (.int (-86399999913601))).Suitable ∧
    FailsWith .range (({} : Settings).change 0 (.delay (.int (-86399999913601)))) := by
  refine ⟨⟨_, rfl, rfl⟩, rfl, ?_, ?_⟩
  · intro suitable
    obtain ⟨request, ⟨⟩⟩ := suitable 0
    rename_i read
    cases read
  · exact ⟨_, rfl, rfl⟩

end Settings
end Reattempt
