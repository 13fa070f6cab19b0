import Mathlib.Tactic
import Reattempt.Proofs.Builder.ArgumentFaults
import Reattempt.Proofs.Builder.Completeness

/-!
# The order of changes

Each of two settings that may conflict is checked against the other when it is set, so the change
that comes last finds the conflict. If no two changes are about the same concern, and a jitter does
not come before the delays that it has to be within, then all of them are accepted in one order
exactly if they are in any other, and the settings are the same (`changes_in_any_order`): either
way it is the settings with all that is asked for that have to be consistent.
-/

set_option autoImplicit false

namespace Reattempt

/-! ## Concerns -/

inductive Concern where
  | delays
  | jitter
  | maxDuration
  | retries
  | observation
deriving DecidableEq

def Change.concern : Change → Concern
  | .delay _ | .delayRange _ _ | .backoff _ _ _ => .delays
  | .jitter _ | .jitterFactor _ => .jitter
  | .maxDuration _ => .maxDuration
  | .maxRetries _ | .maxAttempts _ => .retries
  | .abortOn _ | .abortOnFailureIf _ | .abortIf _ | .abortIfResult _ |
    .abortWhen _ _ | .handle _ _ => .observation

def Request.concern : Request → Concern
  | .delay _ | .delayRange _ _ | .backoff _ _ _ => .delays
  | .jitter _ | .jitterFactor _ => .jitter
  | .maxDuration _ => .maxDuration
  | .maxRetries _ => .retries
  | .condition _ | .handler _ _ => .observation

/-- Abort conditions and handlers are not checked against anything. -/
def Change.observes (change : Change) : Bool := change.concern = .observation

def Request.observes (request : Request) : Bool := request.concern = .observation

theorem Change.Asks.concern_eq {tag : Nat} {change : Change} {request : Request}
    (asks : change.Asks tag request) : request.concern = change.concern := by
  cases asks <;> rfl

theorem Change.Asks.of_jitter {tag : Nat} {change : Change} {jitter : Duration}
    (asks : change.Asks tag (.jitter jitter)) : ∃ value, change = .jitter value := by
  cases asks with
  | @jitter value => exact ⟨value, rfl⟩

namespace Settings

def without (settings : Settings) : Concern → Settings
  | .delays =>
      { settings with
        delay := .zero, delayMin := none, delayMax := none, maxDelay := none,
        delayFactor := Binary64.ofInt 2 }
  | .jitter => { settings with jitter := none, jitterFactor := none }
  | .maxDuration => { settings with maxDuration := none }
  | .retries => { settings with maxRetries := 2 }
  | .observation => { settings with abortConditions := [], handlers := {} }

variable {settings changed : Settings} {request other : Request} {concern : Concern}

theorem without_meet (settings : Settings) (request : Request) :
    (settings.meet request).without request.concern = settings.without request.concern := by
  cases request <;> rfl

theorem without_meet_of_ne (apart : request.concern ≠ concern) :
    (settings.meet request).without concern = (settings.without concern).meet request := by
  cases request <;> cases concern <;>
    first
    | exact absurd rfl apart
    | dsimp only [without, meet, addCondition]

theorem without_standard (concern : Concern) : ({} : Settings).without concern = {} := by
  cases concern <;> dsimp only [without]

theorem meet_comm (apart : request.concern ≠ other.concern) (settings : Settings) :
    (settings.meet request).meet other = (settings.meet other).meet request := by
  cases request <;> cases other <;> first | exact absurd rfl apart | rfl

/-! ## Consistency without a concern -/

theorem Consistent.withoutDelays (consistent : settings.Consistent)
    (noJitter : settings.jitter = none) : (settings.without .delays).Consistent :=
  { consistent with
    factor_above_one := standard_consistent.factor_above_one
    delay_not_negative := standard_consistent.delay_not_negative
    bounds_together := rfl
    bounds_increasing := by simp [without]
    random_alone := by simp [without]
    backoff_increasing := by simp [without]
    jitter_within_delay := by simp [without, noJitter]
    delay_below_maxDuration := fun limit _ => Or.inl rfl
    delayMax_below_maxDuration := by simp [without] }

theorem consistent_iff_unobserved (settings : Settings) :
    settings.Consistent ↔ (settings.without .observation).Consistent :=
  ⟨fun consistent => { consistent with }, fun consistent => { consistent with }⟩

/-- A jitter stands only as long as the delays do. -/
theorem Consistent.without (consistent : settings.Consistent) (concern : Concern)
    (noJitter : concern = .delays → settings.jitter = none) :
    (settings.without concern).Consistent := by
  cases concern with
  | delays => exact consistent.withoutDelays (noJitter rfl)
  | jitter => exact consistent.withoutJitter.withoutJitterFactor
  | maxDuration => exact consistent.withoutMaxDuration
  | retries => exact consistent.withoutLimits
  | observation => exact (consistent_iff_unobserved settings).mp consistent

/-! ## One change -/

/-- A change is only accepted if its arguments ask for something. -/
theorem asks_of_accepted {change : Change} {tag made : Nat}
    (accepted : settings.change made change = .ok changed) :
    ∃ request, change.Asks tag request := by
  refine asks_of_not_fails ?_ ?_ (accepted ▸ Change.failsWith_ok changed)
  · intro beyond
    exact Change.failsWith_ok changed (accepted ▸ fails_of_outOfRange beyond made)
  · intro hidden
    cases accepted.symm.trans (change_of_overshadowed hidden made)

/-- Whoever observes is never in the way. -/
theorem change_eq_meet_of_observation {change : Change} {tag : Nat}
    (asks : change.Asks tag request) (about : request.concern = .observation) :
    settings.change tag change = .ok (settings.meet request) := by
  cases asks with
  | abortOn given read => exact (abortOn_eq_ok_iff settings _ tag _).mpr ⟨given, _, read, rfl⟩
  | abortOnFailureIf read => simp only [Settings.change, read, Except.map, meet, addRule]
  | abortIf read => simp only [Settings.change, read, Except.map, meet]
  | abortIfResult read => simp only [Settings.change, read, Except.map, meet, addRule]
  | abortWhen result objects => rfl
  | handle read => simp only [Settings.change, read, Except.map, meet]
  | _ => cases about

theorem meet_consistent_of_observation (about : request.concern = .observation) :
    (settings.meet request).Consistent ↔ settings.Consistent := by
  rw [consistent_iff_unobserved (settings.meet request), ← about, without_meet, about,
    ← consistent_iff_unobserved]

/-- A change about something that is not set yet is accepted exactly if it leads to consistent
settings. -/
theorem change_eq_ok_iff_meet {change : Change} {tag : Nat} (consistent : settings.Consistent)
    (asks : change.Asks tag request)
    (unset : request.concern ≠ .observation → settings.without request.concern = settings) :
    settings.change tag change = .ok changed ↔
      settings.meet request = changed ∧ changed.Consistent := by
  by_cases about : request.concern = .observation
  · rw [change_eq_meet_of_observation asks about, Except.ok.injEq]
    refine ⟨?_, And.left⟩
    rintro rfl
    exact ⟨rfl, (meet_consistent_of_observation about).mpr consistent⟩
  · have unset := unset about
    cases asks with
    | delay read positive =>
        refine withDelay_eq_ok_iff_consistent consistent read ?_
          (congrArg Settings.delayMin unset).symm (congrArg Settings.maxDelay unset).symm
        rintro rfl
        exact absurd positive (by decide)
    | delayRange readMin readMax =>
        exact withDelayRange_eq_ok_iff_consistent consistent readMin readMax
    | backoff readDelay readCap readFactor =>
        exact withBackoff_eq_ok_iff_consistent consistent readDelay readCap readFactor
          (congrArg Settings.delay unset).symm
    | jitter read =>
        have noFactor : settings.jitterFactor = none :=
          (congrArg Settings.jitterFactor unset).symm
        simpa only [Settings.change, meet, noFactor] using
          withJitter_eq_ok_iff_consistent consistent read noFactor
    | jitterFactor read => exact withJitterFactor_eq_ok_iff_consistent consistent read
    | maxDuration read => exact withMaxDuration_eq_ok_iff_consistent consistent read
    | maxRetries read => exact withMaxRetries_eq_ok_iff_consistent consistent read
    | maxAttempts read notZero =>
        exact withMaxAttempts_eq_ok_iff_consistent consistent read notZero
    | _ => exact absurd rfl about

/-! ## Requests met one after another -/

section Meeting

variable {requests reordered : List Request}

theorem foldl_meet_without (apart : ∀ request ∈ requests, request.concern ≠ concern) :
    ∀ settings : Settings,
      (requests.foldl meet settings).without concern =
        requests.foldl meet (settings.without concern) := by
  induction requests with
  | nil => exact fun _ => rfl
  | cons request requests ih =>
      intro settings
      rw [List.foldl_cons, ih fun other member => apart other (List.mem_cons_of_mem _ member),
        without_meet_of_ne (apart request List.mem_cons_self), List.foldl_cons]

/-- What no request is about is as it is at the start. -/
theorem foldl_meet_unset (apart : ∀ request ∈ requests, request.concern ≠ concern) :
    (requests.foldl meet {}).without concern = requests.foldl meet {} := by
  rw [foldl_meet_without apart, without_standard]

theorem foldl_meet_jitter (unjittered : ∀ jitter, .jitter jitter ∉ requests) :
    ∀ settings : Settings, (requests.foldl meet settings).jitter = settings.jitter := by
  induction requests with
  | nil => exact fun _ => rfl
  | cons request requests ih =>
      intro settings
      rw [List.foldl_cons,
        ih fun jitter member => unjittered jitter (List.mem_cons_of_mem _ member)]
      cases request with
      | jitter jitter => exact absurd List.mem_cons_self (unjittered jitter)
      | _ => rfl

theorem foldl_meet_meet (apart : ∀ other ∈ requests, request.concern ≠ other.concern) :
    ∀ settings : Settings,
      requests.foldl meet (settings.meet request) =
        (requests.foldl meet settings).meet request := by
  induction requests with
  | nil => exact fun _ => rfl
  | cons other requests ih =>
      intro settings
      rw [List.foldl_cons, meet_comm (apart other List.mem_cons_self),
        ih fun later member => apart later (List.mem_cons_of_mem _ member), List.foldl_cons]

/-- Consistent settings were consistent before the last request, if that one set something new and
no jitter was there before the delays. -/
theorem foldl_meet_consistent
    (apart : request.concern ≠ .observation → ∀ other ∈ requests, other.concern ≠ request.concern)
    (unjittered : request.concern = .delays → ∀ jitter, .jitter jitter ∉ requests)
    (reached : ((requests.foldl meet {}).meet request).Consistent) :
    (requests.foldl meet {}).Consistent := by
  by_cases about : request.concern = .observation
  · exact (meet_consistent_of_observation about).mp reached
  · have takenBack := reached.without request.concern fun delays => by
      cases request with
      | delay | delayRange | backoff => exact foldl_meet_jitter (unjittered delays) {}
      | _ => cases delays
    rwa [without_meet, foldl_meet_unset (apart about)] at takenBack

/-- What is only observed can wait until everything is set. -/
theorem foldl_meet_observed_last (requests : List Request) : ∀ settings : Settings,
    requests.foldl meet settings =
      (requests.filter Request.observes).foldl meet
        ((requests.filter (!·.observes)).foldl meet settings) := by
  induction requests with
  | nil => exact fun _ => rfl
  | cons request requests ih =>
      intro settings
      by_cases about : request.observes = true
      · have apart : ∀ other ∈ requests.filter (!·.observes), request.concern ≠ other.concern := by
          intro other member same
          have settles := (List.mem_filter.mp member).2
          rw [Request.observes, ← same] at settles
          rw [Request.observes] at about
          simp [about] at settles
        rw [List.foldl_cons, ih, foldl_meet_meet apart, List.filter_cons_of_pos about,
          List.filter_cons_of_neg (by simp [about]), List.foldl_cons]
      · rw [List.foldl_cons, ih, List.filter_cons_of_neg about,
          List.filter_cons_of_pos (by simp [about]), List.foldl_cons]

theorem foldl_meet_observers (all : ∀ request ∈ requests, request.observes = true) :
    ∀ settings : Settings,
      (requests.foldl meet settings).without .observation = settings.without .observation := by
  induction requests with
  | nil => exact fun _ => rfl
  | cons request requests ih =>
      intro settings
      have about : request.concern = .observation :=
        of_decide_eq_true (all request List.mem_cons_self)
      rw [List.foldl_cons, ih fun other member => all other (List.mem_cons_of_mem _ member),
        ← about, without_meet]

theorem foldl_meet_perm (same : requests.Perm reordered)
    (once : requests.Pairwise fun first later =>
      first.concern = later.concern → first.concern = .observation) (settings : Settings) :
    (requests.filter (!·.observes)).foldl meet settings =
      (reordered.filter (!·.observes)).foldl meet settings := by
  have apart : (requests.filter (!·.observes)).Pairwise
      fun first later => first.concern ≠ later.concern := by
    refine (once.filter _).imp_of_mem fun member _ alone sameConcern => ?_
    have settles := (List.mem_filter.mp member).2
    simp [Request.observes, alone sameConcern] at settles
  have commute := List.Pairwise.forall_of_forall_of_flip
    (R := fun first later => ∀ settings : Settings,
      (settings.meet first).meet later = (settings.meet later).meet first)
    (fun _ _ _ => rfl) (apart.imp meet_comm) (apart.imp fun different => meet_comm different.symm)
  exact (same.filter _).foldl_eq' (fun _ first _ later => commute first later) settings

/-- What only observes can be left out if it is not looked at. -/
theorem foldl_meet_unobserved (requests : List Request) (settings : Settings) :
    (requests.foldl meet settings).without .observation =
      ((requests.filter (!·.observes)).foldl meet settings).without .observation := by
  rw [foldl_meet_observed_last]
  exact foldl_meet_observers (fun _ member => (List.mem_filter.mp member).2) _

end Meeting

/-! ## Calls one after another -/

def changeAll (settings : Settings) (calls : List (Nat × Change)) : Except ChangeError Settings :=
  calls.foldlM (fun settings call => settings.change call.1 call.2) settings

/-- Apart from those that only observe, no two calls are about the same concern. -/
def OnceEach (calls : List (Nat × Change)) : Prop :=
  calls.Pairwise fun first later =>
    first.2.concern = later.2.concern → first.2.concern = .observation

def JitterAfterDelays (calls : List (Nat × Change)) : Prop :=
  calls.Pairwise fun first later =>
    ∀ jitter, first.2 = .jitter jitter → later.2.concern ≠ .delays

section Calls

variable {calls : List (Nat × Change)} {call : Nat × Change} {asked : Nat × Change → Request}

theorem changeAll_concat (settings changed : Settings) (calls : List (Nat × Change))
    (call : Nat × Change) :
    settings.changeAll (calls ++ [call]) = .ok changed ↔
      ∃ before, settings.changeAll calls = .ok before ∧
        before.change call.1 call.2 = .ok changed := by
  simp only [changeAll, List.foldlM_append, List.foldlM_cons, List.foldlM_nil, bind_eq_ok_iff,
    pure, Except.pure, Except.ok.injEq, exists_eq_right]

theorem asks_of_changeAll (calls : List (Nat × Change)) : ∀ settings changed : Settings,
    settings.changeAll calls = .ok changed →
      ∀ call ∈ calls, ∃ request, call.2.Asks call.1 request := by
  induction calls using List.reverseRecOn with
  | nil => simp
  | append_singleton calls call ih =>
      intro settings changed accepted other member
      obtain ⟨before, early, last⟩ := (changeAll_concat settings changed calls call).mp accepted
      rcases List.mem_append.mp member with former | latest
      · exact ih settings before early other former
      · cases List.mem_singleton.mp latest
        exact asks_of_accepted last

theorem concern_ne_of_once (asks : ∀ other ∈ calls ++ [call], other.2.Asks other.1 (asked other))
    (once : OnceEach (calls ++ [call])) (settles : (asked call).concern ≠ .observation) :
    ∀ request ∈ calls.map asked, request.concern ≠ (asked call).concern := by
  intro request member same
  obtain ⟨other, former, rfl⟩ := List.mem_map.mp member
  have latest : call ∈ [call] := List.mem_singleton_self call
  rw [(asks call (List.mem_append_right _ latest)).concern_eq] at same settles
  rw [(asks other (List.mem_append_left _ former)).concern_eq] at same
  exact settles (same ▸ (List.pairwise_append.mp once).2.2 other former call latest same)

theorem unjittered_of_jitterAfterDelays
    (asks : ∀ other ∈ calls ++ [call], other.2.Asks other.1 (asked other))
    (jitterLast : JitterAfterDelays (calls ++ [call])) (delays : (asked call).concern = .delays) :
    ∀ jitter, .jitter jitter ∉ calls.map asked := by
  intro jitter member
  obtain ⟨other, former, given⟩ := List.mem_map.mp member
  have asksJitter := asks other (List.mem_append_left _ former)
  rw [given] at asksJitter
  obtain ⟨value, isJitter⟩ := asksJitter.of_jitter
  have latest : call ∈ [call] := List.mem_singleton_self call
  rw [(asks call (List.mem_append_right _ latest)).concern_eq] at delays
  exact (List.pairwise_append.mp jitterLast).2.2 other former call latest value isJitter delays

/-- The changes are accepted exactly if all that they ask for makes consistent settings. -/
theorem changeAll_eq_ok_iff (asks : ∀ call ∈ calls, call.2.Asks call.1 (asked call))
    (once : OnceEach calls) (jitterLast : JitterAfterDelays calls) :
    ∀ changed : Settings, changeAll {} calls = .ok changed ↔
      (calls.map asked).foldl meet {} = changed ∧ changed.Consistent := by
  induction calls using List.reverseRecOn with
  | nil =>
      intro changed
      constructor
      · intro unchanged
        cases Except.ok.inj unchanged
        exact ⟨rfl, standard_consistent⟩
      · rintro ⟨rfl, -⟩
        rfl
  | append_singleton calls call ih =>
      intro changed
      have early := ih (fun other member => asks other (List.mem_append_left _ member))
        (List.pairwise_append.mp once).1 (List.pairwise_append.mp jitterLast).1
      have last := asks call (List.mem_append_right _ (List.mem_singleton_self call))
      have apart := concern_ne_of_once asks once
      have unset := fun settles => foldl_meet_unset (apart settles)
      rw [changeAll_concat, List.map_append, List.foldl_append]
      constructor
      · rintro ⟨before, accepted, latest⟩
        obtain ⟨rfl, consistent⟩ := (early before).mp accepted
        exact (change_eq_ok_iff_meet consistent last unset).mp latest
      · rintro ⟨rfl, reached⟩
        have consistent := foldl_meet_consistent apart
          (unjittered_of_jitterAfterDelays asks jitterLast) reached
        exact ⟨_, (early _).mpr ⟨rfl, consistent⟩,
          (change_eq_ok_iff_meet consistent last unset).mpr ⟨rfl, reached⟩⟩

theorem filter_observes_map (asks : ∀ call ∈ calls, call.2.Asks call.1 (asked call)) :
    (calls.map asked).filter Request.observes =
      (calls.filter fun call => call.2.observes).map asked := by
  rw [List.filter_map]
  refine congrArg _ (List.filter_congr fun call member => ?_)
  simp only [Function.comp, Request.observes, Change.observes, (asks call member).concern_eq]

end Calls

variable {calls reordered : List (Nat × Change)}

theorem OnceEach.perm (once : OnceEach calls) (same : calls.Perm reordered) :
    OnceEach reordered := by
  refine (same.pairwise_iff fun {first later} apart about => ?_).mp once
  rw [about]
  exact apart about.symm

/-- Calls about different concerns are all accepted in one order exactly if they are in any other
one, with the same settings, as long as a jitter comes after the delays. Those that only observe may
be among them, and as often as they like. They are found in the settings in the order of their
calls. -/
theorem changes_in_any_order (same : calls.Perm reordered) (once : OnceEach calls)
    (jitterLast : JitterAfterDelays calls) (jitterStillLast : JitterAfterDelays reordered) :
    ((∃ settings, changeAll {} calls = .ok settings) ↔
      ∃ settings, changeAll {} reordered = .ok settings) ∧
    ∀ settings changed, changeAll {} calls = .ok settings →
      changeAll {} reordered = .ok changed →
        settings.without .observation = changed.without .observation ∧
        ((calls.filter fun call => call.2.observes) =
            (reordered.filter fun call => call.2.observes) →
          settings = changed) := by
  by_cases suitable : ∀ call ∈ calls, ∃ request, call.2.Asks call.1 request
  · have : Nonempty Request := ⟨.maxRetries 2⟩
    choose! asked asks using suitable
    have stillAsks : ∀ call ∈ reordered, call.2.Asks call.1 (asked call) :=
      fun call member => asks call (same.mem_iff.mpr member)
    have first := changeAll_eq_ok_iff asks once jitterLast
    have second := changeAll_eq_ok_iff stillAsks (once.perm same) jitterStillLast
    have apart : (calls.map asked).Pairwise fun first later =>
        first.concern = later.concern → first.concern = .observation := by
      refine List.pairwise_map.mpr (once.imp_of_mem fun {one other} early late apart => ?_)
      rwa [(asks one early).concern_eq, (asks other late).concern_eq]
    have settled := foldl_meet_perm (same.map asked) apart {}
    have unobserved : ((calls.map asked).foldl meet {}).without .observation =
        ((reordered.map asked).foldl meet {}).without .observation := by
      rw [foldl_meet_unobserved, settled, ← foldl_meet_unobserved]
    have consistent : ((calls.map asked).foldl meet {}).Consistent ↔
        ((reordered.map asked).foldl meet {}).Consistent := by
      rw [consistent_iff_unobserved, unobserved, ← consistent_iff_unobserved]
    constructor
    · simp only [first, second, exists_eq_left', consistent]
    · intro settings changed accepted reaccepted
      obtain ⟨rfl, -⟩ := (first settings).mp accepted
      obtain ⟨rfl, -⟩ := (second changed).mp reaccepted
      refine ⟨unobserved, fun inOrder => ?_⟩
      rw [foldl_meet_observed_last, settled, filter_observes_map asks, inOrder,
        ← filter_observes_map stillAsks, ← foldl_meet_observed_last]
  · have unsuitable {list : List (Nat × Change)} (members : ∀ call ∈ calls, call ∈ list)
        (settings : Settings) : changeAll {} list ≠ .ok settings :=
      fun accepted => suitable fun call member =>
        asks_of_changeAll list {} settings accepted call (members call member)
    have early := unsuitable fun _ => id
    have late := unsuitable fun call => same.mem_iff.mp
    refine ⟨⟨fun ⟨settings, accepted⟩ => absurd accepted (early settings),
      fun ⟨settings, accepted⟩ => absurd accepted (late settings)⟩, ?_⟩
    exact fun settings _ accepted _ => absurd accepted (early settings)

def jitteredCalls : List (Nat × Change) := [(0, .delay (.int 5)), (1, .jitter (.int 1))]

def limitCalls : List (Nat × Change) :=
  [(2, .maxDuration (.int 9)), (3, .abortWhen .null), (4, .maxAttempts (.int 7))]

/-- A delay and its jitter can be set before or after the limits and an abort condition. -/
theorem changes_in_any_order_of_limits :
    ∃ settings : Settings, changeAll {} (jitteredCalls ++ limitCalls) = .ok settings ∧
      changeAll {} (limitCalls ++ jitteredCalls) = .ok settings := by
  have same : (jitteredCalls ++ limitCalls).Perm (limitCalls ++ jitteredCalls) :=
    List.perm_append_comm
  obtain ⟨accepted, equal⟩ := changes_in_any_order same
    (by simp [OnceEach, jitteredCalls, limitCalls, Change.concern])
    (by simp [JitterAfterDelays, jitteredCalls, limitCalls, Change.concern])
    (by simp [JitterAfterDelays, jitteredCalls, limitCalls, Change.concern])
  obtain ⟨changed, reaccepted⟩ := accepted.mp ⟨_, rfl⟩
  have unchanged := (equal _ changed rfl reaccepted).2 rfl
  exact ⟨changed, unchanged ▸ rfl, reaccepted⟩

end Settings
end Reattempt
