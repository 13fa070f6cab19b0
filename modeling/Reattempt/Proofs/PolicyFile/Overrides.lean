import Mathlib.Tactic
import Reattempt.Proofs.PolicyFile.LoadFailures
import Reattempt.Proofs.PolicyFile.Reading
import Reattempt.Proofs.Yaml.Document

/-!
# What the environment changes

A section is read by looking up the names of its settings and by going through the keys that are no
names. Sections that agree in both are read alike (`readSection_congr`), and this is all that the
proofs here use of the reader. The load under an environment is the load of a file whose section was
edited by hand (`load_eq_load_edited`).
-/

set_option autoImplicit false

namespace Reattempt.PolicyFile

open Validation

variable {α : Type} {a b entries : Mapping} {name : String}

/-! ## Sections that are read alike -/

theorem field_congr (same : a.get? (.text name) = b.get? (.text name)) (standard : α)
    (read : Value → Except Field.Rejection α) :
    field a name standard read = field b name standard read := by
  unfold field
  rw [same]

theorem recordField_congr (same : a.get? (.text name) = b.get? (.text name)) (kind : String)
    (standIn : α) (read : Mapping → Validation α) :
    recordField a name kind standIn read = recordField b name kind standIn read := by
  unfold recordField
  rw [same]

theorem textsField_congr (same : a.get? (.text name) = b.get? (.text name)) :
    textsField a name = textsField b name := by
  unfold textsField
  rw [same]

/-- Entries under names of settings are no strays. -/
theorem noteStrays_without {names some : List String} (known : ∀ name ∈ some, name ∈ names)
    (entries : Mapping) : noteStrays names (entries.without some) = noteStrays names entries := by
  have setting {entry : Value × Value}
      (named : (some.any fun name => entry.1.isSame (.text name)) = true) :
      ∃ name ∈ names, entry.1 = .text name := by
    obtain ⟨name, member, same⟩ := List.any_eq_true.mp named
    exact ⟨name, known name member, (Value.isSame_text_iff _ _).mp same⟩
  have broken : (entries.without some).any (fun entry => isBroken entry.1) =
      entries.any fun entry => isBroken entry.1 := by
    unfold Mapping.without
    rw [List.any_filter]
    refine congrArg entries.any (funext fun entry => ?_)
    cases named : some.any fun name => entry.1.isSame (.text name) with
    | false => rfl
    | true =>
        obtain ⟨name, _, same⟩ := setting named
        rw [same]
        rfl
  have strays : (entries.without some).filterMap (fun entry => strayKey? names entry.1) =
      entries.filterMap fun entry => strayKey? names entry.1 := by
    unfold Mapping.without
    rw [List.filterMap_filter]
    refine congrFun (congrArg List.filterMap (funext fun entry => ?_)) entries
    cases named : some.any fun name => entry.1.isSame (.text name) with
    | false => rfl
    | true =>
        obtain ⟨name, member, same⟩ := setting named
        rw [same]
        simp [strayKey?, member]
  unfold noteStrays
  rw [broken, strays]

theorem readSettings_congr (settings : ∀ name ∈ sectionNames,
      a.get? (.text name) = b.get? (.text name))
    (strays : noteStrays sectionNames a = noteStrays sectionNames b) :
    readSettings a = readSettings b := by
  have same (name : String) (member : sectionNames.contains name = true) :
      a.get? (.text name) = b.get? (.text name) :=
    settings name (List.contains_iff_mem.mp member)
  unfold readSettings
  simp only [field_congr (same "max_retries" rfl), field_congr (same "max_attempts" rfl),
    field_congr (same "max_duration" rfl), field_congr (same "delay" rfl),
    recordField_congr (same "delay_range" rfl), recordField_congr (same "backoff" rfl),
    field_congr (same "jitter" rfl), field_congr (same "jitter_factor" rfl),
    textsField_congr (same "abort_on" rfl), strays]

def overridden : List String := ["max_retries", "max_attempts", "max_duration"]

theorem overridden_known : ∀ name ∈ overridden, name ∈ sectionNames := by decide

/-- Sections are read alike if they agree on the settings that the environment has a say in and on
their other entries. -/
theorem readSection_congr
    (settings : ∀ name ∈ overridden, a.get? (.text name) = b.get? (.text name))
    (others : a.without overridden = b.without overridden) : readSection a = readSection b := by
  have agree : ∀ name ∈ sectionNames, a.get? (.text name) = b.get? (.text name) := by
    intro name _
    by_cases has : name ∈ overridden
    · exact settings name has
    · rw [← Mapping.get?_without has a, others, Mapping.get?_without has b]
  have strays : noteStrays sectionNames a = noteStrays sectionNames b := by
    rw [← noteStrays_without overridden_known a, others, noteStrays_without overridden_known b]
  unfold readSection
  rw [readSettings_congr agree strays]

/-! ## Edited sections -/

/-- The edited section is the other one with its limits and its longest duration replaced by the
variables that are set, wherever they stand; everything else is the same and in the same order. -/
structure Edits (environment : Environment) (retry edited : Mapping) : Prop where
  maxRetries : edited.get? (.text "max_retries") =
    ((Environment.given environment.maxRetries).map Value.text <|>
      retry.get? (.text "max_retries"))
  maxAttempts : edited.get? (.text "max_attempts") =
    if (Environment.given environment.maxRetries).isSome then none
    else retry.get? (.text "max_attempts")
  maxDuration : edited.get? (.text "max_duration") =
    ((Environment.given environment.maxDuration).map Value.text <|>
      retry.get? (.text "max_duration"))
  others : edited.without overridden = retry.without overridden

theorem editLimits_edits (environment : Environment) (retry : Mapping) :
    Edits { environment with maxDuration := none } retry (environment.editLimits retry) := by
  unfold Environment.editLimits
  cases limit : Environment.given environment.maxRetries with
  | none => exact ⟨by simp [limit], by simp [limit], rfl, rfl⟩
  | some text =>
      refine ⟨?_, ?_, ?_, ?_⟩
      · rw [Mapping.get?_erase_of_ne _ (by decide), Mapping.get?_put_text, limit]
        rfl
      · rw [Mapping.get?_erase, limit]
        rfl
      · rw [Mapping.get?_erase_of_ne _ (by decide), Mapping.get?_put_of_ne _ _ (by decide)]
        rfl
      · rw [Mapping.without_erase (by decide), Mapping.without_put (by decide)]

theorem edit_edits (environment : Environment) (retry : Mapping) :
    Edits environment retry (environment.edit retry) := by
  obtain ⟨maxRetries, maxAttempts, maxDuration, others⟩ := editLimits_edits environment retry
  unfold Environment.edit Environment.editDuration
  cases longest : Environment.given environment.maxDuration with
  | none => exact ⟨maxRetries, maxAttempts, by rw [maxDuration, longest]; rfl, others⟩
  | some text =>
      refine ⟨?_, ?_, ?_, ?_⟩
      · rw [Mapping.get?_put_of_ne _ _ (by decide), maxRetries]
      · rw [Mapping.get?_put_of_ne _ _ (by decide), maxAttempts]
      · rw [Mapping.get?_put_text, longest]
        rfl
      · rw [Mapping.without_put (by decide), others]

theorem edit_distinct (environment : Environment) {retry : Mapping} (distinct : retry.Distinct) :
    (environment.edit retry).Distinct := by
  have limited : (environment.editLimits retry).Distinct := by
    unfold Environment.editLimits
    split
    · exact (distinct.put _ _).erase _
    · exact distinct
  unfold Environment.edit Environment.editDuration
  split
  · exact limited.put _ _
  · exact limited

/-- The section that the environment edits is read like one that was edited by hand. -/
theorem readSection_edit {environment : Environment} {retry edited : Mapping}
    (edits : Edits environment retry edited) :
    readSection (environment.edit retry) = readSection edited := by
  have own := edit_edits environment retry
  refine readSection_congr ?_ (own.others.trans edits.others.symm)
  simp only [overridden, List.forall_mem_cons, List.not_mem_nil, false_implies, implies_true,
    and_true]
  exact ⟨own.maxRetries.trans edits.maxRetries.symm,
    own.maxAttempts.trans edits.maxAttempts.symm, own.maxDuration.trans edits.maxDuration.symm⟩

/-- With both variables set, what the section has under their names has no effect. -/
theorem readSection_edit_of_given {environment : Environment} {retry other : Mapping}
    (limit : (Environment.given environment.maxRetries).isSome)
    (longest : (Environment.given environment.maxDuration).isSome)
    (others : other.without overridden = retry.without overridden) :
    readSection (environment.edit retry) = readSection (environment.edit other) := by
  obtain ⟨text, limit⟩ := Option.isSome_iff_exists.mp limit
  obtain ⟨text', longest⟩ := Option.isSome_iff_exists.mp longest
  obtain ⟨maxRetries, maxAttempts, maxDuration, same⟩ := edit_edits environment retry
  refine readSection_edit ⟨?_, ?_, ?_, ?_⟩
  · rw [(edit_edits environment other).maxRetries, limit]
    rfl
  · rw [(edit_edits environment other).maxAttempts, limit]
    rfl
  · rw [(edit_edits environment other).maxDuration, longest]
    rfl
  · rw [(edit_edits environment other).others, others]

/-! ## Settings that the environment has no say in -/

/-- The settings of the section are those that are read from the entries, apart from the settings
that the environment has a say in. -/
structure ReadsOthers (entries : Mapping) (retry : RetrySection) : Prop where
  delay : field entries "delay" none (readOptional readDuration) [] = .ok (retry.delay, [])
  delayRange : recordField entries "delay_range" "DelayRangeSettings" ⟨.zero, .zero⟩
    readDelayRange [] = .ok (retry.delayRange, [])
  backoff : recordField entries "backoff" "BackoffSettings" { delay := .zero, maxDelay := .zero }
    readBackoff [] = .ok (retry.backoff, [])
  jitter : field entries "jitter" none (readOptional readDuration) [] = .ok (retry.jitter, [])
  jitterFactor : field entries "jitter_factor" none
    (readOptional (readNumber Settings.jitterFactorFault?)) [] = .ok (retry.jitterFactor, [])
  abortOn : textsField entries "abort_on" [] = .ok (retry.abortOn, [])

theorem ensures_readSettings_others (entries : Mapping) :
    Ensures (readSettings entries) (ReadsOthers entries) := by
  unfold readSettings
  refine ensures_bind (ensures_field_any entries "max_retries" _ _) fun maxRetries => ?_
  refine ensures_bind (ensures_field_any entries "max_attempts" _ _) fun maxAttempts => ?_
  refine ensures_bind (ensures_field_any entries "max_duration" _ _) fun maxDuration => ?_
  refine ensures_bind (ensures_run (ensures_field_any entries "delay" _ _)) fun delay => ?_
  refine ensures_bind (ensures_run (ensures_recordField entries "delay_range" _ _ _
    ensures_readDelayRange)) fun delayRange => ?_
  refine ensures_bind (ensures_run (ensures_recordField entries "backoff" _ _ _
    ensures_readBackoff)) fun backoff => ?_
  refine ensures_bind (ensures_run (ensures_field_any entries "jitter" _ _)) fun jitter => ?_
  refine ensures_bind (ensures_run (ensures_field_any entries "jitter_factor" _ _))
    fun jitterFactor => ?_
  refine ensures_bind (ensures_run (ensures_textsField entries "abort_on")) fun abortOn => ?_
  refine ensures_bind (ensures_noteStrays _ entries) fun _ => ?_
  refine ensures_pure ?_
  intro _ abortOn jitterFactor jitter backoff delayRange delay _ _ _
  exact ⟨delay, delayRange, backoff, jitter, jitterFactor, abortOn⟩

theorem ensures_readDocument_others (retry rest : Mapping) :
    Ensures (readDocument ((.text "retry", .mapping retry) :: rest)) (ReadsOthers retry) := by
  have inner : Ensures (readSection retry) (ReadsOthers retry) :=
    ensures_weaken (ensures_thenCheck (ensures_readSettings_others retry)) fun _ holds => holds.1
  unfold readDocument
  rw [Mapping.get?_cons_text]
  refine ensures_bind (ensures_inside _ inner) fun taken => ?_
  refine ensures_bind (ensures_noteStrays _ _) fun _ => ?_
  exact ensures_pure fun _ reads => reads

theorem readsOthers_of_sectionOf {retry rest : Mapping} {taken : RetrySection}
    (accepted : sectionOf ((.text "retry", .mapping retry) :: rest) = .ok taken) :
    ReadsOthers retry taken := by
  unfold sectionOf at accepted
  split at accepted
  · split at accepted
    · cases accepted
    · cases accepted
    · rename_i finished
      cases accepted
      exact ensures_finish (ensures_readDocument_others retry rest) finished
  · cases accepted

theorem value_eq_of_runs {part part' : Validation α} {value value' : α} (same : part = part')
    (run : part [] = .ok (value, [])) (run' : part' [] = .ok (value', [])) : value' = value := by
  rw [← same, run] at run'
  exact (congrArg Prod.fst (Except.ok.inj run')).symm

theorem readsOthers_unique {taken taken' : RetrySection}
    (others : a.without overridden = b.without overridden) (reads : ReadsOthers a taken)
    (reads' : ReadsOthers b taken') :
    taken' = { taken with
      maxRetries := taken'.maxRetries
      maxAttempts := taken'.maxAttempts
      maxDuration := taken'.maxDuration } := by
  have same (name : String) (apart : name ∉ overridden) :
      a.get? (.text name) = b.get? (.text name) := by
    rw [← Mapping.get?_without apart a, others, Mapping.get?_without apart b]
  have delay := value_eq_of_runs (field_congr (same "delay" (by decide)) _ _) reads.delay
    reads'.delay
  have delayRange := value_eq_of_runs
    (recordField_congr (same "delay_range" (by decide)) _ _ _) reads.delayRange reads'.delayRange
  have backoff := value_eq_of_runs (recordField_congr (same "backoff" (by decide)) _ _ _)
    reads.backoff reads'.backoff
  have jitter := value_eq_of_runs (field_congr (same "jitter" (by decide)) _ _) reads.jitter
    reads'.jitter
  have jitterFactor := value_eq_of_runs (field_congr (same "jitter_factor" (by decide)) _ _)
    reads.jitterFactor reads'.jitterFactor
  have abortOn := value_eq_of_runs (textsField_congr (same "abort_on" (by decide)))
    reads.abortOn reads'.abortOn
  rw [← delay, ← delayRange, ← backoff, ← jitter, ← jitterFactor, ← abortOn]

/-! ## Documents with a section -/

def HasSection (entries retry : Mapping) : Prop :=
  entries.get? (.text "retry") = some (.mapping retry) ∨
    entries.get? (.text "retry") = none ∧ retry = []

theorem overlay_defaults_eq (distinct : entries.Distinct) : defaults.overlay entries =
    (.text "retry", Mapping.overlaidUnder "retry" entries (.mapping [])) ::
      entries.erase (.text "retry") :=
  Mapping.overlay_cons_text distinct _ fun _ _ _ none => absurd none List.not_mem_nil

/-- Laid over the defaults, the section is an entry of its own, in front of the others. -/
theorem overlay_defaults {retry : Mapping} (distinct : entries.Distinct)
    (distinctSection : retry.Distinct) (has : HasSection entries retry) :
    defaults.overlay entries =
      (.text "retry", .mapping retry) :: entries.erase (.text "retry") := by
  have merged : Mapping.overlaidUnder "retry" entries (.mapping []) = .mapping retry := by
    unfold Mapping.overlaidUnder
    rcases has with found | ⟨absent, rfl⟩
    · rw [found]
      exact congrArg Value.mapping (Mapping.overlay_nil distinctSection)
    · rw [absent]
      rfl
  rw [overlay_defaults_eq distinct, merged]

theorem override_cons (environment : Environment) (retry : Mapping) (rest : Mapping) :
    environment.override ((.text "retry", .mapping retry) :: rest) =
      (.text "retry", .mapping (environment.edit retry)) :: rest := by
  unfold Environment.override
  rw [Mapping.get?_cons_text]
  exact Mapping.put_cons_text _

theorem sectionOf_cons_congr {retry edited : Mapping}
    (read : readSection retry = readSection edited) (rest : Mapping) :
    sectionOf ((.text "retry", .mapping retry) :: rest) =
      sectionOf ((.text "retry", .mapping edited) :: rest) := by
  unfold sectionOf readDocument
  rw [Mapping.get?_cons_text, Mapping.get?_cons_text]
  simp only [record, read]
  rfl

structure Sections (root retry : Mapping) : Prop where
  distinct : root.Distinct
  distinctSection : retry.Distinct
  has : HasSection root retry

structure EditedDocument (environment : Environment) (root retry root' edited : Mapping) :
    Prop where
  sections : Sections root' edited
  rest : root'.erase (.text "retry") = root.erase (.text "retry")
  edits : Edits environment retry edited

theorem exists_edited {root retry : Mapping} (sections : Sections root retry)
    (environment : Environment) :
    ∃ root' edited, EditedDocument environment root retry root' edited := by
  refine ⟨root.put (.text "retry") (.mapping (environment.edit retry)), environment.edit retry,
    ⟨sections.distinct.put _ _, edit_distinct environment sections.distinctSection, Or.inl ?_⟩, ?_,
    edit_edits environment retry⟩
  · exact Mapping.get?_put_text _ _ _
  · exact Mapping.erase_put _ _ _

theorem unrepeated_of_documentOfBytes {bytes : List UInt8} {value : Value}
    (document : documentOfBytes bytes = .ok value) : value.Unrepeated := by
  unfold documentOfBytes documentOfText at document
  split at document
  · split at document
    · rename_i loaded
      cases document
      exact Yaml.load_unrepeated loaded
    · cases document
    · cases document
  · cases document

theorem sections_of_documentOfBytes {bytes : List UInt8} {root retry : Mapping}
    (document : documentOfBytes bytes = .ok (.mapping root)) (has : HasSection root retry) :
    Sections root retry := by
  have unrepeated := unrepeated_of_documentOfBytes document
  refine ⟨unrepeated.distinct, ?_, has⟩
  rcases has with found | ⟨_, rfl⟩
  · exact (unrepeated.value_of_get? found).distinct
  · exact .nil

theorem rootMapping_mapping (path : String) (root : Mapping) :
    rootMapping path (.mapping root) = .ok root := by
  cases root <;> rfl

/-- A file with a section is loaded by reading the section as the environment edits it. -/
theorem loadFile_of_sections {root retry : Mapping} (sections : Sections root retry)
    (environment : Environment) (path : String) :
    loadFile environment path (some (.ok (.mapping root))) =
      sectionOf ((.text "retry", .mapping (environment.edit retry)) ::
        root.erase (.text "retry")) := by
  have effective : effectiveDocument path (some (.ok (.mapping root))) =
      .ok ((.text "retry", .mapping retry) :: root.erase (.text "retry")) := by
    rw [← overlay_defaults sections.distinct sections.distinctSection sections.has]
    unfold effectiveDocument fileMapping
    simp only [rootMapping_mapping]
    rfl
  unfold loadFile
  rw [effective]
  exact congrArg sectionOf (override_cons environment retry _)

/-! ## Loads under an environment -/

section Loading

variable {files : Files} {directories : List String} {given : Option String} {path : String}
  {root root' retry retry' : Mapping}

theorem pathIn_update {document : Except FileError Value} (stored : files path = some document)
    (other : Except FileError Value) :
    pathIn (Function.update files path (some other)) directories given =
      pathIn files directories given := by
  have present (place : String) :
      (Function.update files path (some other) place).isSome = (files place).isSome := by
    by_cases same : place = path
    · rw [same, Function.update_self, stored]
      rfl
    · rw [Function.update_of_ne same]
  unfold pathIn search
  simp only [present]

theorem load_of_path (chosen : pathIn files directories given = some path)
    (environment : Environment) : load environment files directories given =
      (loadFile environment path (files path)).map fun retry => ⟨some path, retry⟩ := by
  rw [load_eq, chosen]
  rfl

theorem load_of_sections (chosen : pathIn files directories given = some path)
    (stored : files path = some (.ok (.mapping root))) (sections : Sections root retry)
    (environment : Environment) :
    load environment files directories given =
      (sectionOf ((.text "retry", .mapping (environment.edit retry)) ::
        root.erase (.text "retry"))).map fun retry => ⟨some path, retry⟩ := by
  rw [load_of_path chosen, stored, loadFile_of_sections sections environment path]

theorem load_update (chosen : pathIn files directories given = some path)
    (stored : files path = some (.ok (.mapping root))) (sections : Sections root' retry')
    (environment : Environment) :
    load environment (Function.update files path (some (.ok (.mapping root')))) directories given =
      (sectionOf ((.text "retry", .mapping (environment.edit retry')) ::
        root'.erase (.text "retry"))).map fun retry => ⟨some path, retry⟩ :=
  load_of_sections ((pathIn_update stored _).trans chosen) (Function.update_self _ _ _) sections
    environment

/-- A load under an environment gives what the load without it gives if the file is replaced by
one with an edited section: the same section, or the same error. So with both variables set it gives
the same for all files that differ in the three settings only, and no environment changes any other
setting of what is loaded. -/
theorem load_eq_load_edited {bytes : List UInt8} (environment : Environment)
    (chosen : pathIn files directories given = some path)
    (stored : files path = some (documentOfBytes bytes))
    (document : documentOfBytes bytes = .ok (.mapping root)) (has : HasSection root retry) :
    (∃ root' edited, EditedDocument environment root retry root' edited) ∧
    (∀ root' edited, EditedDocument environment root retry root' edited →
      load environment files directories given =
        load {} (Function.update files path (some (.ok (.mapping root')))) directories given) ∧
    ((Environment.given environment.maxRetries).isSome →
      (Environment.given environment.maxDuration).isSome →
      ∀ root' other, Sections root' other →
        root'.erase (.text "retry") = root.erase (.text "retry") →
        other.without overridden = retry.without overridden →
          load environment files directories given =
            load environment (Function.update files path (some (.ok (.mapping root'))))
              directories given) ∧
    ∀ environment' loaded loaded',
      load environment files directories given = .ok loaded →
      load environment' files directories given = .ok loaded' →
        loaded' = {
          path := loaded.path
          retry := { loaded.retry with
            maxRetries := loaded'.retry.maxRetries
            maxAttempts := loaded'.retry.maxAttempts
            maxDuration := loaded'.retry.maxDuration } } := by
  have sections := sections_of_documentOfBytes document has
  rw [document] at stored
  have loads := load_of_sections chosen stored sections
  refine ⟨exists_edited sections environment, ?_, ?_, ?_⟩
  · intro root' edited handmade
    rw [loads, load_update chosen stored handmade.sections, handmade.rest,
      sectionOf_cons_congr (readSection_edit handmade.edits)]
    rfl
  · intro limit longest root' other sections' rest others
    rw [loads, load_update chosen stored sections', rest,
      sectionOf_cons_congr (readSection_edit_of_given limit longest others)]
  · intro environment' loaded loaded' ok ok'
    rw [loads] at ok ok'
    obtain ⟨taken, accepted, rfl⟩ := (map_eq_ok_iff _ _ _).mp ok
    obtain ⟨taken', accepted', rfl⟩ := (map_eq_ok_iff _ _ _).mp ok'
    have others := (edit_edits environment retry).others.trans
      (edit_edits environment' retry).others.symm
    exact congrArg (Loaded.mk (some path)) (readsOthers_unique others
      (readsOthers_of_sectionOf accepted) (readsOthers_of_sectionOf accepted'))

end Loading

/-! ## Loads of files with texts -/

def textsIn? : Mapping → Option (List (String × String))
  | [] => some []
  | (.text name, .text text) :: entries => (textsIn? entries).map fun texts => (name, text) :: texts
  | _ => none

def ofTexts (texts : List (String × String)) : Mapping :=
  texts.map fun (name, text) => (.text name, .text text)

theorem eq_ofTexts {texts : List (String × String)} (read : textsIn? entries = some texts) :
    entries = ofTexts texts := by
  induction entries generalizing texts with
  | nil =>
      cases read
      rfl
  | cons entry entries ih =>
      unfold textsIn? at read
      split at read
      · rename_i nothing
        cases nothing
      · rename_i name text later same
        cases same
        obtain ⟨rest, readRest, rfl⟩ := Option.map_eq_some_iff.mp read
        rw [ih readRest]
        rfl
      · cases read

def sectionTexts? : Except FileError Value → Option (List (String × String))
  | .ok (.mapping [(.text "retry", .mapping retry)]) => textsIn? retry
  | _ => none

theorem document_of_sectionTexts {bytes : List UInt8} {texts : List (String × String)}
    (read : sectionTexts? (documentOfBytes bytes) = some texts) :
    documentOfBytes bytes = .ok (.mapping [(.text "retry", .mapping (ofTexts texts))]) := by
  unfold sectionTexts? at read
  split at read
  · rename_i document
    rw [document, eq_ofTexts read]
  · cases read

def bytesOf (text : String) : List UInt8 := text.toUTF8.toList

theorem ok_of_toOption {result : Except LoadError Loaded} (some : result.toOption.isSome) :
    ∃ loaded, result = .ok loaded := by
  cases result with
  | error error => cases some
  | ok loaded => exact ⟨loaded, rfl⟩

/-- Both variables take the place of settings that are no numbers and no durations, and two
environments leave the jitter as it is. -/
theorem load_eq_load_edited_of_invalid :
    let bytes := bytesOf "retry:\n max_attempts: x\n max_duration: y\n jitter: 5s"
    let edited := bytesOf "retry:\n max_retries: '7'\n jitter: 5s\n max_duration: 1m"
    let files : Files := fun _ => some (documentOfBytes bytes)
    let replaced := Function.update files (PathName.tidy "p.yml") (some (documentOfBytes edited))
    let environment : Environment := { maxRetries := some "7", maxDuration := some "1m" }
    let other : Environment := { maxRetries := some "9", maxDuration := some "2h" }
    load environment files [] (some "p.yml") = load {} replaced [] (some "p.yml") ∧
      load environment files [] (some "p.yml") = load environment replaced [] (some "p.yml") ∧
      ∃ loaded loaded', load environment files [] (some "p.yml") = .ok loaded ∧
        load other files [] (some "p.yml") = .ok loaded' ∧
        loaded'.retry.jitter = loaded.retry.jitter := by
  intro bytes edited files replaced environment other
  have read : sectionTexts? (documentOfBytes bytes) =
      some [("max_attempts", "x"), ("max_duration", "y"), ("jitter", "5s")] := by
    decide +kernel
  have readEdited : sectionTexts? (documentOfBytes edited) =
      some [("max_retries", "7"), ("jitter", "5s"), ("max_duration", "1m")] := by
    decide +kernel
  have document := document_of_sectionTexts read
  have documentEdited := document_of_sectionTexts readEdited
  have sections := sections_of_documentOfBytes documentEdited (Or.inl Mapping.get?_cons_text)
  have chosen : pathIn files [] (some "p.yml") = some (PathName.tidy "p.yml") := rfl
  obtain ⟨-, asEdited, forAll, others⟩ := load_eq_load_edited environment chosen rfl document
    (Or.inl Mapping.get?_cons_text)
  obtain ⟨loaded, ok⟩ : ∃ loaded, load environment files [] (some "p.yml") = .ok loaded :=
    ok_of_toOption (by decide +kernel)
  obtain ⟨loaded', ok'⟩ : ∃ loaded', load other files [] (some "p.yml") = .ok loaded' :=
    ok_of_toOption (by decide +kernel)
  have written : replaced = Function.update files (PathName.tidy "p.yml") _ :=
    congrArg (fun document => Function.update files _ (some document)) documentEdited
  rw [written]
  refine ⟨asEdited _ _ ⟨sections, rfl, rfl, rfl, rfl, rfl⟩, forAll rfl rfl _ _ sections rfl rfl,
    loaded, loaded', ok, ok', ?_⟩
  rw [others other loaded loaded' ok ok']

end Reattempt.PolicyFile
