import Reattempt.ErrorName.Standard
import Reattempt.Failure
/-!
# The catalogue of names

A name that stands for an error class is looked up in a module, which is imported for it. What can
be imported depends on where the program runs. The catalogue lists the modules that are everywhere:
those of the program itself, those of the standard library and the built-in names.
-/
set_option autoImplicit false

namespace Reattempt.ErrorName

def builtinOthers : List String := words
  ["Ellipsis False None NotImplemented True __build_class__ __debug__ __import__ abs aiter all",
    "anext any ascii bin bool breakpoint bytearray bytes callable chr classmethod compile",
    "complex copyright credits delattr dict dir divmod enumerate eval exec exit filter float",
    "format frozenset getattr globals hasattr hash help hex id input int isinstance issubclass",
    "iter len license list locals map max memoryview min next object oct open ord pow print",
    "property quit range repr reversed round set setattr slice sorted staticmethod str sum",
    "super tuple type vars zip"]

def configurationError : ErrorClass :=
  below "recourse.domain.config.errors.ConfigurationError" []

def invalidArgumentError : ErrorClass :=
  below "recourse.domain.config.errors.InvalidArgumentError"
    [configurationError.path, "ValueError"]

def invalidStateError : ErrorClass :=
  below "recourse.domain.config.errors.InvalidStateError" [configurationError.path]

def validationError : ErrorClass :=
  below "pydantic_core._pydantic_core.ValidationError" ["ValueError"]

def configurationErrors : List (String × ErrorClass) :=
  [("ConfigurationError", configurationError), ("InvalidArgumentError", invalidArgumentError),
    ("InvalidStateError", invalidStateError)]

def loadingErrors : List (String × ErrorClass) :=
  [("ConfigurationError", configurationError), ("ValidationError", validationError)]

def allErrors : List (String × ErrorClass) :=
  configurationErrors ++ [("ValidationError", validationError)]

/-- How a module is stored: as a file, as a directory with a file of its own, or as a bare
directory. -/
inductive Storage where
  | file
  | package
  | directory

def Storage.names : Storage → List String
  | .file => ["__builtins__", "__cached__", "__file__"]
  | .package => ["__builtins__", "__cached__", "__file__", "__path__"]
  | .directory => ["__file__", "__path__"]

def ownListing (errors : List (String × ErrorClass)) (storage : Storage) (others : List String) :
    Listing :=
  ⟨errors, words others ++ storage.names⟩

def ownModules : List (String × Listing) := [
  ("recourse", ownListing configurationErrors .package
    ["AttemptOutcome DelayMode EventDispatcher ExecutionAttemptHistory ExecutionAttemptedEvent",
     "ExecutionCompletedEvent ExecutionScheduledEvent RetryDecisionEngine RetryPolicyBuilder",
     "RetryPolicyConfig Verdict VerdictKind __all__ application cli domain evaluate execute",
     "execute_async infrastructure retry_with_policy"]),
  ("recourse.application", ownListing [] .package
    ["EventDispatcher RetryDecisionEngine __all__ decision_engine evaluate event_dispatch"]),
  ("recourse.application.decision_engine", ownListing [] .file
    ["Any AttemptOutcome Callable DelayMode EventDispatcher ExecutionAttemptHistory",
     "ExecutionAttemptedEvent ExecutionCompletedEvent ExecutionScheduledEvent Optional",
     "RetryDecisionEngine RetryPolicyConfig Verdict _default_engine evaluate logger logging",
     "random timedelta"]),
  ("recourse.application.event_dispatch", ownListing [] .file
    ["Any Callable EventDispatcher ExecutionAttemptedEvent ExecutionCompletedEvent",
     "ExecutionScheduledEvent Optional RetryPolicyConfig logger logging"]),
  ("recourse.cli", ownListing [("ConfigurationError", configurationError)] .file
    ["AttemptOutcome ConfigManager ExecutionAttemptHistory List Optional Path",
     "RetryDecisionEngine RetryPolicyConfig Verdict _die _format_seconds _load_policy cli click",
     "describe_policy logger logging main random setup_logging simulate simulate_failures",
     "timedelta validate"]),
  ("recourse.domain", ownListing [] .directory
    ["config models"]),
  ("recourse.domain.config", ownListing configurationErrors .package
    ["AbortCondition DelayMode RetryPolicyBuilder RetryPolicyConfig __all__ builder conditions",
     "errors policy to_duration"]),
  ("recourse.domain.config.builder", ownListing allErrors .file
    ["AbortCondition Any AttemptHandler Callable CompletedHandler ConfigDict DEFAULT_MAX_RETRIES",
     "DurationLike List Optional RetryPolicyBuilder RetryPolicyConfig ScheduledHandler Type",
     "TypeAdapter Union _DURATION _FLOAT _INT _ZERO _check_argument _check_callable _check_state",
     "annotations failure_condition failure_types_condition format_validation_error logger",
     "logging result_condition result_equals_condition timedelta to_duration to_float to_int"]),
  ("recourse.domain.config.conditions", ownListing [] .file
    ["AbortCondition Any Callable Optional Sequence Tuple Type failure_condition",
     "failure_types_condition result_condition result_equals_condition"]),
  ("recourse.domain.config.errors", ownListing allErrors .file
    ["format_validation_error"]),
  ("recourse.domain.config.policy", ownListing [] .file
    ["AbortCondition Any AttemptHandler BaseModel Callable CompletedHandler ConfigDict",
     "DEFAULT_MAX_RETRIES DelayMode Enum ExecutionAttemptedEvent ExecutionCompletedEvent",
     "ExecutionScheduledEvent Field Optional RetryPolicyConfig ScheduledHandler TYPE_CHECKING",
     "Tuple annotations logger logging model_validator timedelta"]),
  ("recourse.domain.models", ownListing [] .package
    ["AttemptOutcome ExecutionAttemptHistory ExecutionAttemptedEvent ExecutionCompletedEvent",
     "ExecutionScheduledEvent Verdict VerdictKind __all__ events outcome verdict"]),
  ("recourse.domain.models.events", ownListing [] .file
    ["Any ExecutionAttemptHistory ExecutionAttemptedEvent ExecutionCompletedEvent",
     "ExecutionScheduledEvent Optional dataclass timedelta"]),
  ("recourse.domain.models.outcome", ownListing [] .file
    ["Any AttemptOutcome ExecutionAttemptHistory Optional dataclass timedelta"]),
  ("recourse.domain.models.verdict", ownListing [] .file
    ["Enum Verdict VerdictKind dataclass timedelta"]),
  ("recourse.infrastructure", ownListing [] .directory
    ["config retry"]),
  ("recourse.infrastructure.config", ownListing [] .directory
    ["config_manager"]),
  ("recourse.infrastructure.config.config_manager", ownListing loadingErrors .file
    ["Annotated Any BackoffSettings BaseModel BeforeValidator CONFIG_FILE_NAME ConfigDict",
     "ConfigManager DelayRangeSettings Dict Duration Field List Optional Path PolicyFile",
     "PolicyFileConfig RetryPolicyBuilder RetryPolicyConfig Type _DURATION_PATTERN _UNIT_SECONDS",
     "builtins copy format_validation_error importlib logger logging model_validator os",
     "parse_duration re resolve_exception_type timedelta yaml"]),
  ("recourse.infrastructure.retry", ownListing [] .file
    ["Any AsyncRetrying AttemptOutcome Awaitable Callable EventDispatcher",
     "ExecutionAttemptHistory ExecutionAttemptedEvent FailureClassifier Optional PolicyRun",
     "RetryCallState RetryDecisionEngine RetryPolicyConfig Retrying T TypeVar Verdict",
     "annotations asyncio default_is_failure execute execute_async functools inspect logger",
     "logging retry_with_policy stop_never time timedelta"])]

def builtin? (name : String) : Option Entry :=
  match ErrorClass.builtin? name with
  | some errorClass => some (.error errorClass)
  | none => if (builtinOthers ++ everywhere).contains name then some .other else none

def furtherListing? (moduleName : String) : Option Listing :=
  (furtherErrors.lookup moduleName).map fun names =>
    errorsOf moduleName names ((furtherAliases.lookup moduleName).getD [])

def listing? (moduleName : String) : Option Listing :=
  (standardModules ++ ownModules).lookup moduleName <|> furtherListing? moduleName

/-- The modules that can be imported: what importing one raises or, if it gives a module, what a
name in that stands for. -/
structure Modules where
  load : String → Except Failure (String → Except Failure Entry)

namespace Modules

def missingModule (moduleName : String) : Failure :=
  ⟨⟨"ModuleNotFoundError", ["ImportError", "Exception", "BaseException"]⟩,
    some ("No module named " ++ Text.quoted moduleName)⟩

def missingName (moduleName name : String) : Failure :=
  ⟨⟨"AttributeError", ["Exception", "BaseException"]⟩,
    some ("module " ++ Text.quoted moduleName ++ " has no attribute " ++ Text.quoted name)⟩

def relativeImport (moduleName : String) : Failure :=
  .typeError ("the 'package' argument is required to perform a relative import for " ++
    Text.quoted moduleName)

def offer (moduleName : String) (find? : String → Option Entry) (name : String) :
    Except Failure Entry :=
  (find? name).elim (.error (missingName moduleName name)) .ok

def standard : Modules where
  load moduleName :=
    if moduleName.startsWith "." then .error (relativeImport moduleName)
    else if moduleName = "builtins" then .ok (offer moduleName builtin?)
    else
      match listing? moduleName with
      | none => .error (missingModule moduleName)
      | some listing => .ok (offer moduleName listing.find?)

end Modules

end Reattempt.ErrorName
