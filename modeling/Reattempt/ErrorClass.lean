/-!
# Error classes

Errors are classified in a tree. A class is known by its path, a bare name for the built-in ones,
and carries the paths of all classes above it. The ordinary errors are those below `Exception`;
the others ask the program to stop.
-/
set_option autoImplicit false

namespace Reattempt

structure ErrorClass where
  path : String
  ancestors : List String
deriving DecidableEq

namespace ErrorClass

/-- The built-in classes, grouped by what stands above them, nearest first. -/
def builtinGroups : List (List String × List String) := [
  (["BaseException"],
    []),
  (["BaseExceptionGroup", "Exception", "GeneratorExit", "KeyboardInterrupt", "SystemExit"],
    ["BaseException"]),
  (["ArithmeticError", "AssertionError", "AttributeError", "BufferError", "EOFError",
     "ImportError", "LookupError", "MemoryError", "NameError", "OSError", "ReferenceError",
     "RuntimeError", "StopAsyncIteration", "StopIteration", "SyntaxError", "SystemError",
     "TypeError", "ValueError", "Warning"],
    ["Exception", "BaseException"]),
  (["BlockingIOError", "ChildProcessError", "ConnectionError", "FileExistsError",
     "FileNotFoundError", "InterruptedError", "IsADirectoryError", "NotADirectoryError",
     "PermissionError", "ProcessLookupError", "TimeoutError"],
    ["OSError", "Exception", "BaseException"]),
  (["BytesWarning", "DeprecationWarning", "EncodingWarning", "FutureWarning",
     "ImportWarning", "PendingDeprecationWarning", "ResourceWarning", "RuntimeWarning",
     "SyntaxWarning", "UnicodeWarning", "UserWarning"],
    ["Warning", "Exception", "BaseException"]),
  (["ExceptionGroup"],
    ["BaseExceptionGroup", "Exception", "BaseException"]),
  (["FloatingPointError", "OverflowError", "ZeroDivisionError"],
    ["ArithmeticError", "Exception", "BaseException"]),
  (["IndentationError"],
    ["SyntaxError", "Exception", "BaseException"]),
  (["IndexError", "KeyError"],
    ["LookupError", "Exception", "BaseException"]),
  (["ModuleNotFoundError"],
    ["ImportError", "Exception", "BaseException"]),
  (["NotImplementedError", "RecursionError"],
    ["RuntimeError", "Exception", "BaseException"]),
  (["UnboundLocalError"],
    ["NameError", "Exception", "BaseException"]),
  (["UnicodeError"],
    ["ValueError", "Exception", "BaseException"]),
  (["BrokenPipeError", "ConnectionAbortedError", "ConnectionRefusedError",
     "ConnectionResetError"],
    ["ConnectionError", "OSError", "Exception", "BaseException"]),
  (["TabError"],
    ["IndentationError", "SyntaxError", "Exception", "BaseException"]),
  (["UnicodeDecodeError", "UnicodeEncodeError", "UnicodeTranslateError"],
    ["UnicodeError", "ValueError", "Exception", "BaseException"])]

def aliases : List (String × String) := [("IOError", "OSError"), ("EnvironmentError", "OSError")]

def builtin? (name : String) : Option ErrorClass :=
  let name := (aliases.lookup name).getD name
  (builtinGroups.find? fun group => group.1.contains name).map fun group => ⟨name, group.2⟩

/-- Whether the class is the one at `path` or stands below it. -/
def isA (errorClass : ErrorClass) (path : String) : Bool :=
  errorClass.path == path || errorClass.ancestors.contains path

def name (errorClass : ErrorClass) : String :=
  String.ofList (errorClass.path.toList.reverse.takeWhile (· ≠ '.')).reverse

/-- Ordinary errors may be caught and ignored. -/
def isOrdinary (errorClass : ErrorClass) : Bool := errorClass.isA "Exception"

def keyboardInterrupt : ErrorClass := ⟨"KeyboardInterrupt", ["BaseException"]⟩

def runtimeError : ErrorClass := ⟨"RuntimeError", ["Exception", "BaseException"]⟩

def typeError : ErrorClass := ⟨"TypeError", ["Exception", "BaseException"]⟩

def valueError : ErrorClass := ⟨"ValueError", ["Exception", "BaseException"]⟩

def overflowError : ErrorClass :=
  ⟨"OverflowError", ["ArithmeticError", "Exception", "BaseException"]⟩

def keyError : ErrorClass := ⟨"KeyError", ["LookupError", "Exception", "BaseException"]⟩

end ErrorClass
end Reattempt
