import RouteDocs.App.Class

/-! The classes that every application has. -/

namespace RouteDocs.Builtin

def module : String := "builtins"

def className (name : String) : ClassName :=
  ⟨module, name⟩

def objectMethods : List (String × String) :=
  [("__delattr__", "Implement delattr(self, name)."),
   ("__dir__", "Default dir() implementation."),
   ("__eq__", "Return self==value."),
   ("__format__", "Default object formatter."),
   ("__ge__", "Return self>=value."),
   ("__getattribute__", "Return getattr(self, name)."),
   ("__getstate__", "Helper for pickle."),
   ("__gt__", "Return self>value."),
   ("__hash__", "Return hash(self)."),
   ("__init__", "Initialize self.  See help(type(self)) for accurate signature."),
   ("__le__", "Return self<=value."),
   ("__lt__", "Return self<value."),
   ("__ne__", "Return self!=value."),
   ("__reduce__", "Helper for pickle."),
   ("__reduce_ex__", "Helper for pickle."),
   ("__repr__", "Return repr(self)."),
   ("__setattr__", "Implement setattr(self, name, value)."),
   ("__sizeof__", "Size of object in memory, in bytes."),
   ("__str__", "Return str(self).")]

def object : Class :=
  { name := className "object"
    methods := objectMethods.map fun (name, doc) => (name, { doc := some doc }) }

def errors : List (String × String × String) :=
  [("BaseException", "object", "Common base class for all exceptions"),
   ("BaseExceptionGroup", "BaseException", "A combination of multiple unrelated exceptions."),
   ("Exception", "BaseException", "Common base class for all non-exit exceptions."),
   ("GeneratorExit", "BaseException", "Request that a generator exit."),
   ("KeyboardInterrupt", "BaseException", "Program interrupted by user."),
   ("SystemExit", "BaseException", "Request to exit from the interpreter."),
   ("ArithmeticError", "Exception", "Base class for arithmetic errors."),
   ("AssertionError", "Exception", "Assertion failed."),
   ("AttributeError", "Exception", "Attribute not found."),
   ("BufferError", "Exception", "Buffer error."),
   ("EOFError", "Exception", "Read beyond end of file."),
   ("ImportError", "Exception", "Import can't find module, or can't find name in module."),
   ("LookupError", "Exception", "Base class for lookup errors."),
   ("MemoryError", "Exception", "Out of memory."),
   ("NameError", "Exception", "Name not found globally."),
   ("OSError", "Exception", "Base class for I/O related errors."),
   ("ReferenceError", "Exception", "Weak ref proxy used after referent went away."),
   ("RuntimeError", "Exception", "Unspecified run-time error."),
   ("StopAsyncIteration", "Exception", "Signal the end from iterator.__anext__()."),
   ("StopIteration", "Exception", "Signal the end from iterator.__next__()."),
   ("SyntaxError", "Exception", "Invalid syntax."),
   ("SystemError", "Exception", "Internal error in the Python interpreter."),
   ("TypeError", "Exception", "Inappropriate argument type."),
   ("ValueError", "Exception", "Inappropriate argument value (of correct type)."),
   ("Warning", "Exception", "Base class for warning categories."),
   ("FloatingPointError", "ArithmeticError", "Floating point operation failed."),
   ("OverflowError", "ArithmeticError", "Result too large to be represented."),
   ("ZeroDivisionError", "ArithmeticError",
    "Second argument to a division or modulo operation was zero."),
   ("BytesWarning", "Warning",
    "Base class for warnings about bytes and buffer related problems, mostl" ++
      "y related to conversion from str or comparing to str."),
   ("DeprecationWarning", "Warning", "Base class for warnings about deprecated features."),
   ("EncodingWarning", "Warning", "Base class for warnings about encodings."),
   ("FutureWarning", "Warning",
    "Base class for warnings about constructs that will change semantically in the future."),
   ("ImportWarning", "Warning",
    "Base class for warnings about probable mistakes in module imports"),
   ("PendingDeprecationWarning", "Warning",
    "Base class for warnings about features which will be deprecated in the future."),
   ("ResourceWarning", "Warning", "Base class for warnings about resource usage."),
   ("RuntimeWarning", "Warning", "Base class for warnings about dubious runtime behavior."),
   ("SyntaxWarning", "Warning", "Base class for warnings about dubious syntax."),
   ("UnicodeWarning", "Warning",
    "Base class for warnings about Unicode related problems, mostly related" ++
      " to conversion problems."),
   ("UserWarning", "Warning", "Base class for warnings generated by user code."),
   ("BlockingIOError", "OSError", "I/O operation would block."),
   ("ChildProcessError", "OSError", "Child process error."),
   ("ConnectionError", "OSError", "Connection error."),
   ("FileExistsError", "OSError", "File already exists."),
   ("FileNotFoundError", "OSError", "File not found."),
   ("InterruptedError", "OSError", "Interrupted by signal."),
   ("IsADirectoryError", "OSError", "Operation doesn't work on directories."),
   ("NotADirectoryError", "OSError", "Operation only works on directories."),
   ("PermissionError", "OSError", "Not enough permissions."),
   ("ProcessLookupError", "OSError", "Process not found."),
   ("TimeoutError", "OSError", "Timeout expired."),
   ("IndentationError", "SyntaxError", "Improper indentation."),
   ("IndexError", "LookupError", "Sequence index out of range."),
   ("KeyError", "LookupError", "Mapping key not found."),
   ("ModuleNotFoundError", "ImportError", "Module not found."),
   ("NotImplementedError", "RuntimeError", "Method or function hasn't been implemented yet."),
   ("RecursionError", "RuntimeError", "Recursion limit exceeded."),
   ("UnboundLocalError", "NameError", "Local name referenced but not bound to a value."),
   ("UnicodeError", "ValueError", "Unicode related error."),
   ("BrokenPipeError", "ConnectionError", "Broken pipe."),
   ("ConnectionAbortedError", "ConnectionError", "Connection aborted."),
   ("ConnectionRefusedError", "ConnectionError", "Connection refused."),
   ("ConnectionResetError", "ConnectionError", "Connection reset."),
   ("TabError", "IndentationError", "Improper mixture of spaces and tabs."),
   ("UnicodeDecodeError", "UnicodeError", "Unicode decoding error."),
   ("UnicodeEncodeError", "UnicodeError", "Unicode encoding error."),
   ("UnicodeTranslateError", "UnicodeError", "Unicode translation error."),
   ("ExceptionGroup", "Exception", "")]

def needsArguments (error : String) : Bool :=
  ["BaseExceptionGroup", "ExceptionGroup", "UnicodeDecodeError", "UnicodeEncodeError",
   "UnicodeTranslateError"].contains error

def errorClass : String × String × String → Class
  | (name, parent, doc) =>
      { name := className name, parent := some (className parent)
        doc := if doc = "" then none else some doc
        constructor :=
          if needsArguments name then some { parameters := [{ name := "message" }] } else none }

def typeNames : List String :=
  ["bool", "memoryview", "bytearray", "bytes", "classmethod", "complex", "dict", "enumerate",
   "filter", "float", "frozenset", "property", "int", "list", "map", "range", "reversed", "set",
   "slice", "staticmethod", "str", "super", "tuple", "type", "zip"]

def classes : List Class :=
  (errors.map errorClass).reverse ++
    typeNames.map (fun name => { name := className name, parent := some (className "object") }) ++
    [object]

def functionNames : List String :=
  ["__build_class__", "__import__", "abs", "all", "any", "ascii", "bin", "breakpoint",
   "callable", "chr", "compile", "delattr", "dir", "divmod", "eval", "exec", "format", "getattr",
   "globals", "hasattr", "hash", "hex", "id", "input", "isinstance", "issubclass", "iter",
   "aiter", "len", "locals", "max", "min", "next", "anext", "oct", "ord", "pow", "print", "repr",
   "round", "setattr", "sorted", "sum", "vars", "open", "quit", "exit", "copyright", "credits",
   "license", "help"]

def errorAliases : List String :=
  ["EnvironmentError", "IOError"]

end RouteDocs.Builtin
