import LexGen.Error
import LexGen.Unicode.Case
import LexGen.Unicode.Identifier
import LexGen.Value.Equality

/-!
# Lexer options

The options of a grammar. Options that are not known are kept, so that they reach the scanner.
-/

namespace LexGen

/-! ## Names -/

def isIdentifier : Text → Bool
  | [] => false
  | c :: text => Unicode.isIdentifierStart c && text.all Unicode.isIdentifierPart

def keywords : List String :=
  ["False", "None", "True", "and", "as", "assert", "async", "await", "break", "class", "continue", "def",
   "del", "elif", "else", "except", "finally", "for", "from", "global", "if", "import", "in", "is", "lambda",
   "nonlocal", "not", "or", "pass", "raise", "return", "try", "while", "with", "yield"]

def lexerClass : String := "GeneratedLexer"

def builtinNames : List String :=
  ["ArithmeticError", "AssertionError", "AttributeError", "BaseException", "BaseExceptionGroup",
   "BlockingIOError", "BrokenPipeError", "BufferError", "BytesWarning", "ChildProcessError",
   "ConnectionAbortedError", "ConnectionError", "ConnectionRefusedError", "ConnectionResetError",
   "DeprecationWarning", "EOFError", "Ellipsis", "EncodingWarning", "EnvironmentError", "Exception",
   "ExceptionGroup", "False", "FileExistsError", "FileNotFoundError", "FloatingPointError", "FutureWarning",
   "GeneratorExit", "IOError", "ImportError", "ImportWarning", "IndentationError", "IndexError",
   "InterruptedError", "IsADirectoryError", "KeyError", "KeyboardInterrupt", "LookupError", "MemoryError",
   "ModuleNotFoundError", "NameError", "None", "NotADirectoryError", "NotImplemented", "NotImplementedError",
   "OSError", "OverflowError", "PendingDeprecationWarning", "PermissionError", "ProcessLookupError",
   "RecursionError", "ReferenceError", "ResourceWarning", "RuntimeError", "RuntimeWarning",
   "StopAsyncIteration", "StopIteration", "SyntaxError", "SyntaxWarning", "SystemError", "SystemExit",
   "TabError", "TimeoutError", "True", "TypeError", "UnboundLocalError", "UnicodeDecodeError",
   "UnicodeEncodeError", "UnicodeError", "UnicodeTranslateError", "UnicodeWarning", "UserWarning",
   "ValueError", "Warning", "ZeroDivisionError", "__build_class__", "__debug__", "__doc__", "__import__",
   "__loader__", "__name__", "__package__", "__spec__", "abs", "aiter", "all", "anext", "any", "ascii", "bin",
   "bool", "breakpoint", "bytearray", "bytes", "callable", "chr", "classmethod", "compile", "complex",
   "copyright", "credits", "delattr", "dict", "dir", "divmod", "enumerate", "eval", "exec", "exit", "filter",
   "float", "format", "frozenset", "getattr", "globals", "hasattr", "hash", "help", "hex", "id", "input",
   "int", "isinstance", "issubclass", "iter", "len", "license", "list", "locals", "map", "max", "memoryview",
   "min", "next", "object", "oct", "open", "ord", "pow", "print", "property", "quit", "range", "repr",
   "reversed", "round", "set", "setattr", "slice", "sorted", "staticmethod", "str", "sum", "super", "tuple",
   "type", "vars", "zip"]

def emittedNames : List String :=
  ["re", "sys", "Callable", "Iterator", "Mapping", "Sequence", "dataclass", "SimpleNamespace", "Any", "TextIO",
   "_NEWLINE", "LexicalError", "Location", "Token", "Scanner", lexerClass, "lex", "define", "__all__"]

def isReserved (name : String) : Bool :=
  emittedNames.contains name || builtinNames.contains name

/-! ## Conventions -/

def lowerCase (text : String) : String :=
  String.ofList (text.toList.map fun c => Char.ofNat (Unicode.lowerCode c.toNat))

/-- Read a convention: the convention itself or one of its names in any case. Nothing means `bare`. -/
def Convention.ofValue : Value → Except Error Convention
  | .none => .ok .bare
  | .convention c => .ok c
  | v => do
    match Convention.ofName? (lowerCase (← v.told)) with
    | some c => return c
    | none => throw (.badOption "moduleType" v ("expected one of " ++ ", ".intercalate (Convention.names.map (·.1))))

/-! ## Options -/

/-- The options of a grammar. -/
structure Options where
  caseInsensitive : Bool := false
  /-- The longest match wins, and text that no rule matches is echoed. -/
  flex : Bool := false
  backtracking : Bool := false
  ranges : Bool := false
  convention : Convention := .bare
  moduleName : String := "lexer"
  extra : List (Value × Value) := []

namespace Options

/-- The name that a value stands for. Nothing and empty values mean the usual name. -/
def moduleNameOf (value : Value) : Except Fault String :=
  if value.truthy then value.told else .ok "lexer"

def readModuleName (value : Value) : Except Error String := do
  let name ← moduleNameOf value
  if !isIdentifier name.toList || keywords.contains name then
    .error (.badOption "moduleName" value "must be a valid Python identifier")
  else if isReserved name then .error (.badOption "moduleName" value "is already bound in the emitted module")
  else .ok name

def readEntry (options : Options) (entry : Value × Value) : Except Error Options :=
  match entry with
  | (.str "case-insensitive", value) => .ok { options with caseInsensitive := value.truthy }
  | (.str "flex", value) => .ok { options with flex := value.truthy }
  | (.str "backtrack_lexer", value) => .ok { options with backtracking := value.truthy }
  | (.str "ranges", value) => .ok { options with ranges := value.truthy }
  | (.str "moduleType", value) => do return { options with convention := ← Convention.ofValue value }
  | (.str "moduleName", value) => do return { options with moduleName := ← readModuleName value }
  | (key, value) => .ok { options with extra := options.extra ++ [(key, value)] }

def ofEntries (entries : List (Value × Value)) : Except Error Options :=
  entries.foldlM readEntry {}

def ofValue : Value → Except Error Options
  | .options (.dict entries) => ofEntries entries
  | .dict entries => ofEntries entries
  | .options _ => .ok {}
  | v => if v.truthy then .error (.fault .noAttribute) else .ok {}

def toEntries (options : Options) : List (Value × Value) :=
  let switch := fun (name : String) (on : Bool) => if on then [(Value.str name, Value.bool true)] else []
  options.extra ++ switch "case-insensitive" options.caseInsensitive ++ switch "flex" options.flex ++
    switch "backtrack_lexer" options.backtracking ++ switch "ranges" options.ranges ++
    (if options.convention = .bare then []
      else [(Value.str "moduleType", Value.str options.convention.name)]) ++
    (if options.moduleName = "lexer" then []
      else [(Value.str "moduleName", Value.str options.moduleName)])

end Options

end LexGen
