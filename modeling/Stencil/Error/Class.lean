import Stencil.Error

/-! The classes of errors. A class has a name, a place among the others, and in most cases an
    identifier that stays the same when the wording of its errors changes. -/

namespace Stencil

/-- The identifiers of error classes. -/
inductive ErrorCode where
  | missingParent | circularExtends | missingMacroImport
  | undefinedVariable | capabilityError | capabilityNotFound | typeError | macroArgument
  | recursionLimit | runtimeError | ordering | outputEncoding
  | templateNotFound | syntaxError
  deriving DecidableEq, Repr

namespace ErrorCode

/-- All identifiers in their order. -/
def all : List ErrorCode :=
  [.missingParent, .circularExtends, .missingMacroImport, .undefinedVariable, .capabilityError,
   .capabilityNotFound, .typeError, .macroArgument, .recursionLimit, .runtimeError, .ordering,
   .outputEncoding, .templateNotFound, .syntaxError]

/-- The identifier: a category and a number. -/
def text : ErrorCode → String
  | .missingParent => "T-CON-001"
  | .circularExtends => "T-CON-002"
  | .missingMacroImport => "T-CON-003"
  | .undefinedVariable => "T-RUN-001"
  | .capabilityError => "T-RUN-002"
  | .capabilityNotFound => "T-RUN-003"
  | .typeError => "T-RUN-004"
  | .macroArgument => "T-RUN-005"
  | .recursionLimit => "T-RUN-006"
  | .runtimeError => "T-RUN-007"
  | .ordering => "T-RUN-008"
  | .outputEncoding => "T-RUN-009"
  | .templateNotFound => "T-TPL-001"
  | .syntaxError => "T-TPL-002"

def category : ErrorCode → String
  | .missingParent | .circularExtends | .missingMacroImport => "construction"
  | .templateNotFound | .syntaxError => "template"
  | _ => "runtime"

/-- The name of the identifier. -/
def name : ErrorCode → String
  | .missingParent => "MISSING_PARENT"
  | .circularExtends => "CIRCULAR_EXTENDS"
  | .missingMacroImport => "MISSING_MACRO_IMPORT"
  | .undefinedVariable => "UNDEFINED_VARIABLE"
  | .capabilityError => "CAPABILITY_ERROR"
  | .capabilityNotFound => "CAPABILITY_NOT_FOUND"
  | .typeError => "TYPE_ERROR"
  | .macroArgument => "MACRO_ARGUMENT"
  | .recursionLimit => "RECURSION_LIMIT"
  | .runtimeError => "RUNTIME_ERROR"
  | .ordering => "ORDERING"
  | .outputEncoding => "OUTPUT_ENCODING"
  | .templateNotFound => "TEMPLATE_NOT_FOUND"
  | .syntaxError => "SYNTAX_ERROR"

end ErrorCode

/-- The classes of errors of the template language. -/
inductive ErrorClass where
  | general
  | notFound | syntaxError
  | construction | missingParent | circular | missingImport
  | runtime | undefinedName | typeMismatch | capabilityNotFound | capabilityFailed
  | macroArgument | recursionLimit | outputEncoding | ordering
  deriving DecidableEq, Repr

namespace ErrorClass

/-- All classes, wider ones first. -/
def all : List ErrorClass :=
  [.general, .notFound, .syntaxError, .construction, .missingParent, .circular, .missingImport,
   .runtime, .undefinedName, .typeMismatch, .capabilityNotFound, .capabilityFailed,
   .macroArgument, .recursionLimit, .outputEncoding, .ordering]

def name : ErrorClass → String
  | .general => "TemplateError"
  | .notFound => "TemplateNotFoundError"
  | .syntaxError => "TemplateSyntaxError"
  | .construction => "TemplateConstructionError"
  | .missingParent => "MissingParentError"
  | .circular => "CircularExtendsError"
  | .missingImport => "MissingMacroImportError"
  | .runtime => "TemplateRuntimeError"
  | .undefinedName => "UndefinedError"
  | .typeMismatch => "TemplateTypeError"
  | .capabilityNotFound => "CapabilityNotFoundError"
  | .capabilityFailed => "CapabilityError"
  | .macroArgument => "MacroArgumentError"
  | .recursionLimit => "RecursionLimitError"
  | .outputEncoding => "OutputEncodingError"
  | .ordering => "OrderingError"

/-- The class of a name. -/
def ofName? (name : String) : Option ErrorClass := all.find? fun c => c.name == name

/-- The identifier of a class. -/
def code? : ErrorClass → Option ErrorCode
  | .general | .construction => none
  | .notFound => some .templateNotFound
  | .syntaxError => some .syntaxError
  | .missingParent => some .missingParent
  | .circular => some .circularExtends
  | .missingImport => some .missingMacroImport
  | .runtime => some .runtimeError
  | .undefinedName => some .undefinedVariable
  | .typeMismatch => some .typeError
  | .capabilityNotFound => some .capabilityNotFound
  | .capabilityFailed => some .capabilityError
  | .macroArgument => some .macroArgument
  | .recursionLimit => some .recursionLimit
  | .outputEncoding => some .outputEncoding
  | .ordering => some .ordering

/-- Errors of the class arise while a template is rendered. -/
def isRuntime : ErrorClass → Bool
  | .general | .notFound | .syntaxError | .construction | .missingParent | .circular
  | .missingImport => false
  | _ => true

/-- The wider classes that a class belongs to, the nearest first. -/
def wider : ErrorClass → List ErrorClass
  | .general => []
  | .notFound | .syntaxError | .construction | .runtime => [.general]
  | .missingParent | .circular | .missingImport => [.construction, .general]
  | _ => [.runtime, .general]

end ErrorClass

/-- The class of a runtime error. -/
def RuntimeError.errorClass (e : RuntimeError) : ErrorClass :=
  match e.kind with
  | .general => .runtime
  | .typeMismatch => .typeMismatch
  | .capabilityNotFound .. => .capabilityNotFound
  | .capabilityFailed .. => .capabilityFailed
  | .macroArgument _ => .macroArgument
  | .recursionLimit .. => .recursionLimit
  | .outputEncoding => .outputEncoding
  | .ordering _ => .ordering
  | .undefinedName .. => .undefinedName

/-- The class of an error. -/
def TemplateError.errorClass : TemplateError → ErrorClass
  | .general _ => .general
  | .notFound .. => .notFound
  | .syntaxError .. => .syntaxError
  | .construction (.general ..) => .construction
  | .construction (.missingParent ..) => .missingParent
  | .construction (.circular ..) => .circular
  | .construction (.missingImport ..) => .missingImport
  | .runtime e => e.errorClass

/-- The name of the class of an error. -/
def TemplateError.className (e : TemplateError) : String := e.errorClass.name

end Stencil
