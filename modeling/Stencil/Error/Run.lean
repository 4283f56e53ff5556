/-!
# Faults of a render

What can go wrong while a template is executed.  Kinds of values are given by their names, since
host records bring names of their own.
-/

namespace Stencil

/-- A step of a render that cannot be taken. -/
inductive RunFault where
  | operands (op left right : String)
  | operand (op kind : String)
  | overflow (op : String)
  | divisionByZero
  | moduloByZero
  | incomparable (left right op : String)
  | noMembership (kind : String)
  | noMember (name kind : String)
  | noIndex (kind : String)
  | wordIndex (key : String)
  | noSubscript (kind : String)
  | notCallable (kind : String)
  | tooFewArguments (name : String) (least given : Nat)
  | tooManyArguments (name : String) (most given : Nat)
  | wrongArgument (index : Nat) (name kind given : String)
  | noMethod (kind name : String)
  | tooDeep (limit : Nat) (what : String)
  | longChain (name : String) (limit : Nat)
  | cyclicInheritance (child parent : String)
  | noSet
  | includeName (kind : String)
  | extendsName (kind : String)
  | cannotInclude (name reason : String)
  | cannotExtend (name reason : String)
  | contextKey (key : String)
  | contextKind (kind : String)
  | ratioNumber (what kind : String)
  | noArgument
  | tagName (name : String)
  | endlessStripping (passes : Nat)
  | sliceForm (range : String)
  | sliceBound (bound : String)
  | noSlice (kind : String)
  | choices (options : String)
  | suffixes (options : String)
  | sum
  /-- A remainder that does not fit.  It is not reported: it ends the program. -/
  | remainder
  | timestamp (seconds : Int)
  | noDate (text : String)
  | dateKind (kind : String)
  | dateFormat
  /-- A fault inside the filter `name`. -/
  | inFilter (name : String) (fault : RunFault)
  /-- A fault that the host reports in its own words. -/
  | host (text : String)

namespace RunFault

/-- The fault in words. -/
def message : RunFault → String
  | operands op left right =>
    "unsupported operand types for '" ++ op ++ "': " ++ left ++ " and " ++ right
  | operand op kind => "unary '" ++ op ++ "' is not supported on " ++ kind
  | overflow op => "integer overflow in '" ++ op ++ "'"
  | divisionByZero => "division by zero"
  | moduloByZero => "modulo by zero"
  | incomparable left right op =>
    "cannot compare " ++ left ++ " and " ++ right ++ " with '" ++ op ++ "'"
  | noMembership kind => "'in' is not supported on " ++ kind
  | noMember name kind => "cannot access member '" ++ name ++ "' of " ++ kind
  | noIndex kind => "cannot index into " ++ kind
  | wordIndex key => "sequence indices must be integers, got '" ++ key ++ "'"
  | noSubscript kind => "cannot subscript with " ++ kind
  | notCallable kind => kind ++ " is not callable"
  | tooFewArguments name least given =>
    "function '" ++ name ++ "' expects at least " ++ toString least ++ " argument(s), got " ++
      toString given
  | tooManyArguments name most given =>
    "function '" ++ name ++ "' expects at most " ++ toString most ++ " argument(s), got " ++
      toString given
  | wrongArgument index name kind given =>
    "argument " ++ toString index ++ " of function '" ++ name ++ "' must be " ++ kind ++ ", got " ++
      given
  | noMethod kind name => kind ++ " has no method '" ++ name ++ "'"
  | tooDeep limit what =>
    "maximum recursion depth of " ++ toString limit ++ " exceeded in " ++ what
  | longChain name limit =>
    "inheritance chain of '" ++ name ++ "' is deeper than " ++ toString limit
  | cyclicInheritance child parent =>
    "cyclic inheritance: '" ++ child ++ "' extends '" ++ parent ++ "'"
  | noSet => "the template set of this template has been dropped"
  | includeName kind => "include expects a template name, got " ++ kind
  | extendsName kind => "extends expects a template name, got " ++ kind
  | cannotInclude name reason => "cannot include '" ++ name ++ "': " ++ reason
  | cannotExtend name reason => "cannot extend '" ++ name ++ "': " ++ reason
  | contextKey key => "context key '" ++ key ++ "' is not a valid identifier"
  | contextKind kind => "context must be a mapping, got " ++ kind
  | ratioNumber what kind => "widthratio " ++ what ++ " must be a number, got " ++ kind
  | noArgument => "an argument is required"
  | tagName name => "invalid tag name '" ++ name ++ "'"
  | endlessStripping passes =>
    "tag stripping did not converge after " ++ toString passes ++ " passes"
  | sliceForm range => "slice expects 'from:to', got '" ++ range ++ "'"
  | sliceBound bound => "invalid slice bound '" ++ bound ++ "'"
  | noSlice kind => "cannot slice " ++ kind
  | choices options => "expected two or three comma separated choices, got '" ++ options ++ "'"
  | suffixes options => "too many suffixes in '" ++ options ++ "'"
  | sum => "integer overflow"
  | remainder => "attempt to calculate the remainder with overflow"
  | timestamp seconds => "timestamp " ++ toString seconds ++ " is out of range"
  | noDate text => "cannot parse '" ++ text ++ "' as a date"
  | dateKind kind => "expected a date string or timestamp, got " ++ kind
  | dateFormat => "invalid date format"
  | inFilter name fault => "filter '" ++ name ++ "': " ++ fault.message
  | host text => text

end RunFault

end Stencil
