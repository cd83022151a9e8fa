/-
**Failures.**

A failure is a cause, with the place in the source that is to blame where one is known, and with the
lines of a script that it passed through. `Cause.kind` sorts the causes, `Cause.message` words them.
The sink of printed lines has failures of its own, which concern no source.
-/

import CallConsole.Double.Writing
import CallConsole.Text.Quoted

namespace CallConsole

/-- A stretch of a source text, as byte offsets. -/
structure Span where
  start : Nat
  stop : Nat
deriving DecidableEq

/-- What a failure is about. -/
inductive FailureKind where
  /-- A name that stands for nothing that can be used there. -/
  | name
  /-- A wrong number of arguments. -/
  | arity
  /-- A value of a type that the operation does not take. -/
  | typeMismatch
  /-- A value of the right type outside the domain. -/
  | value
  /-- Malformed text given to a conversion. -/
  | format
  /-- Source text that does not divide into tokens. -/
  | token
  /-- Tokens that do not make an expression. -/
  | parse
deriving DecidableEq

/-- The kind as it is written before the message. -/
def FailureKind.label : FailureKind → String
  | name => "NameError"
  | arity => "ArityError"
  | typeMismatch => "TypeMismatch"
  | value => "ValueError"
  | format => "FormatError"
  | token => "LexError"
  | parse => "ParseError"

/-- The types of values. -/
inductive TypeName where
  | none | bool | int | float | str | list | dict | tuple | range | reversed | enumerate | zip
deriving DecidableEq

/-- The type as programs see it. -/
def TypeName.text : TypeName → String
  | none => "NoneType"
  | bool => "bool"
  | int => "int"
  | float => "float"
  | str => "str"
  | list => "list"
  | dict => "dict"
  | tuple => "tuple"
  | range => "range"
  | reversed => "reversed"
  | enumerate => "enumerate"
  | zip => "zip"

/-- How many arguments a function takes. -/
inductive Arity where
  | exactly (count : Nat)
  | between (least most : Nat)
  | atLeast (least : Nat)
deriving DecidableEq

namespace Arity

/-- The number of arguments is accepted. -/
def Accepts : Arity → Nat → Prop
  | exactly wanted, count => count = wanted
  | between least most, count => least ≤ count ∧ count ≤ most
  | atLeast least, count => least ≤ count

instance (arity : Arity) (count : Nat) : Decidable (arity.Accepts count) := by
  cases arity <;> unfold Accepts <;> infer_instance

/-- The short form of a table of functions. -/
def text : Arity → String
  | exactly count => toString count
  | between least most => toString least ++ ".." ++ toString most
  | atLeast least => toString least ++ ".."

/-- The long form of a message. -/
def phrase : Arity → String
  | exactly count =>
    "exactly " ++ toString count ++ if count = 1 then " argument" else " arguments"
  | between least most =>
    "between " ++ toString least ++ " and " ++ toString most ++ " arguments"
  | atLeast least =>
    "at least " ++ toString least ++ if least = 1 then " argument" else " arguments"

end Arity

/-- What a position is an index into. -/
inductive Indexed where
  | list | tuple | string | listAssignment
deriving DecidableEq

/-- The indexed thing as messages name it. -/
def Indexed.text : Indexed → String
  | list => "list"
  | tuple => "tuple"
  | string => "string"
  | listAssignment => "list assignment"

/-- **Why something failed.** -/
inductive Cause where
  -- names and arguments
  | undefinedName (name : String)
  | uncalledBuiltin (name : String)
  | wrongArgumentCount (function : String) (arity : Arity) (count : Nat)
  -- types
  | unhashable (type : TypeName)
  | incomparable (left right : TypeName)
  | notSubscriptable (type : TypeName)
  | notAssignable (type : TypeName)
  | notAppendable (type : TypeName)
  | notAddable (left right : TypeName)
  | notSearchable (item : TypeName)
  | indexNotInteger (indexed : Indexed) (type : TypeName)
  | notIterable (type : TypeName)
  | argumentNotIterable (function : String) (type : TypeName)
  | argumentNotInteger (function : String) (type : TypeName)
  | argumentNotNumber (function : String) (type : TypeName)
  | notConvertible (function : String) (type : TypeName)
  | lengthless (type : TypeName)
  | notReversible (type : TypeName)
  | ordOfOther (type : TypeName)
  | typeNamesNotText (type : TypeName)
  | typeNameNotText (type : TypeName)
  -- values
  | comparisonTooDeep
  | indexOutOfRange (indexed : Indexed)
  | keyNotFound (key : List Char)
  | zeroStep
  | elementNotPair (index : Nat)
  | resultTooLarge (function : String)
  | sumTooLarge
  | integerOfNan
  | integerOfInfinity
  | integerOfLarge (value : Double)
  | integerTextTooLarge (text : List Char)
  | notCharacterCode (code : Integer)
  | ordOfLength (length : Nat)
  | emptySequence (function : String)
  | zeroToNegativePower
  | powerUndefined
  | rootOfNegative
  -- texts
  | integerTextMalformed (text : List Char)
  | floatTextMalformed (text : List Char)
  -- source
  | stringUnterminated
  | tokenUnexpected
  | tokenAfterExpression
  | argumentsUnclosed
  | tupleUnclosed
  | groupUnclosed
  | listUnclosed
  | dictUnclosed
  | colonMissing
  | signWithoutNumber
  | numberMalformed (text : String)
deriving DecidableEq

namespace Cause

/-- What the cause is about. -/
def kind : Cause → FailureKind
  | undefinedName .. | uncalledBuiltin .. => .name
  | wrongArgumentCount .. => .arity
  | unhashable .. | incomparable .. | notSubscriptable .. | notAssignable .. | notAppendable ..
  | notAddable .. | notSearchable .. | indexNotInteger .. | notIterable ..
  | argumentNotIterable .. | argumentNotInteger .. | argumentNotNumber .. | notConvertible ..
  | lengthless .. | notReversible .. | ordOfOther .. | typeNamesNotText .. | typeNameNotText .. =>
    .typeMismatch
  | comparisonTooDeep | indexOutOfRange .. | keyNotFound .. | zeroStep | elementNotPair ..
  | resultTooLarge .. | sumTooLarge | integerOfNan | integerOfInfinity | integerOfLarge ..
  | integerTextTooLarge .. | notCharacterCode .. | ordOfLength .. | emptySequence ..
  | zeroToNegativePower | powerUndefined | rootOfNegative => .value
  | integerTextMalformed .. | floatTextMalformed .. => .format
  | stringUnterminated => .token
  | tokenUnexpected | tokenAfterExpression | argumentsUnclosed | tupleUnclosed | groupUnclosed
  | listUnclosed | dictUnclosed | colonMissing | signWithoutNumber | numberMalformed .. => .parse

/-- A text in the quotes of a message. -/
def quoted (text : List Char) : String := String.ofList (Quoted.encode text)

/-- A type name between single quotes. -/
def typeText (type : TypeName) : String := "'" ++ type.text ++ "'"

/-- **The wording of a cause.** -/
def message : Cause → String
  | undefinedName name => "name '" ++ name ++ "' is not defined"
  | uncalledBuiltin name => "builtin \x60" ++ name ++ "\x60 must be called"
  | wrongArgumentCount function arity count =>
    function ++ "() takes " ++ arity.phrase ++ " but " ++ toString count ++ " were given"
  | unhashable type => "unhashable type: " ++ typeText type
  | incomparable left right =>
    "'<' not supported between instances of " ++ typeText left ++ " and " ++ typeText right
  | notSubscriptable type => typeText type ++ " object is not subscriptable"
  | notAssignable type => typeText type ++ " object does not support item assignment"
  | notAppendable type => typeText type ++ " object has no attribute 'append'"
  | notAddable left right =>
    "unsupported operand type(s) for +: " ++ typeText left ++ " and " ++ typeText right
  | notSearchable item =>
    "'in <string>' requires string as left operand, not " ++ item.text
  | indexNotInteger indexed type =>
    indexed.text ++ " indices must be integers, not " ++ typeText type
  | notIterable type => typeText type ++ " object is not iterable"
  | argumentNotIterable function type =>
    function ++ "() expected an iterable but found " ++ typeText type
  | argumentNotInteger function type => function ++ "() expected int but found " ++ typeText type
  | argumentNotNumber function type =>
    function ++ "() expected a number but found " ++ typeText type
  | notConvertible function type =>
    function ++ "() argument must be a string or a number, not " ++ typeText type
  | lengthless type => "object of type " ++ typeText type ++ " has no len()"
  | notReversible type => typeText type ++ " object is not reversible"
  | ordOfOther type => "ord() expected string of length 1, but " ++ type.text ++ " found"
  | typeNamesNotText type =>
    "isinstance() arg 2 must be a type name or a list of type names, not " ++ typeText type
  | typeNameNotText type => "isinstance() type names must be str, not " ++ typeText type
  | comparisonTooDeep => "maximum recursion depth exceeded in comparison"
  | indexOutOfRange indexed => indexed.text ++ " index out of range"
  | keyNotFound key => "key " ++ String.ofList key ++ " not found"
  | zeroStep => "range() arg 3 must not be zero"
  | elementNotPair index =>
    "dictionary update sequence element #" ++ toString index ++ " is not a pair"
  | resultTooLarge function => function ++ "() result does not fit in a 64-bit integer"
  | sumTooLarge => "integer addition overflowed"
  | integerOfNan => "cannot convert float NaN to integer"
  | integerOfInfinity => "cannot convert float infinity to integer"
  | integerOfLarge value =>
    "float " ++ String.ofList value.text ++ " does not fit in a 64-bit integer"
  | integerTextTooLarge text =>
    "integer literal " ++ quoted text ++ " does not fit in a 64-bit integer"
  | notCharacterCode code => "chr() arg not in range(0x110000): " ++ toString code.toInt
  | ordOfLength length =>
    "ord() expected a character, but string of length " ++ toString length ++ " found"
  | emptySequence function => function ++ "() arg is an empty sequence"
  | zeroToNegativePower => "0.0 cannot be raised to a negative power"
  | powerUndefined => "math domain error"
  | rootOfNegative => "math domain error: sqrt of a negative number"
  | integerTextMalformed text => "invalid literal for int() with base 10: " ++ quoted text
  | floatTextMalformed text => "could not convert string to float: " ++ quoted text
  | stringUnterminated => "unterminated string literal"
  | tokenUnexpected => "unexpected token in expression"
  | tokenAfterExpression => "unexpected token after expression"
  | argumentsUnclosed => "expected \x60)\x60 after arguments"
  | tupleUnclosed => "expected \x60)\x60 after tuple"
  | groupUnclosed => "expected \x60)\x60 after expression"
  | listUnclosed => "expected \x60]\x60 after list literal"
  | dictUnclosed => "expected \x60\x7d\x60 after dict literal"
  | colonMissing => "expected \x60:\x60 in dict literal"
  | signWithoutNumber => "a sign can only prefix a number literal"
  | numberMalformed text => "invalid number literal \x60" ++ text ++ "\x60"

end Cause

/-- A cause, the place that is to blame, and the script lines that the failure passed through. -/
structure Diagnostic where
  cause : Cause
  span : Option Span
  lines : List Nat
deriving DecidableEq

namespace Diagnostic

/-- A cause without a place. -/
def ofCause (cause : Cause) : Diagnostic := ⟨cause, none, []⟩

/-- The place is filled in if none is known yet. -/
def blame (span : Span) (d : Diagnostic) : Diagnostic :=
  { d with span := d.span.or (some span) }

/-- The failure passed through a line of a script. -/
def atLine (line : Nat) (d : Diagnostic) : Diagnostic := { d with lines := d.lines ++ [line] }

end Diagnostic

/-- A failure of evaluation, or of the sink that printed lines go to. -/
inductive Failure where
  | diagnostic (d : Diagnostic)
  | sink (reason : String)
deriving DecidableEq

/-- A failure without a place. -/
def Failure.ofCause (cause : Cause) : Failure := .diagnostic (.ofCause cause)

/-- A failure in words: its kind and message, its place and its notes. -/
structure Report where
  kind : FailureKind
  message : String
  span : Option Span
  notes : List String
deriving DecidableEq

namespace Report

/-- The words for a diagnostic. -/
def ofDiagnostic (d : Diagnostic) : Report where
  kind := d.cause.kind
  message := d.cause.message
  span := d.span
  notes := d.lines.map fun line => "at line " ++ toString line

/-- Kind and message on one line. -/
def headline (r : Report) : String := r.kind.label ++ ": " ++ r.message

/-- **The whole report**: the headline, the place behind it, and a line for each note. -/
def text (r : Report) : String :=
  let place := match r.span with
    | some span => " (" ++ toString span.start ++ ".." ++ toString span.stop ++ ")"
    | none => ""
  r.headline ++ place ++ String.join (r.notes.map ("\n  note: " ++ ·))

end Report

/-- A failure of the sink in words. -/
def Failure.sinkMessage (reason : String) : String := "I/O error: " ++ reason

end CallConsole
