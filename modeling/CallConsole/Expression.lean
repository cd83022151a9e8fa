/-
**Expressions.**

An expression is a literal, a display of a list, tuple or dict, a call of a named function, a name,
or a group in parentheses. Every node knows the bytes of the source that it was read from.
-/

import CallConsole.Failure

namespace CallConsole

/-- A value written out in the source. -/
inductive Literal where
  | null
  | bool (b : Bool)
  | int (n : Integer)
  | float (x : Double)
  | str (text : List Char)
deriving DecidableEq

/-- A node of the tree of a source, with its span. -/
inductive Expression where
  | literal (span : Span) (value : Literal)
  /-- A bare name, which stands for nothing by itself. -/
  | name (span : Span) (name : String)
  | call (span : Span) (function : String) (arguments : List Expression)
  | list (span : Span) (items : List Expression)
  | dict (span : Span) (entries : List (Expression × Expression))
  | tuple (span : Span) (items : List Expression)
  | group (span : Span) (inner : Expression)

/-- The bytes that an expression takes up. -/
def Expression.span : Expression → Span
  | literal span _ | name span _ | call span _ _ | list span _ | dict span _ | tuple span _
  | group span _ => span

/-- The number with the other sign, if the literal is a number and its opposite fits. -/
def Literal.negate? : Literal → Option Literal
  | int n => (Integer.ofInt? (-n.toInt)).map int
  | float x => some (float x.negate)
  | _ => none

/-- The literal, if it is a number. -/
def Literal.number? : Literal → Option Literal
  | int n => some (int n)
  | float x => some (float x)
  | _ => none

end CallConsole
