/-
**Tokens of a source text.**

A token is a symbol with the bytes that it takes up in the source. All symbols but strings are
written in the source exactly as their text.
-/

import CallConsole.Failure

namespace CallConsole

/-- A word that stands for a value. -/
inductive Keyword where
  | true | false | none
deriving DecidableEq

/-- What a token is. -/
inductive Symbol where
  | identifier (name : List Char)
  | number (text : List Char)
  /-- A string, with its escapes resolved. -/
  | string (content : List Char)
  | keyword (word : Keyword)
  | leftParen | rightParen
  | leftBrace | rightBrace
  | leftBracket | rightBracket
  | comma | colon
  | plus | minus
  /-- A character that begins no token. -/
  | unknown (c : Char)
deriving DecidableEq

/-- A symbol and its bytes in the source. -/
structure Token where
  symbol : Symbol
  span : Span
deriving DecidableEq

/-- The text of a keyword. -/
def Keyword.text : Keyword → List Char
  | true => ['T', 'r', 'u', 'e']
  | false => ['F', 'a', 'l', 's', 'e']
  | none => ['N', 'o', 'n', 'e']

/-- The characters of a symbol; of a string, its content. -/
def Symbol.text : Symbol → List Char
  | identifier name => name
  | number text => text
  | string content => content
  | keyword word => word.text
  | leftParen => ['(']
  | rightParen => [')']
  | leftBrace => ['{']
  | rightBrace => ['}']
  | leftBracket => ['[']
  | rightBracket => [']']
  | comma => [',']
  | colon => [':']
  | plus => ['+']
  | minus => ['-']
  | unknown c => [c]

/-- The tokens of a source, and the offset of its end. -/
structure TokenList where
  tokens : List Token
  stop : Nat
deriving DecidableEq

/-- A failure to read a source, and the bytes that are to blame. -/
structure SourceFailure where
  cause : Cause
  span : Span
deriving DecidableEq

/-- The failure as a diagnostic. -/
def SourceFailure.toDiagnostic (failure : SourceFailure) : Diagnostic :=
  ⟨failure.cause, some failure.span, []⟩

end CallConsole
