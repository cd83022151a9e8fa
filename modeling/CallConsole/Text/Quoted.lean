/-
**Quoted text.**

Text is written between single quotes, or between double quotes if it holds a single quote and no
double one. A backslash stands before the quote, before itself and for the usual line characters;
every other control character is written as two hexadecimal digits.
-/

namespace CallConsole

namespace Quoted

/-- The character has the general category Cc. -/
def isControl (c : Char) : Bool := c.toNat < 0x20 || (0x7f ≤ c.toNat && c.toNat < 0xa0)

/-- The quote that is put around the text. -/
def quoteFor (text : List Char) : Char :=
  if text.contains '\'' && !text.contains '"' then '"' else '\''

/-- A code below `256` in two hexadecimal digits. -/
def twoDigits (code : Nat) : List Char := [(code / 16).digitChar, (code % 16).digitChar]

/-- One character inside the quotes. -/
def encodeChar (quote c : Char) : List Char :=
  if c = '\\' then ['\\', '\\']
  else if c = '\n' then ['\\', 'n']
  else if c = '\r' then ['\\', 'r']
  else if c = '\t' then ['\\', 't']
  else if c = quote then ['\\', c]
  else if isControl c then '\\' :: 'x' :: twoDigits c.toNat
  else [c]

/-- **The text between quotes.** -/
def encode (text : List Char) : List Char :=
  let quote := quoteFor text
  quote :: (text.flatMap (encodeChar quote) ++ [quote])

end Quoted

end CallConsole
