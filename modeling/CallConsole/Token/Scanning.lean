/-
**Dividing a source into tokens.**

Blanks and comments stand between tokens; a comment runs from `#` to the end of its line. Every
token is the longest that can be read at its place. Offsets count the bytes of the source.
-/

import CallConsole.Text.Alphanumeric
import CallConsole.Text.Blank
import CallConsole.Text.Size
import CallConsole.Token

namespace CallConsole

namespace Scanning

mutual

/-- Passes over blanks and comments. -/
def skipBlanks (offset : Nat) : List Char → Nat × List Char
  | [] => (offset, [])
  | c :: rest =>
    if isBlank c then skipBlanks (offset + c.utf8Size) rest
    else if c = '#' then skipComment (offset + c.utf8Size) rest
    else (offset, c :: rest)

/-- Passes over the rest of a comment, and over what blanks follow it. -/
def skipComment (offset : Nat) : List Char → Nat × List Char
  | [] => (offset, [])
  | c :: rest =>
    if c = '\n' then skipBlanks (offset + c.utf8Size) rest
    else skipComment (offset + c.utf8Size) rest

end

/-- The character can begin a name. -/
def isNameStart (c : Char) : Bool := c.isAlpha || c = '_'

/-- The character can stand in a name after the first. -/
def isNamePart (c : Char) : Bool := isAlphanumeric c || c = '_'

/-- The characters after the first of a number, and what follows them. One point may occur, but not
behind an exponent mark, and one exponent mark, which may be followed by a sign. -/
def numberTail (point mark : Bool) : List Char → List Char × List Char
  | [] => ([], [])
  | c :: rest =>
    if c.isDigit ∨ c = '_' then
      let (tail, after) := numberTail point mark rest
      (c :: tail, after)
    else if c = '.' ∧ !point ∧ !mark then
      let (tail, after) := numberTail true mark rest
      (c :: tail, after)
    else if (c = 'e' ∨ c = 'E') ∧ !mark then
      match rest with
      | [] => ([c], [])
      | sign :: digits =>
        if sign = '+' ∨ sign = '-' then
          let (tail, after) := numberTail point true digits
          (c :: sign :: tail, after)
        else
          let (tail, after) := numberTail point true (sign :: digits)
          (c :: tail, after)
    else ([], c :: rest)

/-- The end of a string, or the number of bytes that were passed over without finding one. -/
inductive StringTail where
  | closed (content : List Char) (size : Nat) (rest : List Char)
  | unclosed (size : Nat)

/-- One more character of content, which took up `size` bytes. -/
def StringTail.prepend (c : Char) (size : Nat) : StringTail → StringTail
  | closed content more rest => closed (c :: content) (size + more) rest
  | unclosed more => unclosed (size + more)

/-- The character that an escape stands for. -/
def unescape : Char → Char
  | 'n' => '\n'
  | 'r' => '\r'
  | 't' => '\t'
  | '0' => '\x00'
  | c => c

/-- The content of a string after its opening quote. The line must not end before the string does,
except behind a backslash. -/
def stringTail (quote : Char) : List Char → StringTail
  | [] => .unclosed 0
  | c :: rest =>
    if c = quote then .closed [] c.utf8Size rest
    else if c = '\\' then
      match rest with
      | [] => .unclosed c.utf8Size
      | escaped :: rest =>
        (stringTail quote rest).prepend (unescape escaped) (c.utf8Size + escaped.utf8Size)
    else if c = '\n' then .unclosed c.utf8Size
    else (stringTail quote rest).prepend c c.utf8Size

/-- The symbol of a word. -/
def wordSymbol (word : List Char) : Symbol :=
  if word = Keyword.true.text then .keyword .true
  else if word = Keyword.false.text then .keyword .false
  else if word = Keyword.none.text then .keyword .none
  else .identifier word

/-- The symbol of a character that is a token by itself. -/
def characterSymbol : Char → Symbol
  | '(' => .leftParen
  | ')' => .rightParen
  | '{' => .leftBrace
  | '}' => .rightBrace
  | '[' => .leftBracket
  | ']' => .rightBracket
  | ',' => .comma
  | ':' => .colon
  | '+' => .plus
  | '-' => .minus
  | c => .unknown c

/-- A point begins a number if a digit follows it. -/
def startsFraction (c : Char) (rest : List Char) : Bool :=
  c = '.' && (rest.head?.any Char.isDigit)

/-- A token of the given size at an offset. -/
def tokenAt (offset size : Nat) (symbol : Symbol) : Token := ⟨symbol, ⟨offset, offset + size⟩⟩

/-- **One token**, which begins with the character `c`, and what follows it. -/
def scanToken (offset : Nat) (c : Char) (rest : List Char) :
    Except SourceFailure (Token × List Char) :=
  if isNameStart c then
    let word := c :: rest.takeWhile isNamePart
    .ok (tokenAt offset (byteLength word) (wordSymbol word), rest.dropWhile isNamePart)
  else if c.isDigit ∨ startsFraction c rest then
    let (tail, after) := numberTail (c = '.') false rest
    .ok (tokenAt offset (byteLength (c :: tail)) (.number (c :: tail)), after)
  else if c = '"' ∨ c = '\'' then
    match stringTail c rest with
    | .closed content size after =>
      .ok (tokenAt offset (c.utf8Size + size) (.string content), after)
    | .unclosed size => .error ⟨.stringUnterminated, ⟨offset, offset + (c.utf8Size + size)⟩⟩
  else .ok (tokenAt offset c.utf8Size (characterSymbol c), rest)

/-! ### What is left gets shorter -/

mutual

/-- What follows the blanks is not longer. -/
theorem length_skipBlanks (offset : Nat) (text : List Char) :
    (skipBlanks offset text).2.length ≤ text.length := by
  cases text with
  | nil => simp [skipBlanks]
  | cons c rest =>
    rw [skipBlanks]
    split
    · exact Nat.le_succ_of_le (length_skipBlanks _ rest)
    · split
      · exact Nat.le_succ_of_le (length_skipComment _ rest)
      · exact Nat.le_refl _

/-- What follows a comment is not longer. -/
theorem length_skipComment (offset : Nat) (text : List Char) :
    (skipComment offset text).2.length ≤ text.length := by
  cases text with
  | nil => simp [skipComment]
  | cons c rest =>
    rw [skipComment]
    split
    · exact Nat.le_succ_of_le (length_skipBlanks _ rest)
    · exact Nat.le_succ_of_le (length_skipComment _ rest)

end

/-- What follows a number is not longer. -/
theorem length_numberTail (point mark : Bool) (text : List Char) :
    (numberTail point mark text).2.length ≤ text.length := by
  fun_induction numberTail point mark text <;> simp_all <;> omega

/-- What follows a string is not longer. -/
theorem length_stringTail {quote : Char} {text content rest : List Char} {size : Nat}
    (closed : stringTail quote text = .closed content size rest) :
    rest.length ≤ text.length := by
  fun_induction stringTail quote text generalizing content size with
  | case1 => cases closed
  | case2 => cases closed; simp
  | case3 => cases closed
  | case4 escaped more _ ih =>
    cases tail : stringTail quote more with
    | unclosed more => rw [tail] at closed; cases closed
    | closed content' size' rest' =>
      rw [tail] at closed
      cases closed
      have := ih tail
      simp only [List.length_cons]
      omega
  | case5 => cases closed
  | case6 c more _ _ _ ih =>
    cases tail : stringTail quote more with
    | unclosed more => rw [tail] at closed; cases closed
    | closed content' size' rest' =>
      rw [tail] at closed
      cases closed
      have := ih tail
      simp only [List.length_cons]
      omega

/-- What follows a token is not longer than what followed its first character. -/
theorem length_scanToken {offset : Nat} {c : Char} {rest after : List Char} {token : Token}
    (scanned : scanToken offset c rest = .ok (token, after)) : after.length ≤ rest.length := by
  unfold scanToken at scanned
  split at scanned
  · cases scanned
    exact (List.dropWhile_suffix _).length_le
  split at scanned
  · cases scanned
    exact length_numberTail ..
  split at scanned
  · split at scanned
    case h_1 closed => cases scanned; exact length_stringTail closed
    case h_2 => cases scanned
  · cases scanned
    exact Nat.le_refl _

/-- **The tokens from an offset on**, and the offset of the end. -/
def tokensFrom (offset : Nat) (text : List Char) : Except SourceFailure TokenList :=
  match _skipped : skipBlanks offset text with
  | (stop, []) => .ok ⟨[], stop⟩
  | (start, c :: rest) =>
    match _scanned : scanToken start c rest with
    | .error failure => .error failure
    | .ok (token, after) =>
      match tokensFrom token.span.stop after with
      | .error failure => .error failure
      | .ok others => .ok ⟨token :: others.tokens, others.stop⟩
termination_by text.length
decreasing_by
  have skipped := length_skipBlanks offset text
  have scanned := length_scanToken _scanned
  rw [_skipped, List.length_cons] at skipped
  omega

end Scanning

/-- **The tokens of a source.** -/
def tokenize (source : List Char) : Except SourceFailure TokenList := Scanning.tokensFrom 0 source

/-- The source holds nothing but blanks and comments. -/
def isBlankSource (source : List Char) : Bool :=
  match tokenize source with
  | .ok found => found.tokens.isEmpty
  | .error _ => false

end CallConsole
