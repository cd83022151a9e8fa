/-
**Operations of a machine that can go wrong.**

The library computes with unbounded numbers and with total functions on lists. Here are the
operations that a machine has instead: arithmetic in words of a fixed width, access by index, cuts
of a sequence, and texts that are taken apart on the assumption that they have a certain form. Each
of them answers, or names the `Fault` with which it goes wrong:

* `Width.check_of_fits`: a result that fits its word is the result;
* `quotient_of_fits`, `itemAt_of_getElem?`, `splitAt_of_le`, `expected_some`: the other operations
  where they are defined.
-/

import CallConsole.Integer

namespace CallConsole

/-- What an operation of a machine goes wrong with. -/
inductive Fault where
  /-- The result does not fit the word. -/
  | overflow
  | divisionByZero
  /-- An index or a cut lies behind the end. -/
  | outOfBounds
  /-- A text, or a type, is not of the form that it was made to have. -/
  | malformed
  /-- A branch is reached that is there for form's sake. -/
  | unreachable
  /-- A loop has taken all the steps that there are and goes on. -/
  | unfinished
deriving DecidableEq

/-- A computation of a machine, which answers or goes wrong. -/
abbrev Checked := Except Fault

/-- The numbers of a word: those from the least on, below the limit. -/
structure Width where
  least : Int
  limit : Int

namespace Width

/-- The words of positions and counts. -/
def unsigned64 : Width := ⟨0, 2 ^ 64⟩

def unsigned32 : Width := ⟨0, 2 ^ 32⟩

def byte : Width := ⟨0, 2 ^ 8⟩

/-- The words of integer values. -/
def signed64 : Width := ⟨-2 ^ 63, 2 ^ 63⟩

/-- The words of intermediate results. -/
def signed128 : Width := ⟨-2 ^ 127, 2 ^ 127⟩

def signed32 : Width := ⟨-2 ^ 31, 2 ^ 31⟩

/-- The number is one of the word. -/
def Fits (width : Width) (n : Int) : Prop := width.least ≤ n ∧ n < width.limit

instance (width : Width) (n : Int) : Decidable (width.Fits n) :=
  inferInstanceAs (Decidable (_ ∧ _))

/-- The result of an operation in words of that width. -/
def check (width : Width) (n : Int) : Checked Int :=
  if width.Fits n then .ok n else .error .overflow

/-- What is left of a number that is moved into a word without a check. -/
def wrap (width : Width) (n : Int) : Int :=
  width.least + (n - width.least) % (width.limit - width.least)

/-- **A result that fits its word is the result.** -/
theorem check_of_fits {width : Width} {n : Int} (fits : width.Fits n) : width.check n = .ok n :=
  if_pos fits

/-- A number that fits a word is not changed by being moved into it. -/
theorem wrap_of_fits {width : Width} {n : Int} (fits : width.Fits n) : width.wrap n = n := by
  obtain ⟨least, limit⟩ := fits
  rw [wrap, Int.emod_eq_of_lt (by omega) (by omega)]
  omega

/-! The numbers of each width, with the bounds written out for arithmetic. -/

theorem fits_unsigned64_iff {n : Int} : unsigned64.Fits n ↔ 0 ≤ n ∧ n < 2 ^ 64 := Iff.rfl

theorem fits_unsigned32_iff {n : Int} : unsigned32.Fits n ↔ 0 ≤ n ∧ n < 2 ^ 32 := Iff.rfl

theorem fits_byte_iff {n : Int} : byte.Fits n ↔ 0 ≤ n ∧ n < 2 ^ 8 := Iff.rfl

theorem fits_signed64_iff {n : Int} : signed64.Fits n ↔ -2 ^ 63 ≤ n ∧ n < 2 ^ 63 := Iff.rfl

theorem fits_signed128_iff {n : Int} : signed128.Fits n ↔ -2 ^ 127 ≤ n ∧ n < 2 ^ 127 := Iff.rfl

theorem fits_signed32_iff {n : Int} : signed32.Fits n ↔ -2 ^ 31 ≤ n ∧ n < 2 ^ 31 := Iff.rfl

theorem fits_signed64_toInt (n : Integer) : signed64.Fits n.toInt := Integer.fits_toInt n

end Width

namespace Checked

variable {α β : Type}

/-- What follows an answer goes on from it. -/
theorem ok_bind (a : α) (next : α → Checked β) : (Except.ok a >>= next) = next a := rfl

theorem map_ok (f : α → β) (a : α) : f <$> (Except.ok a : Checked α) = .ok (f a) := rfl

/-- What follows a result, unless the result is a failure. -/
def andThen {ε : Type} (result : Checked (Except ε α)) (next : α → Checked (Except ε β)) :
    Checked (Except ε β) := do
  match ← result with
  | .error e => .ok (.error e)
  | .ok a => next a

theorem andThen_ok {ε : Type} (a : α) (next : α → Checked (Except ε β)) :
    andThen (.ok (.ok a)) next = next a := rfl

theorem andThen_error {ε : Type} (e : ε) (next : α → Checked (Except ε β)) :
    andThen (.ok (.error e)) next = .ok (.error e) := rfl

/-- The quotient towards zero. -/
def quotient (width : Width) (n divisor : Int) : Checked Int :=
  if divisor = 0 then .error .divisionByZero else width.check (n.tdiv divisor)

/-- The remainder that goes with the quotient towards zero. A word has it if it has the quotient. -/
def remainder (width : Width) (n divisor : Int) : Checked Int :=
  if divisor = 0 then .error .divisionByZero
  else if width.Fits (n.tdiv divisor) then .ok (n.tmod divisor) else .error .overflow

/-- The quotient whose remainder is not negative, and that remainder. -/
def divide (width : Width) (n divisor : Int) : Checked (Int × Int) :=
  if divisor = 0 then .error .divisionByZero
  else if width.Fits (n / divisor) then .ok (n / divisor, n % divisor) else .error .overflow

/-- One more, in words of counts. -/
def countUp (n : Nat) : Checked Nat := do
  let following ← Width.unsigned64.check (n + 1)
  .ok following.toNat

/-- One less, in words of counts. -/
def countDown (n : Nat) : Checked Nat := do
  let before ← Width.unsigned64.check (n - 1)
  .ok before.toNat

/-- The item at an index. -/
def itemAt (items : List α) (index : Nat) : Checked α :=
  match items[index]? with
  | some item => .ok item
  | none => .error .outOfBounds

/-- The items before a cut and those behind it. -/
def splitAt (items : List α) (cut : Nat) : Checked (List α × List α) :=
  if cut ≤ items.length then .ok (items.take cut, items.drop cut) else .error .outOfBounds

/-- What is there by the form of its text or type. -/
def expected (found : Option α) : Checked α :=
  match found with
  | some a => .ok a
  | none => .error .malformed

/-! ### Where the operations answer -/

theorem quotient_of_fits {width : Width} {n divisor : Int} (nonzero : divisor ≠ 0)
    (fits : width.Fits (n.tdiv divisor)) : quotient width n divisor = .ok (n.tdiv divisor) := by
  rw [quotient, if_neg nonzero, Width.check_of_fits fits]

theorem remainder_of_fits {width : Width} {n divisor : Int} (nonzero : divisor ≠ 0)
    (fits : width.Fits (n.tdiv divisor)) : remainder width n divisor = .ok (n.tmod divisor) := by
  rw [remainder, if_neg nonzero, if_pos fits]

theorem divide_of_fits {width : Width} {n divisor : Int} (nonzero : divisor ≠ 0)
    (fits : width.Fits (n / divisor)) :
    divide width n divisor = .ok (n / divisor, n % divisor) := by
  rw [divide, if_neg nonzero, if_pos fits]

theorem countUp_of_lt {n : Nat} (word : n + 1 < 2 ^ 64) : countUp n = .ok (n + 1) := by
  rw [countUp, Width.check_of_fits (Width.fits_unsigned64_iff.mpr (by omega))]
  rfl

theorem countDown_succ {n : Nat} (word : n < 2 ^ 64) : countDown (n + 1) = .ok n := by
  rw [countDown, Width.check_of_fits (Width.fits_unsigned64_iff.mpr (by omega)), ok_bind]
  exact congrArg Except.ok (by omega)

theorem itemAt_of_getElem? {items : List α} {index : Nat} {item : α}
    (found : items[index]? = some item) : itemAt items index = .ok item := by
  rw [itemAt, found]

theorem splitAt_of_le {items : List α} {cut : Nat} (inside : cut ≤ items.length) :
    splitAt items cut = .ok (items.take cut, items.drop cut) :=
  if_pos inside

theorem expected_some (a : α) : expected (some a) = .ok a := rfl

/-- Where each of several computations answers, they do so together. -/
theorem mapM_of_forall {f : α → Checked β} {g : α → β} {as : List α}
    (each : ∀ a ∈ as, f a = .ok (g a)) : as.mapM f = .ok (as.map g) := by
  induction as with
  | nil => rfl
  | cons a rest ih =>
    obtain ⟨first, others⟩ := List.forall_mem_cons.mp each
    rw [List.mapM_cons, first, ok_bind, ih others, ok_bind]
    rfl

end Checked

end CallConsole
