/-
**The size of a text.**

Offsets and sizes count the bytes that characters take up.
-/

namespace CallConsole

/-- The number of bytes of a text. -/
def byteLength : List Char → Nat
  | [] => 0
  | c :: rest => c.utf8Size + byteLength rest

/-- Sizes add up. -/
theorem byteLength_append (first second : List Char) :
    byteLength (first ++ second) = byteLength first + byteLength second := by
  induction first with
  | nil => rw [List.nil_append, byteLength, Nat.zero_add]
  | cons c rest ih => rw [List.cons_append, byteLength, byteLength, ih, Nat.add_assoc]

end CallConsole
