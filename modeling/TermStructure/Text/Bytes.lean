/-!
# Cutting a text at byte offsets

Offsets count the bytes that characters take in UTF-8. A text can be cut only between characters, so a
cut at an offset inside a character gives nothing.
-/

namespace TermStructure.Text

/-- The number of bytes of a text. -/
def byteCount : List Char → Nat
  | [] => 0
  | c :: cs => c.utf8Size + byteCount cs

/-- The first bytes of a text, and the others. -/
def cutAt? : Nat → List Char → Option (List Char × List Char)
  | 0, cs => some ([], cs)
  | _ + 1, [] => none
  | n + 1, c :: cs =>
    if c.utf8Size ≤ n + 1 then (cutAt? (n + 1 - c.utf8Size) cs).map fun (a, b) => (c :: a, b)
    else none
termination_by structural _ cs => cs

/-- The bytes of a text between two offsets. -/
def slice? (first last : Nat) (cs : List Char) : Option (List Char) :=
  match cutAt? first cs with
  | none => none
  | some (_, rest) => (cutAt? (last - first) rest).map (·.1)

theorem cutAt?_byteCount (a b : List Char) : cutAt? (byteCount a) (a ++ b) = some (a, b) := by
  induction a with
  | nil => cases b <;> rfl
  | cons c a ih =>
    obtain ⟨n, hn⟩ : ∃ n, byteCount (c :: a) = n + 1 :=
      ⟨byteCount (c :: a) - 1, by have := c.utf8Size_pos; simp [byteCount]; omega⟩
    have h : n + 1 - c.utf8Size = byteCount a := by rw [← hn]; simp [byteCount]
    have h' : c.utf8Size ≤ n + 1 := by rw [← hn]; simp [byteCount]
    rw [hn, List.cons_append, cutAt?, if_pos h', h, ih]
    rfl

end TermStructure.Text
