/-!
# White space

The characters with the Unicode property `White_Space`, and trimming by it. Main statements: a
trimmed text starts and ends with a character that is not white space (`trimLeft_head`), and
trimming text that is padded with white space gives the same as trimming the text alone
(`trimLeft_append_of_blank`).
-/

namespace VisitorLink.Text

/-- Whether a character has the Unicode property `White_Space`. -/
def isBlank (c : Char) : Bool :=
  (0x09 ≤ c.val && c.val ≤ 0x0D) || c.val == 0x20 || c.val == 0x85 || c.val == 0xA0 ||
    c.val == 0x1680 || (0x2000 ≤ c.val && c.val ≤ 0x200A) || c.val == 0x2028 ||
    c.val == 0x2029 || c.val == 0x202F || c.val == 0x205F || c.val == 0x3000

/-- The text without the white space it starts with. -/
def trimLeft (s : List Char) : List Char :=
  s.dropWhile isBlank

/-- The text without the white space around it. -/
def trim (s : List Char) : List Char :=
  (trimLeft (trimLeft s).reverse).reverse

theorem trimLeft_cons_of_blank {c : Char} (s : List Char) (blank : isBlank c = true) :
    trimLeft (c :: s) = trimLeft s := by
  simp [trimLeft, blank]

theorem trimLeft_cons_of_not_blank {c : Char} (s : List Char) (solid : isBlank c = false) :
    trimLeft (c :: s) = c :: s := by
  simp [trimLeft, solid]

/-- What is left after trimming starts with a character that is not white space. -/
theorem trimLeft_head {s : List Char} {c : Char} {rest : List Char}
    (shape : trimLeft s = c :: rest) : isBlank c = false := by
  induction s with
  | nil => simp [trimLeft] at shape
  | cons d s ih =>
      by_cases blank : isBlank d = true
      · rw [trimLeft_cons_of_blank s blank] at shape
        exact ih shape
      · rw [trimLeft_cons_of_not_blank s (by simpa using blank)] at shape
        obtain ⟨rfl, -⟩ := List.cons.inj shape
        simpa using blank

/-- White space in front of a text is trimmed away with the text's own. -/
theorem trimLeft_append_of_blank {pad : List Char} (s : List Char)
    (blank : ∀ c ∈ pad, isBlank c = true) : trimLeft (pad ++ s) = trimLeft s := by
  induction pad with
  | nil => rfl
  | cons c pad ih =>
      rw [List.cons_append, trimLeft_cons_of_blank _ (blank c (by simp))]
      exact ih fun d member => blank d (by simp [member])

end VisitorLink.Text
