/-
**White space.**

The characters with the Unicode property White_Space, as a table of code points. A call graph file
may hold any of them between two tokens, and the texts of settings and tools are trimmed by them.

* `isBlank_of_isWhitespace` — the blanks that the core library knows are among them.
-/

namespace ApkFeatures.Text

/-- The ranges of the code points with the property White_Space. -/
def blankRanges : List (Nat × Nat) :=
  [(0x09, 0x0D), (0x20, 0x20), (0x85, 0x85), (0xA0, 0xA0), (0x1680, 0x1680), (0x2000, 0x200A),
    (0x2028, 0x2029), (0x202F, 0x202F), (0x205F, 0x205F), (0x3000, 0x3000)]

/-- A character is blank if it has the property White_Space. -/
def isBlank (c : Char) : Bool :=
  blankRanges.any fun range => range.1 ≤ c.toNat && c.toNat ≤ range.2

/-- The text without the blanks at its two ends. -/
def trim (text : List Char) : List Char :=
  (((text.dropWhile isBlank).reverse.dropWhile isBlank)).reverse

/-- Every blank that the core library knows is blank here too. -/
theorem isBlank_of_isWhitespace {c : Char} (blank : c.isWhitespace = true) : isBlank c = true := by
  simp only [Char.isWhitespace, Bool.or_eq_true, decide_eq_true_eq] at blank
  rcases blank with ((rfl | rfl) | rfl) | rfl <;> decide

end ApkFeatures.Text
