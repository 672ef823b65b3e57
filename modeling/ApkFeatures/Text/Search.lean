/-
**Finding one text in another.**

* `occursIn_iff` — `occursIn pattern text` says that the text is something, the pattern, and
  something more.
-/

namespace ApkFeatures.Text

/-- The pattern stands somewhere in the text. -/
def occursIn (pattern : List Char) : List Char → Bool
  | [] => pattern.isEmpty
  | c :: rest => pattern.isPrefixOf (c :: rest) || occursIn pattern rest

/-- **Occurring is being an infix.** -/
theorem occursIn_iff {pattern text : List Char} :
    occursIn pattern text = true ↔ pattern <:+: text := by
  induction text with
  | nil => simp [occursIn]
  | cons c rest ih => simp [occursIn, ih, List.infix_cons_iff]

end ApkFeatures.Text
