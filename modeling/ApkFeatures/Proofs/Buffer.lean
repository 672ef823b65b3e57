/-
**A buffer loses nothing.**

What a file holds and what is kept back for it are together what was taken, in its order. Where a
file has been made more can be written to its end, so every piece is taken; and once the buffer is
flushed, the file holds all pieces. How they are cut, and when they are written, does not matter.

* `Filled` — what a file and its buffer hold.
* `Filled.flush_run`, `Filled.put_run` — one piece.
* `Filled.putAll_run` — all pieces.
* `flush_keeps`, `putAll_keeps` — nothing is done but writing the file.
-/
import ApkFeatures.Buffer
import ApkFeatures.Proofs.Footprint

namespace ApkFeatures.Buffer

open FileTree

variable {path : FilePath} {before after : FileTree} {taken kept : Bytes}

/-- A file that is written through a buffer, beside the tree from before it was made: what it holds
and what is kept back is what was taken, and no other file was written. -/
structure Filled (path : FilePath) (before after : FileTree) (taken kept : Bytes) : Prop where
  /-- The file was the last one to be written. -/
  written : ∃ (earlier : FileTree) (stored : Bytes),
    earlier.write path stored = .ok after ∧ stored ++ kept = taken
  /-- No other file was written. -/
  writes : OnlyWrites [path.placeFrom before.workingFolder] before after

namespace Filled

/-- A file that has just been made is empty, and so is its buffer. -/
theorem start (made : before.write path [] = .ok after) : Filled path before after [] [] :=
  ⟨⟨before, [], made, rfl⟩, write_onlyWrites made⟩

/-- Some bytes are kept back. -/
theorem keep (filled : Filled path before after taken kept) (more : Bytes) :
    Filled path before after (taken ++ more) (kept ++ more) := by
  obtain ⟨⟨earlier, stored, written, rfl⟩, writes⟩ := filled
  exact ⟨⟨earlier, stored, written, (List.append_assoc _ _ _).symm⟩, writes⟩

/-- **What is kept back can be written at the end of the file.** -/
theorem append (filled : Filled path before after taken kept) :
    ∃ again, after.append path kept = .ok again ∧ Filled path before again taken [] := by
  obtain ⟨⟨earlier, stored, written, rfl⟩, writes⟩ := filled
  obtain ⟨again, rewritten⟩ := write_again written (stored ++ kept)
  have only := write_onlyWrites rewritten
  rw [writes.workingFolder] at only
  refine ⟨again, ?_, ⟨after, _, rewritten, List.append_nil _⟩, writes.trans only⟩
  rw [FileTree.append, read_of_write written]
  exact rewritten

/-- A buffer with nothing in it leaves all in the file. -/
theorem read (filled : Filled path before after taken []) : after.read path = .ok taken := by
  obtain ⟨⟨earlier, stored, written, rfl⟩, -⟩ := filled
  rw [List.append_nil]
  exact read_of_write written

section Runs

variable {progress : Progress} (filled : Filled path before progress.tree taken kept)

include filled

/-- **Flushing a buffer leaves nothing in it.** -/
theorem flush_run :
    ∃ reached, (flush path kept).run progress = (.ok (), reached) ∧
      Filled path before reached.tree taken [] := by
  obtain ⟨again, appended, flushed⟩ := filled.append
  refine ⟨{ progress with tree := again }, ?_, flushed⟩
  rw [flush, Trial.run_change, Step.whole, appended]
  rfl

theorem makeRoom_run (needed : Nat) :
    ∃ left reached, (makeRoom path kept needed).run progress = (.ok left, reached) ∧
      Filled path before reached.tree taken left ∧
      (left = [] ∨ left.length + needed ≤ capacity) := by
  unfold makeRoom
  split
  · rename_i room
    exact ⟨kept, progress, rfl, filled, .inr room⟩
  · obtain ⟨reached, ran, flushed⟩ := filled.flush_run
    refine ⟨[], reached, ?_, flushed, .inl rfl⟩
    rw [Trial.run_bind, ran]
    rfl

/-- **A piece is taken**: it is written, or kept back behind what is kept back already. -/
theorem put_run (piece : Bytes) :
    ∃ left reached, (put path kept piece).run progress = (.ok left, reached) ∧
      Filled path before reached.tree (taken ++ piece) left := by
  obtain ⟨left, roomy, ran, made, room⟩ := filled.makeRoom_run piece.length
  rw [put, Trial.run_bind, ran]
  dsimp only
  split
  · exact ⟨left ++ piece, roomy, rfl, made.keep piece⟩
  · -- Only an empty buffer has room for such a piece, so the piece goes to the end of the file.
    rename_i large
    have empty : left = [] := by
      refine room.elim id fun fits => List.eq_nil_of_length_eq_zero ?_
      omega
    subst empty
    have given := made.keep piece
    rw [List.nil_append] at given
    obtain ⟨reached, flushed, holds⟩ := given.flush_run
    refine ⟨[], reached, ?_, holds⟩
    rw [Trial.run_bind, flushed]
    rfl

end Runs

theorem foldlM_put_run (pieces : List Bytes) : ∀ {taken kept : Bytes} {progress : Progress},
    Filled path before progress.tree taken kept →
      ∃ left reached, (pieces.foldlM (put path) kept).run progress = (.ok left, reached) ∧
        Filled path before reached.tree (taken ++ pieces.flatten) left := by
  induction pieces with
  | nil =>
    intro taken kept progress filled
    exact ⟨kept, progress, rfl, (List.append_nil taken).symm ▸ filled⟩
  | cons piece rest ih =>
    intro taken kept progress filled
    obtain ⟨left, between, first, one⟩ := filled.put_run piece
    obtain ⟨last, reached, others, all⟩ := ih one
    refine ⟨last, reached, ?_, ?_⟩
    · rw [List.foldlM_cons, Trial.run_bind, first]
      exact others
    · rw [List.flatten_cons, ← List.append_assoc]
      exact all

/-- **All pieces are taken**, in their order. -/
theorem putAll_run {progress : Progress} (made : Filled path before progress.tree [] [])
    (pieces : List Bytes) :
    ∃ left reached, (putAll path pieces).run progress = (.ok left, reached) ∧
      Filled path before reached.tree pieces.flatten left :=
  foldlM_put_run pieces made

end Filled

/-! ### What is left alone -/

section Keeps

variable {relation : FileTree → FileTree → Prop} [IsFrame relation]
  (covers : Covers relation path)

include covers

theorem flush_keeps (kept : Bytes) : Trial.Keeps relation (flush path kept) := by
  refine Trial.Keeps.change none fun tree => ?_
  rw [Step.whole]
  cases appended : tree.append path kept with
  | ok after =>
    obtain ⟨content, -, written⟩ := Fallible.bind_eq_ok_iff.mp appended
    exact covers.file written
  | error fault => exact IsFrame.refl tree

theorem put_keeps (kept piece : Bytes) : Trial.Keeps relation (put path kept piece) := by
  have room : Trial.Keeps relation (makeRoom path kept piece.length) := by
    unfold makeRoom
    split
    · exact .pure kept
    · exact (flush_keeps covers kept).bind fun _ => .pure []
  refine room.bind fun left => ?_
  split
  · exact .pure _
  · exact (flush_keeps covers piece).bind fun _ => .pure left

/-- Taking pieces of a file does nothing but write it. -/
theorem putAll_keeps (pieces : List Bytes) : Trial.Keeps relation (putAll path pieces) :=
  .foldlM (fun kept piece _ => put_keeps covers kept piece) []

end Keeps

end ApkFeatures.Buffer
