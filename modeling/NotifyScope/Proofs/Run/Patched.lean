import NotifyScope.Proofs.Diff.Printed
import NotifyScope.Proofs.Rule.Standard
import NotifyScope.Proofs.Run.Filter

/-
  What is printed as the diff of a document, read as a patch.
  It leads from the document as it was to the document as it
  is rewritten, and back, provided the hunks of the two have
  true ranges in their headers, and only then.  That they have
  them is assumed of the diff library; all else about the
  hunks is proved.

  Main declarations:
    * `Diff.dropHeading?_heading`
    * `Diff.read?_printed`
    * `Diff.exists_corrects_iff`
    * `Session.showDiff_corrects_iff`
-/

namespace NotifyScope

open Patch (Change unlines)

namespace Diff

/- The lines that name a file are not read as changes. -/
theorem dropHeading?_heading
    (name : String)
    (proposed : Bool)
    (rest : Text) :
    Patch.dropHeading? name
        (heading name proposed ++ rest) = some rest := by
  have hText :
      heading name proposed ++ rest =
        ("--- a/" ++ name ++ "\n+++ b/" ++ name).toList ++
          ((if proposed then " (proposed)" else "").toList ++
            '\n' :: rest) := by
    simp [heading, String.toList_append]
  rw [hText, Patch.dropHeading?,
    if_pos (List.prefix_append _ _), List.drop_left]
  cases proposed with
  | false => rfl
  | true => rfl

------------------------------------------------------------
-- Hunks
------------------------------------------------------------

section Hunks

variable {before after : Lines}
variable {hunks : List Hunk}
variable
  (hCovers :
    Covers (ended before) (ended after) hunks ⟨0, 0⟩
      ⟨before.length, after.length⟩)
include hCovers

theorem whole_and_turns_iff :
    (∀ change ∈ patch before after hunks, change.IsWhole) ∧
        Patch.Turns 0 0 (patch before after hunks) before
          after ↔
      HaveTrueRanges hunks ⟨0, 0⟩ := by
  unfold patch
  rw [List.forall_mem_map]
  exact turns_iff_haveTrueRanges hCovers rfl rfl

variable (hBefore : ∀ line ∈ before, line.IsPlain)
variable (hAfter : ∀ line ∈ after, line.IsPlain)
include hBefore hAfter

/- What is printed is read again if all hunks are whole. -/
theorem read?_printed
    (name : String)
    (proposed : Bool) :
    Patch.read? name
        (heading name proposed ++
          (hunks.flatMap
            (Hunk.lines (ended before)
              (ended after))).flatten) =
      if ∀ change ∈ patch before after hunks,
          change.IsWhole then
        some (patch before after hunks)
      else
        none := by
  have hPatch := isPlain_patch hBefore hAfter hunks
  have hWritten :
      ∀ line ∈
          (patch before after hunks).flatMap Change.written,
        line.IsPlain := by
    intro line hLine
    obtain ⟨change, hChange, hMem⟩ := List.mem_flatMap.mp hLine
    exact change.isPlain_written (hPatch change hChange) line
      hMem
  rw [Patch.read?, dropHeading?_heading, Option.bind_some,
    flatten_lines_ended hCovers.ne_nil,
    Patch.lines_unlines hWritten, Patch.readLines?_written]
  by_cases hWhole :
      ∀ change ∈ patch before after hunks, change.IsWhole
  · rw [if_pos hWhole, if_pos hWhole]
  · rw [if_neg hWhole, if_neg hWhole]

/-
  Hunks that cover two texts are printed as a patch from the
  one to the other exactly if they have true ranges.
-/
theorem exists_corrects_iff
    (name : String)
    (proposed : Bool) :
    (∃ patch,
        Patch.read? name
            (heading name proposed ++
              (hunks.flatMap
                (Hunk.lines (ended before)
                  (ended after))).flatten) = some patch ∧
          patch.Corrects (unlines before) (unlines after)) ↔
      HaveTrueRanges hunks ⟨0, 0⟩ := by
  have hPatch := isPlain_patch hBefore hAfter hunks
  rw [← whole_and_turns_iff hCovers,
    ← Patch.corrects_iff_turns hBefore hAfter hPatch,
    read?_printed hCovers hBefore hAfter]
  constructor
  · rintro ⟨read, hRead, hCorrects⟩
    split at hRead
    · rename_i hWhole
      cases hRead
      exact ⟨hWhole, hCorrects⟩
    · cases hRead
  · rintro ⟨hWhole, hCorrects⟩
    exact ⟨_, if_pos hWhole, hCorrects⟩

end Hunks

end Diff

------------------------------------------------------------
-- Documents
------------------------------------------------------------

namespace Session

/-
  What is printed of a document that would change is a patch
  for it exactly if the ranges of its hunks are true.  True
  ranges are what the diff library is assumed to give.  There
  are rewrites on which it does not give them, and what is
  printed of those is no patch for them.  All else that a
  patch needs is there in any case: the lines of the hunks
  are those of the texts, in their order, and the texts are
  the same between them.
-/
theorem showDiff_corrects_iff
    {document : Document}
    (hChange : document.before ≠ document.rewritten)
    (hBefore : document.before.IsEnded)
    (hAfter : document.rewritten.IsEnded)
    (proposed : Bool)
    (world : World) :
    ∃ printed,
      (showDiff proposed document : InMemory Unit).run world =
          ((), world.hear printed "") ∧
        ((∃ patch,
            Patch.read? document.name printed = some patch ∧
              patch.Corrects document.before
                document.rewritten) ↔
          Diff.HaveTrueRanges
            (Diff.compare
              (Diff.splitLines document.before).toArray
              (Diff.splitLines document.rewritten).toArray)
            ⟨0, 0⟩) := by
  obtain ⟨before, hPlain, hText⟩ := Patch.exists_lines hBefore
  obtain ⟨after, hPlain', hText'⟩ := Patch.exists_lines hAfter
  have hCovers :=
    @Diff.covers_compare (Diff.ended before) (Diff.ended after)
  rw [Diff.size_ended, Diff.size_ended] at hCovers
  refine ⟨_, run_showDiff proposed document world, ?_⟩
  unfold Document.changes Document.wouldChange
  rw [if_pos (decide_eq_true hChange),
    Diff.unified_of_ne hChange, Diff.body, hText, hText',
    Diff.toArray_splitLines_unlines hPlain,
    Diff.toArray_splitLines_unlines hPlain']
  exact Diff.exists_corrects_iff hCovers hPlain hPlain'
    document.name proposed

/- A line goes at the top, and another one comes in the end. -/
theorem showDiff_corrects_two_hunks :
    let document : Document :=
      { name := "a.dart"
        before := "a\nb\nc\nd\ne\nf\ng\nh\ni\n".toList
        rewritten := "b\nc\nd\ne\nf\ng\nh\ni\nj\n".toList
        outcome := .fixed
        detail := none
        counts := {}
        trace := [] }
    ∃ printed,
      (showDiff false document : InMemory Unit).run {} =
          ((), World.hear {} printed "") ∧
        ∃ patch,
          Patch.read? "a.dart" printed = some patch ∧
            patch.Corrects document.before
              document.rewritten := by
  intro document
  obtain ⟨printed, hRun, hPatch⟩ :=
    @showDiff_corrects_iff document (by decide)
      ⟨by decide, .inr rfl⟩ ⟨by decide, .inr rfl⟩ false {}
  exact ⟨printed, hRun, hPatch.mpr (by decide +kernel)⟩

/-
  The ranges of this rewrite are not true.  A deletion still
  names the new line, and an insertion the old line, where it
  was before it was moved, and a header takes these over.
-/
example :
    let text :=
      ("// _generateQuestion\n// generateNewQuestion\n\n" ++
        "void _generateQuestion() \x7b\n  a();\n\x7d\n").toList
    let document :=
      Document.rewrite [Rule.standard] ⟨"  ".toList, true⟩
        "a.dart" text
    ¬Diff.HaveTrueRanges
      (Diff.compare
        (Diff.splitLines document.before).toArray
        (Diff.splitLines document.rewritten).toArray)
      ⟨0, 0⟩ := by
  decide +kernel

end Session

end NotifyScope
