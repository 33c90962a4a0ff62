import LineSieve.Process

/-!
# Totals of a batch

`Summary.ofResults` adds up what happened to the files of a batch.  A failed file takes part with the
lines that were counted before its failure.
-/

namespace LineSieve

/-- Totals over a batch of results. -/
structure Summary where
  files : Nat
  failed : Nat
  linesIn : Nat
  linesOut : Nat
  deleted : Nat
  modified : Nat
  deriving Repr, DecidableEq

namespace Summary

def empty : Summary := ⟨0, 0, 0, 0, 0, 0⟩

/-- The totals with one more result. -/
def record (s : Summary) (r : FileResult) : Summary :=
  ⟨s.files + 1, if r.success then s.failed else s.failed + 1, s.linesIn + r.linesIn,
    s.linesOut + r.linesOut, s.deleted + r.counts.delete, s.modified + r.counts.modify⟩

/-- The totals of a batch. -/
def ofResults (results : List FileResult) : Summary := results.foldl record empty

end Summary

end LineSieve
