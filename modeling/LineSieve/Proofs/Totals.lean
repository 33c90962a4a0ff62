import LineSieve.Run
import Mathlib.Algebra.BigOperators.Group.List.Basic
import Mathlib.Tactic

/-!
# Totals

The totals of a batch are added up one result after the other.  They form a commutative monoid, field by
field, and `ofResults_eq_sum` says that a batch is the sum of its results; how it is divided, and in which
order it stands, makes no difference.

A document shows the totals beside an entry for every file.  `Tallies` reads the entries on their own and
adds up what they say, and `tallies_fileDocument` finds the totals of the batch.
-/

namespace LineSieve

/-! ## Sums of totals -/

namespace Summary

instance : Zero Summary := ⟨empty⟩

/-- Totals are added field by field. -/
instance : Add Summary :=
  ⟨fun s t => ⟨s.files + t.files, s.failed + t.failed, s.linesIn + t.linesIn,
    s.linesOut + t.linesOut, s.deleted + t.deleted, s.modified + t.modified⟩⟩

theorem zero_def : (0 : Summary) = ⟨0, 0, 0, 0, 0, 0⟩ := rfl

theorem add_def
    (s t : Summary) :
    s + t = ⟨s.files + t.files, s.failed + t.failed, s.linesIn + t.linesIn,
      s.linesOut + t.linesOut, s.deleted + t.deleted, s.modified + t.modified⟩ := rfl

instance : AddCommMonoid Summary where
  add_assoc s t u := by simp only [add_def, Nat.add_assoc]
  zero_add s := by simp only [add_def, zero_def, Nat.zero_add]
  add_zero s := by simp only [add_def, zero_def, Nat.add_zero]
  add_comm s t := by simp only [add_def, Nat.add_comm]
  nsmul := nsmulRec

/-- The totals of a single result. -/
def ofResult (r : FileResult) : Summary :=
  ⟨1, if r.success then 0 else 1, r.linesIn, r.linesOut, r.counts.delete, r.counts.modify⟩

theorem record_eq
    (s : Summary) (r : FileResult) :
    s.record r = s + ofResult r := by
  cases h : r.success <;> simp [record, ofResult, add_def, h]

theorem ofResults_eq_sum
    (results : List FileResult) :
    ofResults results = (results.map ofResult).sum := by
  have hrecord : record = fun s r => s + ofResult r := funext₂ record_eq
  rw [List.sum_eq_foldl, List.foldl_map, ofResults, hrecord]
  rfl

/-- Every line is deleted or left over. -/
theorem linesIn_ofResults
    (results : List FileResult) :
    (ofResults results).linesIn = (ofResults results).linesOut + (ofResults results).deleted := by
  rw [ofResults_eq_sum]
  induction results with
  | nil => rfl
  | cons r rest ih =>
    rw [List.map_cons, List.sum_cons, add_def]
    simp only [ih, ofResult, FileResult.linesIn, FileResult.linesOut,
      ActionCounts.remaining_eq, ActionCounts.total]
    omega

/-- A modified line is one of those that are left. -/
theorem modified_le_linesOut_ofResults
    (results : List FileResult) :
    (ofResults results).modified ≤ (ofResults results).linesOut := by
  rw [ofResults_eq_sum]
  induction results with
  | nil => rfl
  | cons r rest ih =>
    rw [List.map_cons, List.sum_cons, add_def]
    simp only [ofResult, FileResult.linesOut, ActionCounts.remaining_eq]
    omega

theorem ofResults_append
    (results more : List FileResult) :
    ofResults (results ++ more) = ofResults results + ofResults more := by
  simp only [ofResults_eq_sum, List.map_append, List.sum_append]

theorem ofResults_perm
    {results others : List FileResult}
    (h : others.Perm results) :
    ofResults others = ofResults results := by
  rw [ofResults_eq_sum, ofResults_eq_sum]
  exact (h.map ofResult).sum_eq

/-- The exit status tells whether the totals count a failed file. -/
theorem failed_ofResults_pos_iff
    (results : List FileResult) :
    0 < (ofResults results).failed ↔ results.any (fun r => !r.success) = true := by
  rw [ofResults_eq_sum]
  induction results with
  | nil => simp [zero_def]
  | cons r rest ih =>
    rw [List.map_cons, List.sum_cons, add_def, List.any_cons, Bool.or_eq_true, ← ih]
    cases h : r.success <;> simp [ofResult, h]

end Summary

/-! ## Reading a document -/

theorem lookup_cons_eq_ite
    {α β : Type} [BEq α] [LawfulBEq α] [DecidableEq α]
    (key first : α) (value : β) (rest : List (α × β)) :
    ((first, value) :: rest).lookup key = if key = first then some value else rest.lookup key := by
  by_cases h : key = first
  · rw [if_pos h, h, List.lookup_cons_self]
  · rw [if_neg h, List.lookup_cons, beq_false_of_ne h]

namespace Document

/-- The value of a field. -/
def field? (name : String) : Document → Option Document
  | object fields => fields.lookup name
  | _ => none

@[simp] theorem field?_object_cons
    (name key : String) (value : Document) (fields : List (String × Document)) :
    (object ((key, value) :: fields)).field? name =
      if name = key then some value else (object fields).field? name :=
  lookup_cons_eq_ite name key value fields

/-- The value to which a path of fields leads. -/
def at? : List String → Document → Option Document
  | [], d => some d
  | name :: path, d => (d.field? name).bind (at? path)

def integer? : Document → Option Nat
  | integer value => some value
  | _ => none

def integerAt? (path : List String) (d : Document) : Option Nat := (d.at? path).bind integer?

/-- The sum of the integers to which a path of fields leads in some entries. -/
def total? (path : List String) (entries : List Document) : Option Nat :=
  (entries.mapM (integerAt? path)).map List.sum

/-- Totals as a document shows them. -/
def summary? (d : Document) : Option Summary := do
  let files ← d.integerAt? ["files"]
  let failed ← d.integerAt? ["failed"]
  let linesIn ← d.integerAt? ["lines_in"]
  let linesOut ← d.integerAt? ["lines_out"]
  let deleted ← d.integerAt? ["deleted"]
  let modified ← d.integerAt? ["modified"]
  return ⟨files, failed, linesIn, linesOut, deleted, modified⟩

/-- Whether an entry says that its file has failed. -/
def isFailed (d : Document) : Bool :=
  match d.field? "success" with
  | some (bool success) => !success
  | _ => false

end Document

namespace Report

open Document

/-- The totals are those of the entries of a document. -/
structure Tallies (entries : List Document) (s : Summary) : Prop where
  files : s.files = entries.length
  failed : s.failed = entries.countP isFailed
  /-- An entry says whether its file has failed, and gives an error if it has. -/
  error : ∀ entry ∈ entries, ∃ success error, entry.field? "success" = some (.bool success) ∧
    entry.field? "error" = some error ∧ (success = false ↔ error ≠ .null)
  linesIn : total? ["original_line_count"] entries = some s.linesIn
  linesOut : total? ["new_line_count"] entries = some s.linesOut
  deleted : total? ["line_counts", "delete"] entries = some s.deleted
  modified : total? ["line_counts", "modify"] entries = some s.modified

theorem summary?_summaryDocument
    (s : Summary) :
    (summaryDocument s).summary? = some s := by
  simp [summaryDocument, Document.summary?, integerAt?, at?, integer?]

theorem tallies_nil : Tallies [] 0 := ⟨rfl, rfl, by simp, rfl, rfl, rfl, rfl⟩

theorem total?_cons
    {path : List String} {entry : Document} {entries : List Document} {n total : Nat}
    (hentry : entry.integerAt? path = some n)
    (hentries : total? path entries = some total) :
    total? path (entry :: entries) = some (n + total) := by
  obtain ⟨ns, hns, rfl⟩ := Option.map_eq_some_iff.1 hentries
  rw [total?, List.mapM_cons, hentry, hns]
  rfl

theorem isFailed_fileDocument
    (r : TimedResult) :
    (fileDocument r).isFailed = !r.result.success := by
  simp [fileDocument, isFailed]

/-- A file has failed if its entry has an error. -/
theorem error_fileDocument
    (r : TimedResult) :
    ∃ success error, (fileDocument r).field? "success" = some (.bool success) ∧
      (fileDocument r).field? "error" = some error ∧ (success = false ↔ error ≠ .null) := by
  refine ⟨r.result.success, optionalText (r.result.error.map FileError.message),
    by simp [fileDocument], by simp [fileDocument], ?_⟩
  cases h : r.result.error <;> simp [FileResult.success, optionalText, h]

/-- One more entry adds what its result adds to the totals. -/
theorem Tallies.cons
    {entries : List Document} {s : Summary}
    (r : TimedResult)
    (h : Tallies entries s) :
    Tallies (fileDocument r :: entries) (.ofResult r.result + s) where
  files := by
    rw [List.length_cons, ← h.files, Nat.add_comm]
    rfl
  failed := by
    rw [List.countP_cons, ← h.failed, isFailed_fileDocument, Nat.add_comm]
    cases hsuccess : r.result.success <;> simp [Summary.add_def, Summary.ofResult, hsuccess]
  error := List.forall_mem_cons.2 ⟨error_fileDocument r, h.error⟩
  linesIn := total?_cons (n := r.result.linesIn)
    (by simp [fileDocument, integerAt?, at?, integer?]) h.linesIn
  linesOut := total?_cons (n := r.result.linesOut)
    (by simp [fileDocument, integerAt?, at?, integer?]) h.linesOut
  deleted := total?_cons (n := r.result.counts.delete)
    (by simp [fileDocument, countsDocument, integerAt?, at?, integer?]) h.deleted
  modified := total?_cons (n := r.result.counts.modify)
    (by simp [fileDocument, countsDocument, integerAt?, at?, integer?]) h.modified

/-- The entries of a document add up to the totals of the results. -/
theorem tallies_fileDocument
    (results : List TimedResult) :
    Tallies (results.map fileDocument) (summary results) := by
  rw [summary, Summary.ofResults_eq_sum]
  induction results with
  | nil => exact tallies_nil
  | cons r rest ih => exact ih.cons r

end Report
end LineSieve
