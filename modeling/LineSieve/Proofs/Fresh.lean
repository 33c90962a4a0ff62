import LineSieve.Proofs.Barred

/-!
# New output directories

When nothing is at the output directory, the way to it ends early: the directories that are there
lead to some location, and there the next name is missing, or it is taken by something that does not
lead on.
-/

namespace LineSieve
namespace Dispatch

open FileSystem Process Mirrored Barred

/-- The path at which a directory is; an empty path stands for the working directory. -/
def directoryPath (path : Path) : Path := if path.text.isEmpty then ⟨['.']⟩ else path

/-- A path without `..` at which there is no entry. -/
structure IsFresh (fs : FileSystem) (out : Path) : Prop where
  no_up : .up ∉ out.components
  absent : ∀ found, fs.lookupLink (directoryPath out) ≠ .ok found

variable {fs : FileSystem} {out : Path}

/-- The working directory is there, so the path is not empty. -/
theorem IsFresh.nonempty
    (hfs : fs.WellFormed)
    (h : IsFresh fs out) :
    out.text ≠ [] := by
  intro hempty
  have hhere : fs.lookupLink ⟨['.']⟩ = .ok (fs.workingDirectory, .directory) := by
    have hfits : Fits ⟨['.']⟩ := ⟨by decide, by simp, by decide⟩
    have hsteps : Path.steps ⟨['.']⟩ = [.here] := rfl
    rw [lookupLink_eq_ok_iff, resolve_of_fits _ hfits, hsteps, follow_here _ _ _ hfs.workingDirectory,
      follow_nil, (isDirectoryAt_iff _).1 hfs.workingDirectory]
  have habsent := h.absent (fs.workingDirectory, .directory)
  rw [directoryPath, hempty, List.isEmpty_nil, if_pos rfl] at habsent
  exact habsent hhere

/-! ## The steps of a path that never goes up -/

theorem exists_eq_map_name
    {steps : List Component}
    (h : ∀ step ∈ steps, ∃ name, step = .name name) :
    ∃ names : List (List Char), steps = names.map .name := by
  induction steps with
  | nil => exact ⟨[], rfl⟩
  | cons step rest ih =>
    obtain ⟨⟨name, rfl⟩, hrest⟩ := List.forall_mem_cons.1 h
    obtain ⟨names, rfl⟩ := ih hrest
    exact ⟨name :: names, rfl⟩

theorem exists_eq_name_of_stepOf
    {segment : List Char}
    (hhere : Path.stepOf segment ≠ .here)
    (hup : Path.stepOf segment ≠ .up) :
    ∃ name, Path.stepOf segment = .name name := by
  unfold Path.stepOf at hhere hup ⊢
  split_ifs at hhere hup ⊢
  · exact absurd rfl hhere
  · exact absurd rfl hup
  · exact ⟨segment, rfl⟩

/-- The path consists of names, perhaps after the root. -/
theorem exists_trail_eq
    (hup : .up ∉ out.components) :
    ∃ (front : List Component) (names : List (List Char)),
      out.trail = front ++ names.map .name ∧ (front = [] ∨ front = [.root]) := by
  have hup' : .up ∉ out.trail := by
    intro hmem
    rw [Path.components_eq] at hup
    exact hup (List.mem_append_right _ hmem)
  rw [Path.trail_eq] at hup' ⊢
  rw [List.mem_append, not_or] at hup'
  obtain ⟨names, hnames⟩ :
      ∃ names : List (List Char),
        ((Path.segmentsOf out.text).2.map Path.stepOf).filter (· ≠ .here) = names.map .name := by
    apply exists_eq_map_name
    intro step hmem
    have hhere : step ≠ .here := by simpa using List.of_mem_filter hmem
    have hnot : step ≠ .up := by
      rintro rfl
      exact hup'.2 hmem
    obtain ⟨segment, -, rfl⟩ := List.mem_map.1 (List.mem_of_mem_filter hmem)
    exact exists_eq_name_of_stepOf hhere hnot
  rw [hnames]
  by_cases hhere : out.firstStep = .here
  · exact ⟨[], names, by rw [hhere]; rfl, Or.inl rfl⟩
  rw [List.filter_cons_of_pos (by simpa using hhere), List.filter_nil] at hup' ⊢
  have hnot : out.firstStep ≠ .up := fun h => hup'.1 (by simp [h])
  unfold Path.firstStep at hhere hnot ⊢
  split_ifs at hhere hnot ⊢ with habs
  · exact ⟨[.root], names, rfl, Or.inr rfl⟩
  · obtain ⟨name, hname⟩ := exists_eq_name_of_stepOf hhere hnot
    exact ⟨[], name :: names, by rw [hname]; rfl, Or.inl rfl⟩

/-! ## Where the way ends -/

/-- Names lead from a directory to another one, or some of them do and the next one does not lead
on. -/
theorem exists_base
    {front : List Component} {location : Location}
    (hbase : Base fs front location)
    (names : List (List Char)) :
    (∃ target, Base fs (front ++ names.map .name) target) ∨
      ∃ init next more target, names = init ++ next :: more ∧
        Base fs (front ++ init.map .name) target ∧
        ∀ beyond, ¬Base fs (front ++ init.map .name ++ [.name next]) beyond := by
  induction names generalizing front location with
  | nil => exact Or.inl ⟨location, by simpa using hbase⟩
  | cons name names ih =>
    by_cases hnext : ∃ target, Base fs (front ++ [.name name]) target
    · obtain ⟨target, htarget⟩ := hnext
      rcases ih htarget with ⟨bottom, hbottom⟩ | ⟨init, next, more, bottom, rfl, hbottom, hstops⟩
      · exact Or.inl ⟨bottom, by simpa using hbottom⟩
      · exact Or.inr ⟨name :: init, next, more, bottom, rfl, by simpa using hbottom,
          by simpa using hstops⟩
    · exact Or.inr ⟨[], name, names, location, rfl, by simpa using hbase, by simpa using hnext⟩

/-- On the way to a new output directory a name is missing, or something is in the way. -/
theorem IsFresh.ground_or_bar
    (hfs : fs.WellFormed)
    (h : IsFresh fs out) :
    (∃ base location names, Ground fs out base location names) ∨
      ∃ base location first more, Bar fs out base location first more := by
  have hne := h.nonempty hfs
  obtain ⟨front, names, htrail, hfront⟩ := exists_trail_eq h.no_up
  obtain ⟨location, hstart⟩ : ∃ location, Base fs front location := by
    rcases hfront with rfl | rfl
    · exact ⟨fs.workingDirectory, hfs.workingDirectory, 0, Nat.zero_le _, .done _⟩
    · exact ⟨[], rfl, 0, Nat.zero_le _, .root hfs.workingDirectory (.done _)⟩
  rcases exists_base hstart names with ⟨target, htarget⟩ |
    ⟨init, next, more, target, rfl, htarget, hstops⟩
  · -- the whole way is there, so the path cannot be one that the system accepts
    refine Or.inl ⟨out.trail, target, [], ⟨hne, by simp, by rwa [htrail]⟩, Or.inr ⟨rfl, ?_⟩⟩
    intro hfits
    have hlookup : fs.lookup out = .ok (target, .directory) := by
      rw [lookup_eq_directory_iff, htrail]
      exact ⟨hfits, htarget⟩
    obtain ⟨found, entry, hfound⟩ := exists_found_of_lookup hlookup
    have habsent := h.absent (found, entry)
    rw [directoryPath, if_neg (by simpa using hne)] at habsent
    exact habsent (lookupLink_eq_ok_iff.2 hfound)
  · have hsplit : out.trail = front ++ init.map .name ++ (next :: more).map .name := by
      rw [htrail, List.map_append, List.append_assoc]
    by_cases htaken : fs.entry? (next :: target) = none
    · exact Or.inl ⟨front ++ init.map .name, target, next :: more, ⟨hne, hsplit, htarget⟩,
        Or.inl ⟨next, more, rfl, htaken⟩⟩
    · exact Or.inr ⟨front ++ init.map .name, target, next, more, ⟨hne, hsplit, htarget⟩, htaken,
        hstops⟩

end Dispatch
end LineSieve
