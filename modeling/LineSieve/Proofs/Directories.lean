import LineSieve.Process
import LineSieve.Proofs.FileTree

/-!
# Making directories

`MakesDirectories fs way later` says that a state comes from another one by making directories, each
where a path of the way leads and nothing was.  That is all that working out a destination does to a
tree, and it does not change what any path leads to.
-/

namespace LineSieve
namespace FileSystem

variable {fs later : FileSystem}

/-- A directory is made where nothing is, under the last name of the path. -/
theorem exists_locates_of_makeDirectory
    (hfs : fs.WellFormed)
    {path : Path}
    (h : fs.makeDirectory path = .ok later) :
    ∃ name directory, Locates fs path name directory ∧ Path.IsName name ∧ '\x00' ∉ name ∧
      fs.entry? (name :: directory) = none ∧ later = fs.put (name :: directory) .directory := by
  unfold makeDirectory at h
  split at h <;> cases h
  next location hresolve =>
    obtain ⟨name, hlast⟩ := hfs.exists_name_of_resolve hresolve (by simp)
    obtain ⟨directory, hlocates, ⟨hnone, hvacant⟩ | ⟨entry, -, hfound⟩⟩ :=
      exists_locates_of_resolve hlast hresolve
    · cases hvacant
      obtain ⟨hname, hsubset⟩ := Path.isName_of_mem_steps (List.mem_of_getLast? hlast)
      exact ⟨name, directory, hlocates, hname, fun hmem => hlocates.fits.no_nul (hsubset hmem),
        hnone, rfl⟩
    · cases hfound

/-- Directories have been made, each where a path of the way leads and nothing was. -/
structure MakesDirectories (fs : FileSystem) (way : List Path) (later : FileSystem) : Prop where
  workingDirectory : later.workingDirectory = fs.workingDirectory
  scratch : later.scratch = fs.scratch
  entry? : ∀ location, later.entry? location = fs.entry? location ∨
    fs.entry? location = none ∧ later.entry? location = some .directory ∧
      ∃ path ∈ way, later.lookup path = .ok (location, .directory)

namespace MakesDirectories

variable {way : List Path}

theorem refl
    (fs : FileSystem) (way : List Path) :
    MakesDirectories fs way fs :=
  ⟨rfl, rfl, fun _ => Or.inl rfl⟩

theorem keeps
    (h : MakesDirectories fs way later)
    {location : Location} {entry : Entry}
    (hentry : fs.entry? location = some entry) :
    later.entry? location = some entry := by
  rcases h.entry? location with heq | ⟨hnone, -⟩
  · rw [heq, hentry]
  · rw [hnone] at hentry
    cases hentry

theorem lookup
    (h : MakesDirectories fs way later)
    {path : Path} {location : Location} {entry : Entry}
    (hlookup : fs.lookup path = .ok (location, entry)) :
    later.lookup path = .ok (location, entry) :=
  lookup_mono h.workingDirectory (fun _ _ => h.keeps) hlookup

theorem trans
    {last : FileSystem} {way' : List Path}
    (h : MakesDirectories fs way later)
    (h' : MakesDirectories later way' last) :
    MakesDirectories fs (way ++ way') last where
  workingDirectory := h'.workingDirectory.trans h.workingDirectory
  scratch := h'.scratch.trans h.scratch
  entry? := by
    intro location
    rcases h.entry? location with heq | ⟨hnone, hdir, path, hmem, hlookup⟩
    · rw [← heq]
      rcases h'.entry? location with heq' | ⟨hnone, hdir, path, hmem, hlookup⟩
      · exact Or.inl heq'
      · exact Or.inr ⟨hnone, hdir, path, List.mem_append_right _ hmem, hlookup⟩
    · exact Or.inr ⟨hnone, h'.keeps hdir, path, List.mem_append_left _ hmem, h'.lookup hlookup⟩

theorem of_subset
    {way' : List Path}
    (h : MakesDirectories fs way later)
    (hsubset : way ⊆ way') :
    MakesDirectories fs way' later where
  workingDirectory := h.workingDirectory
  scratch := h.scratch
  entry? := by
    intro location
    rcases h.entry? location with heq | ⟨hnone, hdir, path, hmem, hlookup⟩
    · exact Or.inl heq
    · exact Or.inr ⟨hnone, hdir, path, hsubset hmem, hlookup⟩

/-- Made in a tree that is well formed, and so is what comes of it. -/
theorem of_makeDirectory
    (hfs : fs.WellFormed)
    {path : Path}
    (h : fs.makeDirectory path = .ok later) :
    MakesDirectories fs [path] later ∧ later.WellFormed := by
  obtain ⟨name, directory, hlocates, hname, hnul, hnone, rfl⟩ :=
    exists_locates_of_makeDirectory hfs h
  have hentry := entry?_put (List.cons_ne_nil name directory) fs .directory
  have hkeep : ∀ l e, fs.entry? l = some e →
      FileSystem.entry? (fs.put (name :: directory) .directory) l = some e := by
    intro l e hl
    rw [hentry, if_neg, hl]
    rintro rfl
    rw [hnone] at hl
    cases hl
  refine ⟨⟨rfl, rfl, ?_⟩, hfs.put hlocates.isDirectoryAt (by simp [hnone]) hname hnul
    hlocates.length_le (by simp)⟩
  intro location
  rw [hentry]
  split_ifs with heq
  · subst heq
    have hmade : Locates (fs.put (name :: directory) .directory) path name directory :=
      hlocates.mono rfl fun l e _ => hkeep l e
    refine Or.inr ⟨hnone, rfl, path, List.mem_singleton_self _, ?_⟩
    exact hmade.lookup_eq (by rw [hentry, if_pos rfl]) rfl
  · exact Or.inl rfl

end MakesDirectories

/-- Making a directory and those above it makes directories where these paths lead. -/
theorem makesDirectories_makeDirectoriesAt
    (hfs : fs.WellFormed)
    (paths : List Path) :
    MakesDirectories fs paths (fs.makeDirectoriesAt paths).1 ∧
      (fs.makeDirectoriesAt paths).1.WellFormed := by
  induction paths generalizing fs with
  | nil => exact ⟨.refl fs _, hfs⟩
  | cons path above ih =>
    rw [makeDirectoriesAt]
    by_cases hempty : path.text.isEmpty = true
    · rw [if_pos hempty]
      exact ⟨.refl fs _, hfs⟩
    rw [if_neg hempty]
    cases hmake : fs.makeDirectory path with
    | ok later =>
      obtain ⟨hmakes, hlater⟩ := MakesDirectories.of_makeDirectory hfs hmake
      exact ⟨hmakes.of_subset (by simp), hlater⟩
    | error cause =>
      cases cause with
      | notFound =>
        obtain ⟨habove, hmiddle⟩ := ih hfs
        simp only
        generalize fs.makeDirectoriesAt above = made at habove hmiddle ⊢
        rcases made with ⟨middle, error | ⟨⟩⟩
        · exact ⟨habove.of_subset (List.subset_cons_self _ _), hmiddle⟩
        · simp only
          cases hagain : middle.makeDirectory path with
          | error cause => exact ⟨habove.of_subset (List.subset_cons_self _ _), hmiddle⟩
          | ok later =>
            obtain ⟨hmakes, hlater⟩ := MakesDirectories.of_makeDirectory hmiddle hagain
            exact ⟨(habove.trans hmakes).of_subset (by simp), hlater⟩
      | _ => exact ⟨.refl fs _, hfs⟩

end FileSystem
end LineSieve
