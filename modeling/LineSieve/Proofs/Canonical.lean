import LineSieve.Proofs.Processing
import LineSieve.Proofs.Walked

/-!
# Paths without links

The absolute path of a location points at it, and what a path leads to through all links is no link
itself.  So a file that is processed in place takes the place of something that is no link: a link at
the end of its path has been followed before.
-/

namespace LineSieve
namespace FileSystem

open Walk

variable {fs : FileSystem}

/-- The absolute path of a location joins its names to the root. -/
theorem absolutePath_eq_pathBelow
    {location : Location}
    (hproper : Proper location) :
    absolutePath location = pathBelow ⟨['/']⟩ location := by
  by_cases hempty : location = []
  · rw [hempty]
    rfl
  have hinner := isInner_ofComponents hproper hempty
  rw [← join_ofComponents ⟨['/']⟩ hproper hempty, Path.join, hinner.isAbsolute]
  obtain ⟨first, others, hreverse⟩ :=
    List.exists_cons_of_ne_nil (List.reverse_ne_nil_iff.2 hempty)
  simp [absolutePath, hreverse, Path.ofComponents, Path.ofSegments, Component.text]

theorem points_absolutePath
    (hfs : fs.WellFormed)
    {name : List Char} {directory : Location}
    (h : fs.entry? (name :: directory) ≠ none) :
    Points fs (absolutePath (name :: directory)) name directory := by
  have hdir := hfs.parent name directory h
  have hproper : Proper (name :: directory) := by
    rw [← List.append_nil (name :: directory)] at h
    exact hfs.proper h
  obtain ⟨hname, habove⟩ := Proper.cons.1 hproper
  obtain ⟨htrail, hlast⟩ := Path.trail_join_name (pathBelow ⟨['/']⟩ directory) hname
  have hwalks : Walks fs [] (directory.reverse.map .name) directory 0 := by
    have hdown : fs.isDirectoryAt (directory ++ []) = true := by rwa [List.append_nil]
    simpa using hfs.walks hdown
  rw [absolutePath_eq_pathBelow hproper, pathBelow_cons]
  refine ⟨hlast, hfs.length_le name directory h, hdir, .root :: directory.reverse.map .name, 0, ?_,
    Nat.zero_le _, .root hfs.workingDirectory hwalks⟩
  rw [htrail, trail_pathBelow habove, Path.trail_root]
  rfl

/-- Steps that are followed through all links lead to no link. -/
theorem isLink_eq_false_of_follow
    (hfs : fs.WellFormed)
    {allowed : Nat} {location target : Location} {entry : Entry} {steps : List Component}
    (hstart : ∀ e, fs.entry? location = some e → e.isLink = false)
    (h : fs.follow true allowed location steps = .ok (.found target entry)) :
    entry.isLink = false := by
  replace h := follows_of_follow h
  generalize hresolved : Resolved.found target entry = resolved at h
  induction h with
  | done hentry =>
    cases hresolved
    exact hstart _ hentry
  | vacant => cases hresolved
  | stop _ _ _ hlast => cases hlast
  | root hdir _ ih => exact ih (by rintro e ⟨⟩; rfl) hresolved
  | here hdir _ ih => exact ih hstart hresolved
  | @up allowed location rest resolved hdir _ ih =>
    refine ih (fun e he => ?_) hresolved
    cases location with
    | nil => exact hstart e he
    | cons name above =>
      have habove := hfs.parent name above (by simp [(isDirectoryAt_iff _).1 hdir])
      rw [isDirectoryAt_iff] at habove
      rw [List.tail_cons, habove] at he
      cases he
      rfl
  | jump hdir hlen hentry hgo _ ih => exact ih hstart hresolved
  | enter hdir hlen hentry hkind _ ih =>
    refine ih (fun e he => ?_) hresolved
    rw [hentry] at he
    cases he
    exact hkind

theorem isLink_eq_false_of_lookup
    (hfs : fs.WellFormed)
    {path : Path} {location : Location} {entry : Entry}
    (h : fs.lookup path = .ok (location, entry)) :
    entry.isLink = false := by
  rw [lookup_eq_ok_iff] at h
  rw [resolve_of_fits _ (fits_of_resolve h)] at h
  refine isLink_eq_false_of_follow hfs ?_ h
  rw [(isDirectoryAt_iff _).1 hfs.workingDirectory]
  rintro e ⟨⟩
  rfl

/-- The absolute path of what a path leads to, if it is not too long. -/
theorem canonicalize_eq_ok_iff
    {path canonical : Path} :
    fs.canonicalize path = .ok canonical ↔
      ∃ location entry, fs.lookup path = .ok (location, entry) ∧
        canonical = absolutePath location ∧
        (Utf8.encode canonical.text).length ≤ pathLimit := by
  unfold canonicalize
  cases fs.lookup path with
  | error e => simp
  | ok found =>
    obtain ⟨location, entry⟩ := found
    constructor
    · intro h
      simp only at h
      split_ifs at h with hlen
      cases h
      exact ⟨location, entry, rfl, rfl, Nat.not_lt.1 hlen⟩
    · rintro ⟨_, _, ⟨⟩, rfl, hlen⟩
      simp only
      rw [if_neg (Nat.not_lt.2 hlen)]

end FileSystem

namespace Process

open FileSystem

variable {fs : FileSystem} {path destination : Path} {location : Location}

/-- What is replaced in place is what the path itself names, unless that is a link. -/
theorem inPlaceTarget_eq_ok_iff :
    inPlaceTarget fs path = .ok destination ↔
      if fs.isLink path = true then fs.canonicalize path = .ok destination else path = destination := by
  unfold inPlaceTarget
  split_ifs
  · cases fs.canonicalize path <;> simp
  · simp

/-- Nothing that is processed in place takes the place of a link. -/
theorem entry?_ne_link_of_inPlaceTarget
    (hfs : fs.WellFormed)
    (hplace : inPlaceTarget fs path = .ok destination)
    (htarget : CanTake fs destination location)
    (link : Path) :
    fs.entry? location ≠ some (.link link) := by
  intro hlink
  -- what stands in the place has been found under the path of the destination
  have hfound : fs.lookupLink destination = .ok (location, .link link) := by
    rw [lookupLink_eq_ok_iff]
    rcases htarget with hvacant | ⟨entry, -, hfound⟩
    · have hnone : fs.entry? location = none := holds_of_resolve hvacant
      rw [hlink] at hnone
      cases hnone
    · have hentry : fs.entry? location = some entry := holds_of_resolve hfound
      rw [hlink] at hentry
      cases hentry
      exact hfound
  rw [inPlaceTarget_eq_ok_iff] at hplace
  split_ifs at hplace with hislink
  · obtain ⟨target, entry, hlookup, rfl, -⟩ := canonicalize_eq_ok_iff.1 hplace
    have hentry : fs.entry? target = some entry := holds_of_resolve (lookup_eq_ok_iff.1 hlookup)
    have hno := isLink_eq_false_of_lookup hfs hlookup
    rw [lookupLink_eq_ok_iff] at hfound
    cases target with
    | nil =>
      rw [resolve_of_fits _ (fits_of_resolve hfound)] at hfound
      have hsteps : (absolutePath []).steps = [.root, .here] := rfl
      rw [hsteps, follow_root _ _ _ hfs.workingDirectory, follow_here _ _ _ rfl, follow_nil,
        entry?_root] at hfound
      cases hfound
    | cons name directory =>
      have hpoints := points_absolutePath hfs (show fs.entry? (name :: directory) ≠ none by
        rw [hentry]
        simp)
      rw [hpoints.resolve_eq hentry (Or.inl rfl)] at hfound
      obtain ⟨-, heq⟩ := answer_eq_ok hfound
      cases heq
      cases hno
  · cases hplace
    rw [isLink, hfound] at hislink
    exact hislink rfl

end Process
end LineSieve
