import LineSieve.Proofs.Selection

/-!
# The image of a walked directory

Nothing is at the output directory when a run begins, and what is there on the way to it are
directories.  Then each file of the walk has a destination of its own, at its path below the root.
A file is published there unless it is no text or the system refuses a path or a name; and nothing
else comes to lie below the output directory but the directories of the destinations.

Two things are taken for granted about scratch files: their names are free, as `Scratch` says, and the
system accepts their paths.  Where a success is promised, the latter is a condition, `AcceptsScratch`.
-/

namespace LineSieve
namespace Dispatch

open FileSystem Process Walk

/-! ## Output directories -/

/-- Every entry on the way to a path leads to a directory. -/
def OnDirectories (fs : FileSystem) (out : Path) : Prop :=
  ∀ front name back location, out.trail = front ++ .name name :: back → Base fs front location →
    fs.entry? (name :: location) ≠ none → ∃ target, Base fs (front ++ [.name name]) target

/-- No name in a path is longer than the system accepts. -/
def ShortNames (path : Path) : Prop :=
  ∀ name, .name name ∈ path.components → (Utf8.encode name).length ≤ nameLimit

section Output

variable {fs : FileSystem} {out : Path} {base : List Component} {location : Location}
  {names : List (List Char)}

/-- On the way to a new output directory a name is missing, and nothing is in the way. -/
theorem IsFresh.exists_ground
    (hfs : fs.WellFormed)
    (h : IsFresh fs out)
    (hon : OnDirectories fs out) :
    ∃ base location names, Mirrored.Ground fs out base location names := by
  rcases h.ground_or_bar hfs with hground | ⟨base, location, first, more, hbar⟩
  · exact hground
  · obtain ⟨target, htarget⟩ :=
      hon base first (more.map .name) location hbar.trail hbar.leads hbar.taken
    exact absurd htarget (hbar.stops target)

/-- The names that are there are not too long, so only those that are missing matter. -/
theorem Mirrored.Approach.shortNames_iff
    (h : Approach fs out base location names) :
    ShortNames out ↔ ∀ name ∈ names, (Utf8.encode name).length ≤ nameLimit := by
  obtain ⟨-, links, -, hwalks⟩ := h.leads
  have hcomponents : ∀ name, .name name ∈ out.components ↔ .name name ∈ base ∨ name ∈ names := by
    intro name
    rw [Path.components_eq, h.trail]
    split_ifs <;> simp
  constructor
  · intro hshort name hmem
    exact hshort name ((hcomponents name).2 (Or.inr hmem))
  · intro hshort name hmem
    rcases (hcomponents name).1 hmem with hbase | hnames
    · exact hwalks.length_le_of_mem hbase
    · exact hshort name hnames

theorem isFresh_of_error
    {e : IoError}
    (hup : .up ∉ out.components)
    (h : fs.lookupLink (directoryPath out) = .error e) :
    IsFresh fs out := by
  refine ⟨hup, fun found hfound => ?_⟩
  rw [h] at hfound
  cases hfound

/-- If all names but the last one are there, the path is on directories. -/
theorem onDirectories_of_absent
    (hfs : fs.WellFormed)
    {last : List Char}
    (htrail : out.trail = (names ++ [last]).map .name)
    (hdir : fs.isDirectoryAt (names.reverse ++ fs.workingDirectory) = true)
    (hnone : fs.entry? (last :: (names.reverse ++ fs.workingDirectory)) = none) :
    OnDirectories fs out := by
  intro front next back location hsplit hbase hentry
  rw [htrail, List.map_eq_append_iff] at hsplit
  obtain ⟨init, rest, hnames, rfl, hrest⟩ := hsplit
  obtain ⟨first, more, rfl, heq, -⟩ := List.map_eq_cons_iff.1 hrest
  cases heq
  rcases List.eq_nil_or_concat more with rfl | ⟨front, final, rfl⟩
  · obtain ⟨rfl, heq⟩ := List.append_inj' hnames rfl
    cases heq
    rw [hbase.unique (.of_names hfs hdir), hnone] at hentry
    exact absurd rfl hentry
  · rw [List.concat_eq_append, ← List.cons_append, ← List.append_assoc] at hnames
    obtain ⟨rfl, -⟩ := List.append_inj' hnames rfl
    have hnext : Base fs ((init ++ [next]).map .name) _ :=
      .of_names hfs (hfs.isDirectoryAt_of_prefix hdir ⟨front, by simp⟩)
    rw [List.map_append] at hnext
    exact ⟨_, hnext⟩

end Output

/-! ## What is reported -/

/-- The system accepts the path of the scratch file for a destination: the absolute path of the directory
in which it is written, with its name. -/
def AcceptsScratch (fs : FileSystem) (destination : Path) : Prop :=
  Fits (fs.scratchPath (scratchDirectory destination))

/-- What is reported about a file whose path below the root is `below`: its destination is at the
same path below the output directory, unless the directories for it cannot be made.  It is a success
only if it is text and the system accepts its destination; and then it is, if the system also accepts its
scratch file. -/
structure Mirrors (fs : FileSystem) (out root below : Path) (result : FileResult) : Prop where
  relative : result.sourcePath.relativeTo? root = some below
  names : ∃ names, names ≠ [] ∧ Proper names ∧ below = Path.ofComponents (names.map .name)
  outputPath : Fits (scratchDirectory (out.join below)) → ShortNames out →
    result.outputPath = some (out.join below)
  refused : ¬(Fits (scratchDirectory (out.join below)) ∧ ShortNames out) → result.outputPath = none
  of_success : result.success = true →
    (∃ text, fs.contentOf result.sourcePath = .ok (Utf8.encode text)) ∧ ShortNames out ∧
      Fits (out.join below)
  success_iff : AcceptsScratch fs (out.join below) →
    (result.success = true ↔
      (∃ text, fs.contentOf result.sourcePath = .ok (Utf8.encode text)) ∧ ShortNames out ∧
        Fits (out.join below))

/-- A tree that has the complete contents of the successful results below the output directory, new
directories on the way to their destinations, and everything that it had before. -/
structure IsImage (config : Config) (fs later : FileSystem) (out root : Path)
    (results : List FileResult) : Prop where
  kept : ∀ location entry, fs.entry? location = some entry → later.entry? location = some entry
  added : ∀ location entry, fs.entry? location = none → later.entry? location = some entry →
    (entry = .directory ∧ ∃ result ∈ results,
        ∃ directory ∈ way config (some root) result.sourcePath,
          later.lookup directory = .ok (location, .directory)) ∨
      entry.isFile = true ∧ ∃ top names, later.lookup out = .ok (top, .directory) ∧
        location = names ++ top
  published : ∀ result ∈ results, result.success = true → ∃ top names target entry,
    later.lookup out = .ok (top, .directory) ∧ Proper names ∧
      result.sourcePath = pathBelow root names ∧ result.outputPath = some target ∧
      later.lookupLink target = .ok (names ++ top, entry) ∧
      IsFinal config fs result.sourcePath entry
  files : ∀ top, later.lookup out = .ok (top, .directory) → ∀ names content mode,
    later.entry? (names ++ top) = some (.file content mode) ↔
      ∃ result ∈ results, result.success = true ∧ Proper names ∧
        result.sourcePath = pathBelow root names ∧
        IsFinal config fs result.sourcePath (.file content mode)
  scratch : ∀ worker : Nat, later.scratch[worker]? = none

theorem IsFinal.unique
    {config : Config} {fs : FileSystem} {path : Path} {entry entry' : Entry}
    (h : IsFinal config fs path entry)
    (h' : IsFinal config fs path entry') :
    entry = entry' := by
  obtain ⟨text, mode, hcontent, hmode, rfl⟩ := h
  obtain ⟨text', mode', hcontent', hmode', rfl⟩ := h'
  rw [hcontent] at hcontent'
  rw [hmode] at hmode'
  obtain rfl := Utf8.encode_injective (Except.ok.inj hcontent')
  obtain rfl := Except.ok.inj hmode'
  rfl

namespace Mirrored

section File

variable {config : Config} {fs : FileSystem} {out root path : Path} {base : List Component}
  {location rootLocation : Location} {names : List (List Char)} {name : List Char}
  {above : List (List Char)} {content : List UInt8} {mode : Nat}

/-- The directories for a destination can be made unless the system refuses a path or a name. -/
theorem obstacle?_eq_none_iff
    (hfs : fs.WellFormed)
    (happroach : Approach fs out base location names)
    (hfound : IsFound fs root rootLocation path name above content mode) :
    obstacle? out root names path = none ↔ Fits (bottomOf out root path) ∧ ShortNames out := by
  have habove : ∀ long ∈ above, (Utf8.encode long).length ≤ nameLimit := by
    intro long hmem
    have hdir := hfound.isDirectoryAt hfs
    rw [← List.reverse_reverse above] at hdir
    exact hfs.length_le_of_mem hdir (List.mem_reverse.2 hmem)
  rw [happroach.shortNames_iff]
  constructor
  · intro hnone
    have hfits := fits_of_obstacle?_eq_none hnone
    refine ⟨hfits, fun long hmem => ?_⟩
    rw [obstacle?, barrier?, refusal?_eq_none_of_fits hfits] at hnone
    simp only at hnone
    split_ifs at hnone with hlong
    by_contra hlen
    exact hlong ⟨long, List.mem_append_left _ hmem, Nat.not_le.1 hlen⟩
  · rintro ⟨hfits, hshort⟩
    rw [obstacle?, barrier?, refusal?_eq_none_of_fits hfits]
    simp only
    rw [if_neg]
    rintro ⟨long, hmem, hlen⟩
    rw [namesOf_isFound hfs hfound, List.tail_cons, chainOf, List.mem_append, List.mem_reverse]
      at hmem
    exact absurd (hmem.elim (hshort long) (habove long)) (Nat.not_le.2 hlen)

/-- The directory of a destination that the system accepts is accepted as well. -/
theorem fits_bottomOf
    (hfs : fs.WellFormed)
    (hfound : IsFound fs root rootLocation path name above content mode)
    (hfits : Fits (targetOf out root path)) :
    Fits (bottomOf out root path) := by
  have hname := (Proper.cons.1 (hfound.proper hfs)).1
  refine (@scratchDirectory_spec (targetOf out root path) name ?_).2 hfits
  rw [targetOf_isFound hfs hfound]
  exact (Path.trail_join_name (pathBelow out above) hname).2

theorem outputPath_prospect
    (config : Config)
    (hfs : fs.WellFormed)
    (happroach : Approach fs out base location names)
    (hfound : IsFound fs root rootLocation path name above content mode) :
    (Fits (bottomOf out root path) ∧ ShortNames out →
        (prospect config fs out root location names path).result.outputPath =
          some (targetOf out root path)) ∧
      (¬(Fits (bottomOf out root path) ∧ ShortNames out) →
        (prospect config fs out root location names path).result.outputPath = none) := by
  rw [← obstacle?_eq_none_iff hfs happroach hfound]
  simp only [prospect]
  cases obstacle? out root names path with
  | none => exact ⟨fun _ => rfl, fun h => absurd rfl h⟩
  | some e => exact ⟨fun h => absurd h (Option.some_ne_none e), fun _ => rfl⟩

/-- A file is reported as a success just when it is published. -/
theorem success_prospect_iff_published
    (config : Config) (fs : FileSystem) (out root : Path) (location : Location)
    (names : List (List Char)) (path : Path) :
    (prospect config fs out root location names path).result.success = true ↔
      ∃ place entry,
        (prospect config fs out root location names path).published = some (place, entry) := by
  simp only [prospect]
  cases obstacle? out root names path with
  | some e => simp [FileResult.success]
  | none =>
    simp only [FileResult.success, Sights.result, Sights.outcome, Sights.published, seen]
    cases sourceOf fs path with
    | error e => simp
    | ok source =>
      cases hfault : (sift config.rules source.1).fault <;>
        cases answer (targetOf out root path) _ <;> simp [hfault]

/-- That happens if the file can be read and is text, and the system accepts the path and the names
of its destination. -/
theorem success_prospect_iff
    (config : Config)
    (hfs : fs.WellFormed)
    (hroot : fs.lookup root = .ok (rootLocation, .directory))
    (hground : Ground fs out base location names)
    (hfound : IsFound fs root rootLocation path name above content mode) :
    (prospect config fs out root location names path).result.success = true ↔
      (∃ text, fs.contentOf path = .ok (Utf8.encode text)) ∧ ShortNames out ∧
        Fits (targetOf out root path) := by
  have hpoints := hfound.points hfs hroot
  have hobstacle := @obstacle?_eq_none_iff fs out root path base location rootLocation names name
    above content mode hfs hground.toApproach hfound
  rw [success_prospect_iff_published, hpoints.contentOf_eq hfound.entry?]
  constructor
  · rintro ⟨place, entry, hpublished⟩
    obtain ⟨hfits, htarget, -, -, hfault, -⟩ :=
      eq_of_published hfs hroot hground hfound hpublished
    obtain ⟨text, rfl⟩ := (sift_fault_eq_none_iff config.rules content).1 hfault
    refine ⟨⟨text, answer_of_fits hfits⟩, (hobstacle.1 ?_).2, htarget⟩
    by_contra hstopped
    obtain ⟨e, he⟩ := Option.ne_none_iff_exists'.1 hstopped
    simp only [prospect, he] at hpublished
    cases hpublished
  · rintro ⟨⟨text, htext⟩, hshort, htarget⟩
    obtain ⟨hfits, heq⟩ := answer_eq_ok htext
    have hfault : (sift config.rules content).fault = none :=
      (sift_fault_eq_none_iff config.rules content).2 ⟨text, heq.symm⟩
    simp only [prospect, hobstacle.2 ⟨fits_bottomOf hfs hfound htarget, hshort⟩, Sights.published,
      seen, sourceOf_eq hpoints hfound.entry?, answer_of_fits hfits, answer_of_fits htarget, hfault]
    exact ⟨_, _, rfl⟩

theorem sourcePath_prospect
    (config : Config) (fs : FileSystem) (out root : Path) (location : Location)
    (names : List (List Char)) (path : Path) :
    (prospect config fs out root location names path).result.sourcePath = path := by
  simp only [prospect]
  cases obstacle? out root names path <;> rfl

theorem mirrors_prospect
    (config : Config)
    (hfs : fs.WellFormed)
    (hroot : fs.lookup root = .ok (rootLocation, .directory))
    (hground : Ground fs out base location names)
    (hfound : IsFound fs root rootLocation path name above content mode) :
    Mirrors fs out root (Path.ofComponents ((name :: above).reverse.map .name))
      (prospect config fs out root location names path).result := by
  have hnames := hfound.proper hfs
  have htarget : out.join (Path.ofComponents ((name :: above).reverse.map .name)) =
      targetOf out root path := by
    rw [join_ofComponents out hnames (List.cons_ne_nil _ _), targetOf_isFound hfs hfound]
  have houtput := outputPath_prospect config hfs hground.toApproach hfound
  have hsuccess := success_prospect_iff config hfs hroot hground hfound
  refine ⟨?_, ⟨(name :: above).reverse, by simp, ?_, rfl⟩, ?_, ?_, ?_, ?_⟩
  · rw [sourcePath_prospect, hfound.path_eq]
    exact relativeTo?_pathBelow root hnames
  · exact fun next hmem => hnames next (List.mem_reverse.1 hmem)
  · rw [htarget]
    exact fun hfits hshort => houtput.1 ⟨hfits, hshort⟩
  · rw [htarget]
    exact houtput.2
  · rw [htarget, sourcePath_prospect]
    exact hsuccess.1
  · rw [htarget, sourcePath_prospect]
    exact fun _ => hsuccess

end File

/-! ## What is there afterwards -/

section Image

variable {config : Config} {fs later : FileSystem} {out root path : Path} {base : List Component}
  {location rootLocation top : Location} {names : List (List Char)} {paths : List Path}
  {name : List Char} {above : List (List Char)} {content : List UInt8} {mode : Nat}

variable (hfs : fs.WellFormed) (hroot : fs.lookup root = .ok (rootLocation, .directory))
  (hground : Ground fs out base location names)
  (hpaths : ∀ path ∈ paths, ∃ name above content mode,
    IsFound fs root rootLocation path name above content mode)
  (hgrown : Grown fs paths (prospect config fs out root location names) later)
  (hsettled : Settled fs paths (prospect config fs out root location names) later)

include hfs hroot hground hpaths hgrown in
/-- Nothing but directories comes to lie on the way to the output directory. -/
theorem clear_output :
    Clear later location names := by
  intro front hpre hne
  rcases hgrown.accounted (front.reverse ++ location) with hsame | ⟨_, _, _, _, hdir⟩ |
    ⟨other, hother, entry, hpublished, -⟩
  · refine Or.inl (hsame.trans ?_)
    rcases hground.gap with ⟨first, more, rfl, hnone⟩ | ⟨rfl, -⟩
    · exact entry?_front_eq_none hfs hnone hpre hne
    · exact absurd (List.prefix_nil.1 hpre) hne
  · exact Or.inr hdir
  · obtain ⟨name', above', content', mode', hfound'⟩ := hpaths other hother
    obtain ⟨-, -, heq, -⟩ := eq_of_published hfs hroot hground hfound' hpublished
    exact absurd heq.symm
      (target_ne_chain hfs hfound' hfound' (hpre.trans (List.prefix_append _ _)))

include hfs hroot hground hpaths hgrown in
theorem eq_of_lookup_output
    (h : later.lookup out = .ok (top, .directory)) :
    top = names.reverse ++ location :=
  (hgrown.base hground.leads).eq_of_lookup hground.trail
    (clear_output hfs hroot hground hpaths hgrown) h

include hfs hroot hground hgrown hsettled in
/-- The file of a success is below the output directory, which is there. -/
theorem exists_published_of_success
    (hmem : path ∈ paths)
    (hfound : IsFound fs root rootLocation path name above content mode)
    (hsuccess : (prospect config fs out root location names path).result.success = true) :
    ∃ entry, (prospect config fs out root location names path).published =
        some (name :: above ++ (names.reverse ++ location), entry) ∧
      later.entry? (name :: above ++ (names.reverse ++ location)) = some entry ∧
      later.lookup out = .ok (names.reverse ++ location, .directory) := by
  obtain ⟨place, entry, hpublished⟩ :=
    (success_prospect_iff_published config fs out root location names path).1 hsuccess
  obtain ⟨-, htarget, rfl, -⟩ := eq_of_published hfs hroot hground hfound hpublished
  have hentry := hsettled.published path hmem _ _ hpublished
  rw [targetOf_isFound hfs hfound] at htarget
  have hdir := hgrown.wellFormed.parent name (above ++ (names.reverse ++ location))
    (by rw [← List.cons_append, hentry]; simp)
  exact ⟨entry, hpublished, hentry, (hgrown.base hground.leads).lookup_of_made hgrown.wellFormed
    hground.trail (htarget.of_prefix (prefix_pathBelow (hfound.proper hfs)) hground.nonempty)
    (hgrown.wellFormed.isDirectoryAt_of_append hdir)⟩

include hfs hroot hground hpaths hgrown hsettled in
/-- The files below the output directory are those of the successes, at their names. -/
theorem entry?_output_iff
    (hplace : config.output = .directory out .mirrored)
    (htop : later.lookup out = .ok (top, .directory))
    (names' : List (List Char)) :
    later.entry? (names' ++ top) = some (.file content mode) ↔
      ∃ path ∈ paths,
        (prospect config fs out root location names path).result.success = true ∧
        Proper names' ∧ path = pathBelow root names' ∧
        IsFinal config fs path (.file content mode) := by
  have hdelivery := Mirrored.delivery hfs hplace hroot hground hpaths
  obtain rfl := eq_of_lookup_output hfs hroot hground hpaths hgrown htop
  constructor
  · intro hentry
    rcases hgrown.accounted (names' ++ (names.reverse ++ location)) with hsame |
      ⟨_, _, _, _, hdir⟩ | ⟨path, hmem, entry, hpublished, hentry'⟩
    · have hfits := ((lookup_eq_directory_iff out _).1 htop).1
      rw [hsame, entry?_below_eq_none hfs hground hfits] at hentry
      cases hentry
    · rw [hdir] at hentry
      cases hentry
    · obtain ⟨name, above, content', mode', hfound⟩ := hpaths path hmem
      obtain ⟨-, -, heq, -⟩ := eq_of_published hfs hroot hground hfound hpublished
      obtain rfl := List.append_cancel_right heq
      obtain rfl : entry = .file content mode := Option.some.inj (hentry'.symm.trans hentry)
      exact ⟨path, hmem, (success_prospect_iff_published ..).2 ⟨_, _, hpublished⟩,
        hfound.proper hfs, hfound.path_eq, hdelivery.isFinal hmem hpublished⟩
  · rintro ⟨path, hmem, hsuccess, hproper, hpath, hfinal⟩
    obtain ⟨name, above, content', mode', hfound⟩ := hpaths path hmem
    obtain ⟨entry, hpublished, hentry, -⟩ :=
      exists_published_of_success hfs hroot hground hgrown hsettled hmem hfound hsuccess
    obtain rfl : name :: above = names' := by
      rw [← namesOf_isFound hfs hfound, hpath, namesOf_pathBelow hproper]
    rw [hentry, (hdelivery.isFinal hmem hpublished).unique hfinal]

include hfs hroot hground hpaths hgrown hsettled in
/-- The tree afterwards is an image of what is reported. -/
theorem isImage_of_settled
    (hplace : config.output = .directory out .mirrored)
    (hscratch : ∀ worker : Nat, later.scratch[worker]? = none) :
    IsImage config fs later out root
      (paths.map fun path => (prospect config fs out root location names path).result) := by
  have hdelivery := Mirrored.delivery hfs hplace hroot hground hpaths
  refine ⟨hgrown.keeps, ?_, ?_, ?_, hscratch⟩
  · intro place entry hnone hentry
    rcases hgrown.accounted place with hsame | ⟨path, hmem, hmade, -, hdir⟩ |
      ⟨path, hmem, entry', hpublished, hentry'⟩
    · rw [hsame, hnone] at hentry
      cases hentry
    · refine Or.inl ⟨Option.some.inj (hentry.symm.trans hdir), _, List.mem_map_of_mem hmem, ?_⟩
      rw [sourcePath_prospect]
      exact hdelivery.made hmem hgrown hmade hdir
    · obtain ⟨name, above, content, mode, hfound⟩ := hpaths path hmem
      have hsuccess := (success_prospect_iff_published ..).2 ⟨_, _, hpublished⟩
      obtain ⟨_, hpublished', -, htop⟩ :=
        exists_published_of_success hfs hroot hground hgrown hsettled hmem hfound hsuccess
      obtain ⟨-, -, -, -, -, rfl⟩ := eq_of_published hfs hroot hground hfound hpublished
      obtain rfl := Option.some.inj (hentry.symm.trans hentry')
      rw [hpublished] at hpublished'
      cases hpublished'
      exact Or.inr ⟨rfl, _, _, htop, rfl⟩
  · rw [List.forall_mem_map]
    intro path hmem hsuccess
    obtain ⟨name, above, content, mode, hfound⟩ := hpaths path hmem
    obtain ⟨entry, hpublished, hentry, htop⟩ :=
      exists_published_of_success hfs hroot hground hgrown hsettled hmem hfound hsuccess
    obtain ⟨target, htarget, hlookup⟩ := hdelivery.target hmem hgrown hpublished hentry
    obtain ⟨-, hshort, hfits⟩ := (success_prospect_iff config hfs hroot hground hfound).1 hsuccess
    rw [target?_isFound hfs hplace hfound] at htarget
    refine ⟨_, name :: above, target, entry, htop, hfound.proper hfs, ?_, ?_, hlookup, ?_⟩
    · rw [sourcePath_prospect, hfound.path_eq]
    · rw [← htarget]
      exact (outputPath_prospect config hfs hground.toApproach hfound).1
        ⟨fits_bottomOf hfs hfound hfits, hshort⟩
    · rw [sourcePath_prospect]
      exact hdelivery.isFinal hmem hpublished
  · intro top htop names' content mode
    rw [entry?_output_iff hfs hroot hground hpaths hgrown hsettled hplace htop]
    simp only [List.mem_map, exists_exists_and_eq_and, sourcePath_prospect]

include hfs hground hpaths in
/-- Different files have different destinations. -/
theorem outputPath_ne
    {path' : Path}
    (hmem : path ∈ paths)
    (hmem' : path' ∈ paths)
    (hne : path ≠ path')
    {target target' : Path}
    (htarget : (prospect config fs out root location names path).result.outputPath = some target)
    (htarget' : (prospect config fs out root location names path').result.outputPath =
      some target') :
    target.same target' = false := by
  have htargetOf : ∀ {path target : Path}, path ∈ paths →
      (prospect config fs out root location names path).result.outputPath = some target →
        target = targetOf out root path := by
    intro path target hmem htarget
    obtain ⟨name, above, content, mode, hfound⟩ := hpaths path hmem
    obtain ⟨hsome, hnone⟩ := outputPath_prospect config hfs hground.toApproach hfound
    by_cases hopen : Fits (bottomOf out root path) ∧ ShortNames out
    · exact (Option.some.inj ((hsome hopen).symm.trans htarget)).symm
    · rw [hnone hopen] at htarget
      cases htarget
  obtain ⟨name, above, content, mode, hfound⟩ := hpaths path hmem
  obtain ⟨name', above', content', mode', hfound'⟩ := hpaths path' hmem'
  rw [Path.same, beq_eq_false_iff_ne, htargetOf hmem htarget, htargetOf hmem' htarget',
    targetOf_isFound hfs hfound, targetOf_isFound hfs hfound']
  intro heq
  have hnames := pathBelow_injective (hfound.proper hfs) (hfound'.proper hfs) heq
  exact hne (by rw [hfound.path_eq, hfound'.path_eq, hnames])

end Image
end Mirrored

variable {start : PoolStart} {config : Config} {parallelism : Parallelism} {fs : FileSystem}
  {out root : Path} {glob : Glob} {pattern : List Char} {recursive : Bool}

/-- A run that puts the files of a walk into a new directory leaves an image of them there.  Each
file is reported once.  Its destination is at its path below the root, and no two files have the
same destination.  It is a success if it can be read and is text, unless the system refuses a name
or the path of the destination or of the scratch file.  The files below the output directory are those
of the successes, one by one; everything that was there before is kept.  If the pool does not start,
nothing is done. -/
theorem runs_mirror_files
    (hfs : fs.WellFormed)
    (hscratch : ∀ worker : Nat, fs.scratch[worker]? = none)
    (hplace : config.output = .directory out .mirrored)
    (hfresh : IsFresh fs out)
    (hon : OnDirectories fs out)
    (hcheck : checkDirectory fs root = .ok ())
    (hglob : compileGlob pattern = .ok glob) :
    Runs start config parallelism fs root pattern recursive
        (processDirectory start config fs root pattern recursive).1
        (processDirectory start config fs root pattern recursive).2 ∧
      ∀ later answer, Runs start config parallelism fs root pattern recursive later answer →
        Unstarted start fs later answer ∨ ∃ results, answer = .ok results ∧
          results.map (·.sourcePath) = matching fs root glob recursive ∧
          (∀ result ∈ results, ∃ below, Mirrors fs out root below result) ∧
          (results.Pairwise fun a b => ∀ target target', a.outputPath = some target →
            b.outputPath = some target' → target.same target' = false) ∧
          IsImage config fs later out root results := by
  refine ⟨runs_processDirectory start config parallelism fs root pattern recursive, ?_⟩
  intro later answer hruns
  refine (hruns.unstarted_or_exists_results hcheck hglob).imp_right ?_
  rintro ⟨-, results, rfl⟩
  obtain ⟨hblank, rootLocation, hroot⟩ := lookup_of_checkDirectory hcheck
  obtain ⟨base, location, names, hground⟩ := hfresh.exists_ground hfs hon
  have hpaths : ∀ path ∈ matching fs root glob recursive, ∃ name above content mode,
      IsFound fs root rootLocation path name above content mode :=
    fun path hmem => exists_isFound hroot hmem
  have d := Mirrored.discipline hfs hplace hroot hblank hground hpaths hscratch
  obtain ⟨hgrown, hsettled, hscratch', hresults⟩ := settled_of_runs d hfs hscratch hglob hruns
  refine ⟨results, rfl, map_sourcePath_of_runs hfs hglob hruns, ?_, ?_, ?_⟩
  · rw [hresults, List.forall_mem_map]
    intro path hmem
    obtain ⟨name, above, content, mode, hfound⟩ := hpaths path hmem
    exact ⟨_, Mirrored.mirrors_prospect config hfs hroot hground hfound⟩
  · rw [hresults, List.pairwise_map]
    refine (nodup_matching hfs root glob recursive).imp_of_mem ?_
    intro path path' hmem hmem' hne target target'
    exact Mirrored.outputPath_ne hfs hground hpaths hmem hmem' hne
  · rw [hresults]
    exact Mirrored.isImage_of_settled hfs hroot hground hpaths hgrown hsettled hplace hscratch'

theorem runs_mirror_files_inside_root :
    IsFresh mixedTree ⟨['d', '/', 'o']⟩ ∧ OnDirectories mixedTree ⟨['d', '/', 'o']⟩ ∧
      AcceptsScratch mixedTree ⟨['d', '/', 'o', '/', 'd', '/', '.', 'b']⟩ ∧
      ∃ results,
        (processDirectory (.ok ()) ⟨[], .directory ⟨['d', '/', 'o']⟩ .mirrored, .auto, true⟩
          mixedTree ⟨['.']⟩ ['*'] true).2 = .ok results ∧
        (∀ result ∈ results,
          ∃ below, Mirrors mixedTree ⟨['d', '/', 'o']⟩ ⟨['.']⟩ below result) ∧
        IsImage ⟨[], .directory ⟨['d', '/', 'o']⟩ .mirrored, .auto, true⟩ mixedTree
          (processDirectory (.ok ()) ⟨[], .directory ⟨['d', '/', 'o']⟩ .mirrored, .auto, true⟩
            mixedTree ⟨['.']⟩ ['*'] true).1 ⟨['d', '/', 'o']⟩ ⟨['.']⟩ results := by
  have hfresh : IsFresh mixedTree ⟨['d', '/', 'o']⟩ :=
    @isFresh_of_error _ _ .notFound (by decide) (by decide)
  have hon : OnDirectories mixedTree ⟨['d', '/', 'o']⟩ :=
    @onDirectories_of_absent _ _ [['d']] wellFormed_mixedTree ['o'] (by decide) (by decide)
      (by decide)
  obtain ⟨glob, hglob⟩ : ∃ glob, compileGlob ['*'] = .ok glob := ⟨_, rfl⟩
  obtain ⟨hruns, hend⟩ :=
    @runs_mirror_files (.ok ()) ⟨[], .directory ⟨['d', '/', 'o']⟩ .mirrored, .auto, true⟩ .auto
      mixedTree ⟨['d', '/', 'o']⟩ ⟨['.']⟩ glob ['*'] true wellFormed_mixedTree
      (fun _ => Std.ExtTreeMap.getElem?_empty) rfl hfresh hon (by decide) hglob
  obtain ⟨results, hanswer, -, hmirrors, -, himage⟩ :=
    (hend _ _ hruns).resolve_left not_unstarted_ok
  exact ⟨hfresh, hon, ⟨by decide, by decide, by decide⟩, results, hanswer, hmirrors, himage⟩

/-- A name that is too long keeps the output directory from being made, so a file that is text is
not a success, and no destination is reported. -/
theorem processDirectory_refuses_long_output :
    IsFresh (withFile ['a'] (Utf8.encode ['x', '\n']) 0o644) ⟨List.replicate 256 'o'⟩ ∧
      OnDirectories (withFile ['a'] (Utf8.encode ['x', '\n']) 0o644) ⟨List.replicate 256 'o'⟩ ∧
      checkDirectory (withFile ['a'] (Utf8.encode ['x', '\n']) 0o644) ⟨['.']⟩ = .ok () ∧
      (withFile ['a'] (Utf8.encode ['x', '\n']) 0o644).contentOf ⟨['.', '/', 'a']⟩ =
        .ok (Utf8.encode ['x', '\n']) ∧
      (processDirectory (.ok ()) ⟨[], .directory ⟨List.replicate 256 'o'⟩ .mirrored, .auto, true⟩
        (withFile ['a'] (Utf8.encode ['x', '\n']) 0o644) ⟨['.']⟩ ['*'] true).2 =
        .ok [⟨⟨['.', '/', 'a']⟩, none, some (.io ⟨List.replicate 256 'o'⟩ .nameTooLong), .zero⟩] := by
  have hfs : (withFile ['a'] (Utf8.encode ['x', '\n']) 0o644).WellFormed :=
    wellFormed_withFile _ ⟨by decide, by decide, by decide⟩ (by decide) (by decide) (by decide)
  refine ⟨@isFresh_of_error _ _ .nameTooLong (by decide +kernel) (by decide +kernel),
    @onDirectories_of_absent _ _ [] hfs (List.replicate 256 'o') (by decide +kernel)
      (by decide +kernel) (by decide +kernel), ?_⟩
  decide +kernel

end Dispatch
end LineSieve
