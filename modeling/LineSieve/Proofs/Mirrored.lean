import LineSieve.Proofs.Climbing
import LineSieve.Proofs.InPlace

/-!
# Directories mirrored into a new place

Every file that a walk has found goes to the same names below the output directory as it has below
the root.  Nothing is at the output directory when the run begins: the directories on the way to it
that are there lead to some `location`, and below that the first of the remaining names is missing.
So whatever is made or published lies in a part of the tree that was empty, where the only
directories are those on the way to some destination and every destination is a place of its own.
-/

namespace LineSieve
namespace Dispatch
namespace Mirrored

open FileSystem Process Walk

/-! ## Destinations -/

/-- The names of a file below the root, innermost first. -/
def namesOf (root path : Path) : List (List Char) :=
  ((path.components.drop root.components.length).map Component.text).reverse

/-- The destination of a file. -/
def targetOf (out root path : Path) : Path := pathBelow out (namesOf root path)

theorem namesOf_pathBelow
    {root : Path} {names : List (List Char)}
    (hnames : Proper names) :
    namesOf root (pathBelow root names) = names := by
  rw [namesOf, components_pathBelow hnames, List.drop_left, List.map_map]
  have htext : Component.text ∘ Component.name = id := rfl
  rw [htext, List.map_id, List.reverse_reverse]

/-- The path of a file inside the output directory is its path below the root. -/
theorem outputPath?_pathBelow
    (out root : Path) {name : List Char} {above : List (List Char)}
    (hnames : Proper (name :: above)) :
    outputPath? out .mirrored (some root) (pathBelow root (name :: above)) =
      some (pathBelow out (name :: above)) := by
  have hcomponents : (pathBelow root (name :: above)).components = _ :=
    components_pathBelow hnames
  have hname : (pathBelow root (name :: above)).fileName? = some name := by
    rw [Path.fileName?, hcomponents, List.reverse_cons, List.map_append, ← List.append_assoc,
      List.map_singleton, List.getLast?_concat]
  have hbelow := relativeTo?_pathBelow root hnames
  simp only [outputPath?, hname, hbelow]
  rw [join_ofComponents out hnames (by simp)]

theorem text_pathBelow_ne_nil
    {out : Path} {names : List (List Char)}
    (hout : out.text ≠ [])
    (hnames : Proper names) :
    (pathBelow out names).text ≠ [] := by
  intro hempty
  have hpre : out.text <+: (pathBelow out names).text := prefix_pathBelow hnames
  rw [hempty, List.prefix_nil] at hpre
  exact hout hpre

/-- The directory of a destination. -/
theorem directoryOf?_pathBelow
    {out : Path} {name : List Char} {above : List (List Char)}
    (hout : out.text ≠ [])
    (hnames : Proper (name :: above)) :
    directoryOf? (pathBelow out (name :: above)) =
        some (scratchDirectory (pathBelow out (name :: above))) ∧
      (scratchDirectory (pathBelow out (name :: above))).text ≠ [] ∧
      (scratchDirectory (pathBelow out (name :: above))).trail =
        out.trail ++ above.reverse.map .name ∧
      (scratchDirectory (pathBelow out (name :: above))).Trimmed ∧
      (above ≠ [] → scratchDirectory (pathBelow out (name :: above)) = pathBelow out above) := by
  obtain ⟨hname, habove⟩ := Proper.cons.1 hnames
  obtain ⟨parent, hparent, hne, hsame⟩ :=
    Path.exists_parent?_join_name hname (text_pathBelow_ne_nil hout habove)
  rw [← pathBelow_cons] at hparent
  have hdirectory : directoryOf? (pathBelow out (name :: above)) = some parent := by
    rw [directoryOf?, hparent, Option.filter_some]
    simp [hne]
  have hscratch : scratchDirectory (pathBelow out (name :: above)) = parent := by
    rw [scratchDirectory, hdirectory]
    rfl
  obtain ⟨htrail, hlast⟩ := Path.trail_join_name (pathBelow out above) hname
  rw [← pathBelow_cons] at htrail hlast
  rw [hscratch]
  refine ⟨hdirectory, hne, ?_, Path.trimmed_parent hparent, ?_⟩
  · have hspec := (scratchDirectory_spec hlast).1
    rw [hscratch, htrail, trail_pathBelow habove] at hspec
    exact (List.append_cancel_right hspec).symm
  · intro hmore
    obtain ⟨next, more, rfl⟩ := List.exists_cons_of_ne_nil hmore
    exact hsame next (Path.trail_join_name (pathBelow out more) (Proper.cons.1 habove).1).2

/-! ## The empty part of the tree -/

/-- The output directory: some of its steps lead to a location, and the others are names. -/
structure Approach (fs : FileSystem) (out : Path) (base : List Component) (location : Location)
    (names : List (List Char)) : Prop where
  nonempty : out.text ≠ []
  trail : out.trail = base ++ names.map .name
  leads : Base fs base location

/-- The first of the names behind the location is missing, or there are none, but the system does
not accept the path. -/
structure Ground (fs : FileSystem) (out : Path) (base : List Component) (location : Location)
    (names : List (List Char)) : Prop extends Approach fs out base location names where
  gap : (∃ name more, names = name :: more ∧ fs.entry? (name :: location) = none) ∨
    names = [] ∧ ¬Fits out

section Ground

variable {fs : FileSystem} {out root path other : Path} {base : List Component}
  {location rootLocation : Location} {names : List (List Char)}
  {name name' : List Char} {above above' : List (List Char)} {content content' : List UInt8}
  {mode mode' : Nat}

/-- The names down to the directory of a destination. -/
def chainOf (names above : List (List Char)) : List (List Char) := names ++ above.reverse

theorem reverse_chainOf
    (names above : List (List Char)) (location : Location) :
    (chainOf names above).reverse ++ location = above ++ (names.reverse ++ location) := by
  simp [chainOf]

theorem rung_scratchDirectory
    (happroach : Approach fs out base location names)
    (hnames : Proper (name :: above)) :
    Rung base (scratchDirectory (pathBelow out (name :: above)))
      (scratchDirectory (pathBelow out (name :: above))) (chainOf names above) := by
  obtain ⟨-, hne, htrail, htrimmed, -⟩ := directoryOf?_pathBelow happroach.nonempty hnames
  refine ⟨?_, htrimmed, List.prefix_rfl, hne⟩
  rw [htrail, happroach.trail, chainOf, List.map_append, List.append_assoc]

/-- Where a name is missing, the names that follow it are missing as well. -/
theorem entry?_front_eq_none
    (hfs : fs.WellFormed)
    {first : List Char} {front more : List (List Char)}
    (hnone : fs.entry? (first :: location) = none)
    (hpre : front <+: first :: more)
    (hne : front ≠ []) :
    fs.entry? (front.reverse ++ location) = none := by
  obtain ⟨next, rest, rfl⟩ := List.exists_cons_of_ne_nil hne
  obtain ⟨rfl, -⟩ := List.cons_prefix_cons.1 hpre
  rw [List.reverse_cons, List.append_assoc, List.singleton_append]
  exact hfs.entry?_append_of_none hnone rest.reverse

/-- Nothing is on the chain at first. -/
theorem entry?_chain_eq_none
    (hfs : fs.WellFormed)
    (hground : Ground fs out base location names)
    (hnames : Proper (name :: above))
    (hfits : Fits (scratchDirectory (pathBelow out (name :: above))))
    {front : List (List Char)}
    (hpre : front <+: chainOf names above)
    (hne : front ≠ []) :
    fs.entry? (front.reverse ++ location) = none := by
  rcases hground.gap with ⟨first, more, rfl, hnone⟩ | ⟨rfl, hrefused⟩
  · exact entry?_front_eq_none hfs hnone hpre hne
  · -- only the directory of a file right below the root may be accepted, and there the chain is empty
    obtain ⟨-, -, -, -, hsame⟩ := directoryOf?_pathBelow hground.nonempty hnames
    cases above with
    | nil => exact absurd (List.prefix_nil.1 hpre) hne
    | cons next more =>
      have hbelow := (Proper.cons.1 hnames).2
      rw [hsame (by simp)] at hfits
      exact absurd (hfits.of_prefix (prefix_pathBelow hbelow) hground.nonempty) hrefused

/-- Nothing is below the output directory at first. -/
theorem entry?_below_eq_none
    (hfs : fs.WellFormed)
    (hground : Ground fs out base location names)
    (hfits : Fits out)
    (below : List (List Char)) :
    fs.entry? (below ++ (names.reverse ++ location)) = none := by
  rcases hground.gap with ⟨first, more, rfl, hnone⟩ | ⟨-, hrefused⟩
  · rw [List.reverse_cons, List.append_assoc, List.singleton_append, ← List.append_assoc]
    exact hfs.entry?_append_of_none hnone _
  · exact absurd hfits hrefused

/-- Nothing is at a destination at first. -/
theorem entry?_target_eq_none
    (hfs : fs.WellFormed)
    (hground : Ground fs out base location names)
    (hnames : Proper (name :: above))
    (hfits : Fits (pathBelow out (name :: above))) :
    fs.entry? (name :: above ++ (names.reverse ++ location)) = none :=
  entry?_below_eq_none hfs hground (hfits.of_prefix (prefix_pathBelow hnames) hground.nonempty) _

/-- No file is above another one. -/
theorem not_suffix_of_isFound
    (hfs : fs.WellFormed)
    (hfound : IsFound fs root rootLocation path name above content mode)
    (hother : IsFound fs root rootLocation other name' above' content' mode') :
    ¬name' :: above' <:+ above := by
  rintro ⟨front, hfront⟩
  have hdir := hfound.isDirectoryAt hfs
  rw [← hfront, List.append_assoc] at hdir
  have hfile := hfs.isDirectoryAt_of_append hdir
  rw [isDirectoryAt_iff, hother.entry?] at hfile
  cases hfile

/-- No destination is on a chain. -/
theorem target_ne_chain
    (hfs : fs.WellFormed)
    (hfound : IsFound fs root rootLocation path name above content mode)
    (hother : IsFound fs root rootLocation other name' above' content' mode')
    {front : List (List Char)}
    (hpre : front <+: chainOf names above) :
    name' :: above' ++ (names.reverse ++ location) ≠ front.reverse ++ location := by
  intro heq
  rw [← List.append_assoc] at heq
  have hfront := List.append_cancel_right heq
  have hreverse : front = names ++ (name' :: above').reverse := by
    rw [← List.reverse_reverse front, ← hfront, List.reverse_append, List.reverse_reverse]
  rw [hreverse, chainOf, List.prefix_append_right_inj, List.reverse_prefix] at hpre
  exact not_suffix_of_isFound hfs hfound hother hpre

end Ground

/-! ## What the workers do -/

/-- What a worker sees once the directories are there. -/
def seen (fs : FileSystem) (out root : Path) (location : Location) (names : List (List Char))
    (path : Path) : Sights where
  target := targetOf out root path
  place := .ok ((namesOf root path).tail ++ (names.reverse ++ location))
  source := sourceOf fs path
  spot := answer (targetOf out root path) (namesOf root path ++ (names.reverse ++ location))

/-- The directory of the destination of a file. -/
def bottomOf (out root path : Path) : Path := scratchDirectory (targetOf out root path)

/-- Why the directories of a destination cannot be made. -/
def obstacle? (out root : Path) (names : List (List Char)) (path : Path) : Option IoError :=
  barrier? (bottomOf out root path) (chainOf names (namesOf root path).tail)

def prospect (config : Config) (fs : FileSystem) (out root : Path) (location : Location)
    (names : List (List Char)) (path : Path) : Prospect where
  result :=
    match obstacle? out root names path with
    | some e => ⟨path, none, some (.io (bottomOf out root path) e), .zero⟩
    | none => (seen fs out root location names path).result config path
  made := madeOn location (bottomOf out root path) (chainOf names (namesOf root path).tail)
  published :=
    match obstacle? out root names path with
    | some _ => none
    | none => (seen fs out root location names path).published config

/-- Nothing is at the destination. -/
def Vacant (out root : Path) (location : Location) (names : List (List Char)) (path : Path)
    (now : FileSystem) : Prop :=
  Fits (targetOf out root path) →
    now.entry? (namesOf root path ++ (names.reverse ++ location)) = none

/-- How far a worker has got with a destination in a new directory. -/
inductive Good (config : Config) (fs : FileSystem) (out root : Path) (base : List Component)
    (location : Location) (names : List (List Char)) (worker : Nat) (path : Path)
    (now : FileSystem) : Phase → Prop
  | waiting
      (hscratch : now.scratch[worker]? = none)
      (hvacant : Vacant out root location names path now) :
      Good config fs out root base location names worker path now .waiting
  | climbing
      {phase : Phase}
      (hscratch : now.scratch[worker]? = none)
      (hvacant : Vacant out root location names path now)
      (h : Climbing now base location (targetOf out root path) (bottomOf out root path)
        (chainOf names (namesOf root path).tail) phase) :
      Good config fs out root base location names worker path now phase
  | stopped
      {e : IoError}
      (hscratch : now.scratch[worker]? = none)
      (hobstacle : obstacle? out root names path = some e)
      (hmade : ∀ place ∈ madeOn location (bottomOf out root path)
        (chainOf names (namesOf root path).tail), now.entry? place = some .directory) :
      Good config fs out root base location names worker path now
        (.finished ⟨path, none, some (.io (bottomOf out root path) e), .zero⟩)
  | engaged
      {phase : Phase}
      (hobstacle : obstacle? out root names path = none)
      (hmade : now.isDirectoryAt
        ((chainOf names (namesOf root path).tail).reverse ++ location) = true)
      (h : Engaged config path (seen fs out root location names path)
        (Vacant out root location names path) worker now phase) :
      Good config fs out root base location names worker path now phase

/-- The tree is the old one with more in it, and what is new belongs to the prospects. -/
structure Grown (fs : FileSystem) (paths : List Path) (prospect : Path → Prospect)
    (now : FileSystem) : Prop where
  workingDirectory : now.workingDirectory = fs.workingDirectory
  wellFormed : now.WellFormed
  keeps : ∀ location entry, fs.entry? location = some entry → now.entry? location = some entry
  accounted : Accounted fs paths prospect now

theorem grown_start
    {fs : FileSystem} {paths : List Path} {prospect : Path → Prospect}
    (hfs : fs.WellFormed) :
    Grown fs paths prospect fs := ⟨rfl, hfs, fun _ _ h => h, fun _ => Or.inl rfl⟩

theorem Grown.base
    {fs now : FileSystem} {paths : List Path} {prospect : Path → Prospect}
    {base : List Component} {location : Location}
    (h : Grown fs paths prospect now)
    (hbase : Base fs base location) :
    Base now base location := by
  obtain ⟨hdir, links, hle, hwalks⟩ := hbase
  refine ⟨?_, links, hle, ?_⟩
  · rw [isDirectoryAt_iff] at hdir ⊢
    exact h.keeps _ _ hdir
  · rw [h.workingDirectory]
    exact hwalks.mono fun l e _ => h.keeps l e

section Workers

variable {config : Config} {fs now later : FileSystem} {out root path other : Path}
  {base : List Component} {location rootLocation : Location} {names : List (List Char)}
  {paths : List Path} {worker : Nat} {phase : Phase}
  {name : List Char} {above : List (List Char)} {content : List UInt8} {mode : Nat}

theorem namesOf_isFound
    (hfs : fs.WellFormed)
    (hfound : IsFound fs root rootLocation path name above content mode) :
    namesOf root path = name :: above := by
  rw [hfound.path_eq, namesOf_pathBelow (hfound.proper hfs)]

theorem targetOf_isFound
    (hfs : fs.WellFormed)
    (hfound : IsFound fs root rootLocation path name above content mode) :
    targetOf out root path = pathBelow out (name :: above) := by
  rw [targetOf, namesOf_isFound hfs hfound]

theorem bottomOf_isFound
    (hfs : fs.WellFormed)
    (hfound : IsFound fs root rootLocation path name above content mode) :
    bottomOf out root path = scratchDirectory (pathBelow out (name :: above)) := by
  rw [bottomOf, targetOf_isFound hfs hfound]

/-- A worker begins by going up the chain of its destination. -/
theorem depart_eq
    (hfs : fs.WellFormed)
    (hplace : config.output = .directory out .mirrored)
    (hblank : root.isBlank = false)
    (happroach : Approach fs out base location names)
    (hfound : IsFound fs root rootLocation path name above content mode) :
    depart config now root path =
      .probing (targetOf out root path) (bottomOf out root path) (bottomOf out root path).ancestors
        [] := by
  have hnames := hfound.proper hfs
  have hcheck : checkPath now false path = .ok () := by
    rw [checkPath, hfound.path_eq, InPlace.isBlank_eq_false hblank hnames]
    rfl
  have htarget : outputPath? out .mirrored (some root) path =
      some (pathBelow out (name :: above)) := by
    rw [hfound.path_eq]
    exact outputPath?_pathBelow out root hnames
  obtain ⟨hdirectory, -⟩ := directoryOf?_pathBelow happroach.nonempty hnames
  rw [targetOf_isFound hfs hfound, bottomOf_isFound hfs hfound]
  simp only [depart, hcheck, hplace, htarget, hdirectory]

theorem rung_bottomOf
    (hfs : fs.WellFormed)
    (happroach : Approach fs out base location names)
    (hfound : IsFound fs root rootLocation path name above content mode) :
    Rung base (bottomOf out root path) (bottomOf out root path)
      (chainOf names (namesOf root path).tail) := by
  rw [bottomOf_isFound hfs hfound, namesOf_isFound hfs hfound]
  exact rung_scratchDirectory happroach (hfound.proper hfs)

/-- With its directory there, a destination is a name in it. -/
theorem points_targetOf
    (hfs : fs.WellFormed)
    (hground : Ground fs out base location names)
    (hfound : IsFound fs root rootLocation path name above content mode)
    {prospect : Path → Prospect}
    (hgrown : Grown fs paths prospect now)
    (hmade : now.isDirectoryAt (above ++ (names.reverse ++ location)) = true) :
    Points now (targetOf out root path) name (above ++ (names.reverse ++ location)) := by
  have hnames := hfound.proper hfs
  obtain ⟨hname, habove⟩ := Proper.cons.1 hnames
  obtain ⟨htrail, hlast⟩ := Path.trail_join_name (pathBelow out above) hname
  rw [← pathBelow_cons, ← targetOf_isFound hfs hfound] at htrail hlast
  have hsome : fs.entry? (name :: (above ++ rootLocation)) ≠ none := by
    rw [← List.cons_append, hfound.entry?]
    simp
  obtain ⟨-, links, hle, hwalks⟩ := hgrown.base hground.leads
  rw [← reverse_chainOf] at hmade ⊢
  have hdown := hgrown.wellFormed.walks hmade
  rw [List.reverse_reverse] at hdown
  refine ⟨hlast, hfs.length_le _ _ hsome, hmade, base ++ (chainOf names above).map .name, links + 0,
    ?_, hle, hwalks.append hdown⟩
  rw [htrail, trail_pathBelow habove, hground.trail, chainOf, List.map_append, ← List.append_assoc]

/-- The sights of a worker whose directory is there. -/
theorem shows
    (hfs : fs.WellFormed)
    (hroot : fs.lookup root = .ok (rootLocation, .directory))
    (hground : Ground fs out base location names)
    (hfound : IsFound fs root rootLocation path name above content mode)
    {prospect : Path → Prospect}
    (hgrown : Grown fs paths prospect now)
    (hfits : Fits (bottomOf out root path))
    (hmade : now.isDirectoryAt
      ((chainOf names (namesOf root path).tail).reverse ++ location) = true)
    (hvacant : Vacant out root location names path now) :
    Shows now path (seen fs out root location names path) := by
  have hnames := namesOf_isFound hfs hfound
  have hsource := hfound.points hfs hroot
  have hsource' := hsource.mono hgrown.workingDirectory fun l e _ => hgrown.keeps l e
  have hentry' := hgrown.keeps _ _ hfound.entry?
  have hlookup := (rung_bottomOf hfs hground.toApproach hfound).lookup_of_made hfits hgrown.wellFormed
    (hgrown.base hground.leads) hmade
  rw [hnames, List.tail_cons, reverse_chainOf] at hmade hlookup
  have hpoints := points_targetOf hfs hground hfound hgrown hmade
  refine ⟨?_, nofun, ?_, ?_, ?_, ?_, ?_⟩
  · intro place hplace
    cases hplace
    rw [hnames]
    exact hlookup
  · rw [hsource'.contentOf_eq hentry', seen, sourceOf_eq hsource hfound.entry?, map_answer]
  · rw [hsource'.modeOf_eq hentry', seen, sourceOf_eq hsource hfound.entry?, map_answer]
  · intro place hplace
    obtain ⟨htarget, rfl⟩ := answer_eq_ok hplace
    have hnone := hvacant htarget
    rw [hnames] at hnone ⊢
    exact Or.inl ((Locates.mk hpoints htarget).resolve_vacant false hnone)
  · intro place hplace old hold
    obtain ⟨htarget, rfl⟩ := answer_eq_ok hplace
    rw [hvacant htarget] at hold
    cases hold
  · intro e he
    exact resolve_of_refusal? (answer_eq_error he) false

/-- A file is published at its names below the output directory, where nothing was. -/
theorem eq_of_published
    (hfs : fs.WellFormed)
    (hroot : fs.lookup root = .ok (rootLocation, .directory))
    (hground : Ground fs out base location names)
    (hfound : IsFound fs root rootLocation path name above content mode)
    {place : Location} {entry : Entry}
    (hpublished : (prospect config fs out root location names path).published =
      some (place, entry)) :
    Fits path ∧ Fits (targetOf out root path) ∧
      place = name :: above ++ (names.reverse ++ location) ∧ fs.entry? place = none ∧
      (sift config.rules content).fault = none ∧
      entry = .file (sift config.rules content).bytes (publishedMode config mode) := by
  simp only [prospect] at hpublished
  split at hpublished
  · cases hpublished
  simp only [seen, Sights.published, sourceOf_eq (hfound.points hfs hroot) hfound.entry?]
    at hpublished
  split at hpublished
  next hsource hspot =>
    obtain ⟨hpath, heq⟩ := answer_eq_ok hsource
    obtain ⟨hfits, rfl⟩ := answer_eq_ok hspot
    cases heq
    split at hpublished <;> cases hpublished
    have hnone := hfits
    rw [targetOf_isFound hfs hfound] at hnone
    rw [namesOf_isFound hfs hfound]
    exact ⟨hpath, hfits, rfl, entry?_target_eq_none hfs hground (hfound.proper hfs) hnone,
      by assumption, rfl⟩
  next => cases hpublished

/-- What is not a file of the walk has no destination on a chain or at the destination of another
one. -/
theorem clear_of_grown
    (hfs : fs.WellFormed)
    (hroot : fs.lookup root = .ok (rootLocation, .directory))
    (hground : Ground fs out base location names)
    (hpaths : ∀ path ∈ paths, ∃ name above content mode,
      IsFound fs root rootLocation path name above content mode)
    (hfound : IsFound fs root rootLocation path name above content mode)
    (hgrown : Grown fs paths (prospect config fs out root location names) now)
    (hfits : Fits (bottomOf out root path)) :
    Clear now location (chainOf names (namesOf root path).tail) := by
  intro front hpre hne
  rw [namesOf_isFound hfs hfound, List.tail_cons] at hpre
  rw [bottomOf_isFound hfs hfound] at hfits
  have hnone := entry?_chain_eq_none hfs hground (hfound.proper hfs) hfits hpre hne
  rcases hgrown.accounted (front.reverse ++ location) with hsame | ⟨_, _, _, _, hdir⟩ |
    ⟨other, hother, entry, hpublished, -⟩
  · exact Or.inl (hsame.trans hnone)
  · exact Or.inr hdir
  · obtain ⟨name', above', content', mode', hfound'⟩ := hpaths other hother
    obtain ⟨-, -, heq, -⟩ := eq_of_published hfs hroot hground hfound' hpublished
    exact absurd heq.symm (target_ne_chain hfs hfound hfound' hpre)

/-- Others leave a destination alone. -/
theorem vacant_of_change
    (hfs : fs.WellFormed)
    (hroot : fs.lookup root = .ok (rootLocation, .directory))
    (hground : Ground fs out base location names)
    (hpaths : ∀ path ∈ paths, ∃ name above content mode,
      IsFound fs root rootLocation path name above content mode)
    (hfound : IsFound fs root rootLocation path name above content mode)
    (hother : other ∈ paths)
    (hne : other ≠ path)
    (hchange : Change (prospect config fs out root location names other) now later)
    (hvacant : Vacant out root location names path now) :
    Vacant out root location names path later := by
  intro hfits
  have hnone := hvacant hfits
  obtain ⟨name', above', content', mode', hfound'⟩ := hpaths other hother
  rw [namesOf_isFound hfs hfound] at hnone ⊢
  rcases hchange.entry? (name :: above ++ (names.reverse ++ location)) with hsame | ⟨hmade, -⟩ |
    ⟨entry, hpublished, -⟩
  · exact hsame.trans hnone
  · obtain ⟨-, front, hpre, -, -, heq⟩ := hmade
    rw [namesOf_isFound hfs hfound', List.tail_cons] at hpre
    exact absurd heq (target_ne_chain hfs hfound' hfound hpre)
  · obtain ⟨-, -, heq, -⟩ := eq_of_published hfs hroot hground hfound' hpublished
    have hsame := List.append_cancel_right heq
    exact absurd (by rw [hfound'.path_eq, hfound.path_eq, hsame]) hne

theorem change_of_footing
    (hfs : fs.WellFormed)
    (hground : Ground fs out base location names)
    (hfound : IsFound fs root rootLocation path name above content mode)
    (h : Footing location (bottomOf out root path) (chainOf names (namesOf root path).tail) now
      later) :
    Change (prospect config fs out root location names path) now later := by
  have hwellFormed := h.wellFormed (rung_bottomOf hfs hground.toApproach hfound)
  cases h with
  | same => exact .of_sameTree (.refl now)
  | @made last directory hmem hdir hnone =>
    refine ⟨rfl, hwellFormed, fun place => ?_⟩
    by_cases hplace : place = last :: directory
    · subst hplace
      exact Or.inr (Or.inl ⟨hmem, hnone, entry?_put_self (List.cons_ne_nil _ _) now _⟩)
    · exact Or.inl (entry?_put_of_ne (List.cons_ne_nil _ _) hplace now _)

/-- A directory made on a chain is not at the destination. -/
theorem vacant_of_footing
    (hfs : fs.WellFormed)
    (hfound : IsFound fs root rootLocation path name above content mode)
    (h : Footing location (bottomOf out root path) (chainOf names (namesOf root path).tail) now
      later)
    (hvacant : Vacant out root location names path now) :
    Vacant out root location names path later := by
  intro hfits
  have hnone := hvacant hfits
  rw [namesOf_isFound hfs hfound] at hnone ⊢
  cases h with
  | same => exact hnone
  | made hmem =>
    obtain ⟨-, front, hpre, -, -, heq⟩ := hmem
    rw [namesOf_isFound hfs hfound, List.tail_cons] at hpre
    have hne : name :: above ++ (names.reverse ++ location) ≠ front.reverse ++ location :=
      target_ne_chain hfs hfound hfound hpre
    rw [← heq] at hne
    rw [entry?_put_of_ne (List.cons_ne_nil _ _) hne]
    exact hnone

theorem scratch_of_footing
    {location : Location} {bottom : Path} {chain : List (List Char)}
    (h : Footing location bottom chain now later) :
    later.scratch = now.scratch := by
  cases h <;> rfl

/-- The destination of a file that has its directory is where it was to be published. -/
theorem obstacle?_eq_none_of_made
    (hnow : now.WellFormed)
    (hfits : Fits (bottomOf out root path))
    (hmade : now.isDirectoryAt
      ((chainOf names (namesOf root path).tail).reverse ++ location) = true) :
    obstacle? out root names path = none := by
  rw [obstacle?, barrier?, refusal?_eq_none_of_fits hfits]
  simp only
  rw [if_neg]
  rintro ⟨long, hmem, hlen⟩
  have hle := hnow.length_le_of_mem hmade hmem
  omega

theorem fits_of_obstacle?_eq_none
    (h : obstacle? out root names path = none) :
    Fits (bottomOf out root path) := by
  rw [obstacle?, barrier?] at h
  cases hrefusal : refusal? (bottomOf out root path) with
  | some e => rw [hrefusal] at h; cases h
  | none => exact fits_of_refusal?_eq_none hrefusal

end Workers

section Discipline

variable {config : Config} {fs now later : FileSystem} {out root path other : Path}
  {base : List Component} {location rootLocation : Location} {names : List (List Char)}
  {paths : List Path} {worker : Nat} {phase : Phase}
  {name : List Char} {above : List (List Char)} {content : List UInt8} {mode : Nat}

/-- A step of a worker belongs to its prospect. -/
theorem Good.change
    (hfs : fs.WellFormed)
    (hroot : fs.lookup root = .ok (rootLocation, .directory))
    (hground : Ground fs out base location names)
    (hpaths : ∀ path ∈ paths, ∃ name above content mode,
      IsFound fs root rootLocation path name above content mode)
    (hfound : IsFound fs root rootLocation path name above content mode)
    (hgrown : Grown fs paths (prospect config fs out root location names) now)
    (h : Good config fs out root base location names worker path now phase)
    (hopen : phase.isFinished = false) :
    Change (prospect config fs out root location names path) now
      (advance config root worker path now phase).1 := by
  cases h with
  | waiting => exact .of_sameTree (.refl now)
  | climbing _ _ hclimbing =>
    have hrung := rung_bottomOf hfs hground.toApproach hfound
    obtain ⟨-, hfooting⟩ := hclimbing.advance config root path worker hgrown.wellFormed
      (hgrown.base hground.leads)
      (clear_of_grown hfs hroot hground hpaths hfound hgrown) hrung.nonempty
    exact change_of_footing hfs hground hfound hfooting
  | stopped => cases hopen
  | engaged hobstacle hmade hengaged =>
    have hfits := fits_of_obstacle?_eq_none hobstacle
    refine hengaged.change hopen (shows hfs hroot hground hfound hgrown hfits hmade) ?_
    simp only [prospect, hobstacle]

/-- A worker comes from one good state to the next. -/
theorem Good.advance
    (hfs : fs.WellFormed)
    (hplace : config.output = .directory out .mirrored)
    (hroot : fs.lookup root = .ok (rootLocation, .directory))
    (hblank : root.isBlank = false)
    (hground : Ground fs out base location names)
    (hpaths : ∀ path ∈ paths, ∃ name above content mode,
      IsFound fs root rootLocation path name above content mode)
    (hfound : IsFound fs root rootLocation path name above content mode)
    (hgrown : Grown fs paths (prospect config fs out root location names) now)
    (h : Good config fs out root base location names worker path now phase)
    (hopen : phase.isFinished = false) :
    Good config fs out root base location names worker path
      (advance config root worker path now phase).1
      (advance config root worker path now phase).2 := by
  have hrung := rung_bottomOf hfs hground.toApproach hfound
  have hchange := h.change hfs hroot hground hpaths hfound hgrown hopen
  cases h with
  | waiting hnone hvacant =>
    rw [Process.advance, depart_eq hfs hplace hblank hground.toApproach hfound]
    refine .climbing hnone hvacant ?_
    by_cases hfits : Fits (bottomOf out root path)
    · exact .probing hfits hrung (Nat.le_refl _) .done
    · cases hrefusal : refusal? (bottomOf out root path) with
      | none => exact absurd (fits_of_refusal?_eq_none hrefusal) hfits
      | some e => exact .refused hrefusal
  | climbing hnone hvacant hclimbing =>
    obtain ⟨hclimbed, hfooting⟩ := hclimbing.advance config root path worker hgrown.wellFormed
      (hgrown.base hground.leads)
      (clear_of_grown hfs hroot hground hpaths hfound hgrown) hrung.nonempty
    generalize Process.advance config root worker path now phase = next at hclimbed hfooting ⊢
    obtain ⟨later, phase'⟩ := next
    have hwellFormed := hfooting.wellFormed hrung hgrown.wellFormed
    have hnone' : later.scratch[worker]? = none := by
      rw [scratch_of_footing hfooting, hnone]
    have hvacant' := vacant_of_footing hfs hfound hfooting hvacant
    cases hclimbed with
    | on h => exact .climbing hnone' hvacant' h
    | arrived hfits hmade =>
      refine .engaged (obstacle?_eq_none_of_made hwellFormed hfits hmade) hmade
        ⟨?_, fun _ => hvacant', ?_⟩
      · rw [hnone']
        exact .creating
      · rintro ⟨⟩
    | stopped hbarrier hmade => exact .stopped hnone' hbarrier hmade
  | stopped => cases hopen
  | engaged hobstacle hmade hengaged =>
    have hfits := fits_of_obstacle?_eq_none hobstacle
    have hshows := shows hfs hroot hground hfound hgrown hfits hmade
    refine .engaged hobstacle (hchange.isDirectoryAt hmade) (hengaged.advance hopen hshows ?_)
    intro later hsame hvacant hfits
    rw [hsame.entry?]
    exact hvacant hfits

/-- What a worker relies on is not touched by the changes that belong to another one. -/
theorem Good.stable
    (hfs : fs.WellFormed)
    (hroot : fs.lookup root = .ok (rootLocation, .directory))
    (hground : Ground fs out base location names)
    (hpaths : ∀ path ∈ paths, ∃ name above content mode,
      IsFound fs root rootLocation path name above content mode)
    (hfound : IsFound fs root rootLocation path name above content mode)
    (hother : other ∈ paths)
    (hne : other ≠ path)
    (hchange : Change (prospect config fs out root location names other) now later)
    (hkept : later.scratch[worker]? = now.scratch[worker]?)
    (h : Good config fs out root base location names worker path now phase) :
    Good config fs out root base location names worker path later phase := by
  have hvacant := vacant_of_change hfs hroot hground hpaths hfound hother hne hchange
  cases h with
  | waiting hnone hstill => exact .waiting (hkept.trans hnone) (hvacant hstill)
  | climbing hnone hstill hclimbing =>
    exact .climbing (hkept.trans hnone) (hvacant hstill)
      (hclimbing.mono fun place => hchange.isDirectoryAt)
  | stopped hnone hobstacle hmade =>
    exact .stopped (hkept.trans hnone) hobstacle fun place hplace =>
      hchange.keeps rfl (hmade place hplace)
  | engaged hobstacle hmade hengaged =>
    refine .engaged hobstacle (hchange.isDirectoryAt hmade) (hengaged.stable hkept hvacant ?_)
    intro place entry hpublished hentry
    refine hchange.keeps_file ?_ hentry
    intro file hpublished'
    obtain ⟨name', above', content', mode', hfound'⟩ := hpaths other hother
    have hown : (prospect config fs out root location names path).published =
        some (place, entry) := by
      simp only [prospect, hobstacle]
      exact hpublished
    obtain ⟨-, -, heq, -⟩ := eq_of_published hfs hroot hground hfound hown
    obtain ⟨-, -, heq', -⟩ := eq_of_published hfs hroot hground hfound' hpublished'
    have hsame := List.append_cancel_right (heq.symm.trans heq')
    exact hne (by rw [hfound'.path_eq, hfound.path_eq, hsame])

/-- Changes that belong to a prospect make the tree grow. -/
theorem Grown.step
    (hfs : fs.WellFormed)
    (hroot : fs.lookup root = .ok (rootLocation, .directory))
    (hground : Ground fs out base location names)
    (hfound : IsFound fs root rootLocation path name above content mode)
    (hmem : path ∈ paths)
    (h : Grown fs paths (prospect config fs out root location names) now)
    (hchange : Change (prospect config fs out root location names path) now later) :
    Grown fs paths (prospect config fs out root location names) later := by
  refine ⟨hchange.workingDirectory.trans h.workingDirectory, hchange.wellFormed h.wellFormed, ?_,
    h.accounted.step hmem hchange⟩
  intro place entry hentry
  refine hchange.keeps_file ?_ (h.keeps place entry hentry)
  intro file hpublished
  obtain ⟨-, -, -, hnone, -⟩ := eq_of_published hfs hroot hground hfound hpublished
  rw [hnone] at hentry
  cases hentry

/-- Workers with destinations in a new directory keep out of each other's way. -/
theorem discipline
    (hfs : fs.WellFormed)
    (hplace : config.output = .directory out .mirrored)
    (hroot : fs.lookup root = .ok (rootLocation, .directory))
    (hblank : root.isBlank = false)
    (hground : Ground fs out base location names)
    (hpaths : ∀ path ∈ paths, ∃ name above content mode,
      IsFound fs root rootLocation path name above content mode)
    (hscratch : ∀ worker : Nat, fs.scratch[worker]? = none) :
    Discipline config root fs paths (prospect config fs out root location names)
      (Grown fs paths (prospect config fs out root location names))
      (Good config fs out root base location names) where
  tree_start := grown_start hfs
  good_start := by
    intro worker path hmem
    obtain ⟨name, above, content, mode, hfound⟩ := hpaths path hmem
    refine .waiting (hscratch worker) fun hfits => ?_
    rw [targetOf_isFound hfs hfound] at hfits
    rw [namesOf_isFound hfs hfound]
    exact entry?_target_eq_none hfs hground (hfound.proper hfs) hfits
  change := by
    intro worker path now phase hmem hgrown hgood hopen
    obtain ⟨name, above, content, mode, hfound⟩ := hpaths path hmem
    exact hgood.change hfs hroot hground hpaths hfound hgrown hopen
  good_step := by
    intro worker path now phase hmem hgrown hgood hopen
    obtain ⟨name, above, content, mode, hfound⟩ := hpaths path hmem
    exact hgood.advance hfs hplace hroot hblank hground hpaths hfound hgrown hopen
  tree_step := by
    intro path now later hmem hgrown hchange
    obtain ⟨name, above, content, mode, hfound⟩ := hpaths path hmem
    exact hgrown.step hfs hroot hground hfound hmem hchange
  good_stable := by
    intro worker path other now later phase hmem hother hne _ _ hchange hkept hgood
    obtain ⟨name, above, content, mode, hfound⟩ := hpaths path hmem
    exact hgood.stable hfs hroot hground hpaths hfound hother hne hchange hkept
  scratch := by
    intro worker path now phase hgood hidle
    cases hgood with
    | waiting hnone => exact hnone
    | climbing _ _ hclimbing => rw [hclimbing.isRunning] at hidle; cases hidle
    | stopped hnone => exact hnone
    | engaged _ _ hengaged => exact hengaged.scratch_eq_none hidle
  result := by
    intro worker path now result hmem hgood
    cases hgood with
    | climbing _ _ hclimbing => cases hclimbing
    | stopped _ hobstacle => simp only [prospect, hobstacle]
    | engaged hobstacle _ hengaged =>
      simp only [prospect, hobstacle]
      exact hengaged.result_eq
  made := by
    intro worker path now result hmem hgrown hgood
    cases hgood with
    | climbing _ _ hclimbing => cases hclimbing
    | stopped _ _ hmade => exact hmade
    | engaged _ hmade _ =>
      rintro place ⟨-, front, hpre, -, -, rfl⟩
      exact (isDirectoryAt_iff _).1 (hgrown.wellFormed.isDirectoryAt_of_prefix hmade hpre)
  published := by
    intro worker path now result hmem hgood place entry hpublished
    cases hgood with
    | climbing _ _ hclimbing => cases hclimbing
    | stopped _ hobstacle => simp only [prospect, hobstacle] at hpublished; cases hpublished
    | engaged hobstacle _ hengaged =>
      simp only [prospect, hobstacle] at hpublished
      exact hengaged.published rfl place entry hpublished

end Discipline

end Mirrored
end Dispatch
end LineSieve
