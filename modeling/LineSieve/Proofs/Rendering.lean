import LineSieve.Proofs.Course

/-!
# What the rules make of a file

The rules give every line of a text an outcome, and the lines that are not deleted are published with
the endings that they had.  A run that succeeds counts the outcomes and publishes these lines, behind
the byte order mark if there is one: `renders_of_contentOf` says so of every file that holds text.

`withText` gives a file another text.  Nothing but the counts and the published text depends on that, as
`sameCourse_withText` says, so runs over different texts can be compared.
-/

namespace LineSieve

open FileSystem

/-! ## Outcomes and published lines -/

namespace Text

/-- The outcomes of the lines of a text, in order. -/
def outcomes (rules : List Rule) (text : List Char) : List LineOutcome :=
  (lines (withoutMark text)).map fun line => Rule.evaluate rules line.text

/-- What a line becomes, with the ending that it had, unless it is deleted. -/
def publishedLine? (rules : List Rule) (line : Line) : Option Line :=
  (Rule.evaluate rules line.text).text.map fun text => ⟨text, line.ending⟩

/-- The lines that are published for a text. -/
def publishedLines (rules : List Rule) (text : List Char) : List Line :=
  (lines (withoutMark text)).filterMap (publishedLine? rules)

variable (rules : List Rule) (text : List Char)

theorem rewritten_eq_unlines :
    rewritten rules text = markOf text ++ unlines (publishedLines rules text) := by
  rw [rewritten, publishedLines]
  congr 1
  induction lines (withoutMark text) with
  | nil => rfl
  | cons line rest ih =>
    rw [List.flatMap_cons, ih, remains, List.filterMap_cons, publishedLine?]
    cases (Rule.evaluate rules line.text).text with
    | none => rfl
    | some text => rw [Option.map_some, unlines_cons]

theorem actions_eq_map_outcomes :
    actions rules text = (outcomes rules text).map (·.action) := by
  rw [actions, outcomes, List.map_map]
  rfl

end Text

theorem sift_encode_get_eq_count
    (rules : List Rule) (text : List Char) (action : LineAction) :
    (sift rules (Utf8.encode text)).counts.get action =
      ((Text.outcomes rules text).map (·.action)).count action := by
  rw [sift_encode_get, Text.actions_eq_map_outcomes]

/-! ## Runs -/

namespace Process

variable {config config' : Config} {fs : FileSystem} {path : Path} {location : Location}
  {content : List UInt8} {mode : Nat} {text text' : List Char}

/-- A file can be processed in place. -/
def CanReplace (config : Config) (fs : FileSystem) (path : Path) : Prop :=
  config.output = .inPlace ∧ path.isBlank = false ∧ ∃ target, inPlaceTarget fs path = .ok target

theorem CanReplace.of_sameShape
    {later : FileSystem}
    (h : CanReplace config fs path)
    (hshape : SameShape fs later) :
    CanReplace config later path := by
  obtain ⟨hinPlace, hblank, target, htarget⟩ := h
  exact ⟨hinPlace, hblank, target, (inPlaceTarget_of_sameShape hshape path).trans htarget⟩

/-- What comes of processing a file that holds a text. -/
structure Renders (config : Config) (fs : FileSystem) (path : Path) (text : List Char) : Prop where
  succeeds : CanReplace config fs path → (processFile config fs path).2.success = true
  counts : (processFile config fs path).2.success = true →
    ∀ action, (processFile config fs path).2.counts.get action =
      ((Text.outcomes config.rules text).map (·.action)).count action
  publishes : (processFile config fs path).2.success = true →
    Publishes config fs path
      (Text.markOf text ++ Text.unlines (Text.publishedLines config.rules text))

theorem renders_of_contentOf
    (config : Config)
    (hfs : fs.WellFormed)
    (hfree : fs.scratch[0]? = none)
    (hcontent : fs.contentOf path = .ok (Utf8.encode text)) :
    Renders config fs path text where
  succeeds := by
    rintro ⟨hinPlace, hblank, target, htarget⟩
    obtain ⟨location, mode, hlookup, -⟩ := exists_modeOf_of_contentOf hcontent
    exact success_of_inPlaceTarget hfs hinPlace hblank hlookup htarget
  counts := by
    intro hsuccess action
    rw [(publishes_of_success hfs hfree hcontent hsuccess).2, sift_encode_get_eq_count]
  publishes := by
    intro hsuccess
    rw [← Text.rewritten_eq_unlines]
    exact (publishes_of_success hfs hfree hcontent hsuccess).1

end Process

/-! ## Files with another text -/

/-- The tree in which the file at a location holds a text. -/
def FileSystem.withText (fs : FileSystem) (location : Location) (mode : Nat) (text : List Char) :
    FileSystem :=
  fs.put location (.file (Utf8.encode text) mode)

section WithText

open Process

variable {config config' : Config} {fs : FileSystem} {path : Path} {location : Location}
  {content : List UInt8} {mode : Nat}

theorem sameShape_withText
    (fs : FileSystem) (location : Location) (mode : Nat) (text text' : List Char) :
    SameShape (fs.withText location mode text) (fs.withText location mode text') :=
  (SameShape.refl fs).put (.files _ _ _ _) location

variable (hfs : fs.WellFormed) (hfile : fs.lookup path = .ok (location, .file content mode))

include hfile in
theorem entry?_of_lookup_file :
    location ≠ [] ∧ fs.entry? location = some (.file content mode) := by
  have hentry : fs.entry? location = some (.file content mode) :=
    holds_of_resolve (lookup_eq_ok_iff.1 hfile)
  refine ⟨?_, hentry⟩
  rintro rfl
  cases hentry

include hfile in
theorem sameShape_withText_self
    (text : List Char) :
    SameShape fs (fs.withText location mode text) := by
  obtain ⟨hne, hentry⟩ := entry?_of_lookup_file hfile
  refine ⟨rfl, fun other => ?_⟩
  rw [FileSystem.withText, entry?_put hne]
  split_ifs with heq
  · rw [heq, hentry]
    exact .files _ _ _ _
  · exact .same _

include hfs hfile in
theorem wellFormed_withText
    (text : List Char) :
    (fs.withText location mode text).WellFormed := by
  obtain ⟨hne, hentry⟩ := entry?_of_lookup_file hfile
  cases location with
  | nil => exact absurd rfl hne
  | cons name directory =>
    have hsome : fs.entry? (name :: directory) ≠ none := by simp [hentry]
    refine hfs.put (hfs.parent name directory hsome) (by simp [hentry])
      (hfs.isName name directory hsome) (hfs.no_nul name directory hsome)
      (hfs.length_le name directory hsome) ?_
    rintro _ _ ⟨⟩
    exact hfs.mode_lt _ _ _ hentry

include hfile in
/-- The path leads to the text. -/
theorem contentOf_withText
    (text : List Char) :
    (fs.withText location mode text).contentOf path = .ok (Utf8.encode text) := by
  obtain ⟨entry, hlookup⟩ := (sameShape_withText_self hfile text).lookup hfile
  have hheld : FileSystem.entry? (fs.withText location mode text) location = some entry :=
    holds_of_resolve (lookup_eq_ok_iff.1 hlookup)
  rw [FileSystem.withText, entry?_put_self (entry?_of_lookup_file hfile).1] at hheld
  cases hheld
  rw [contentOf, hlookup]

include hfs hfile in
theorem renders_withText
    (config : Config)
    (hfree : fs.scratch[0]? = none)
    (text : List Char) :
    Renders config (fs.withText location mode text) path text :=
  renders_of_contentOf config (wellFormed_withText hfs hfile text) hfree
    (contentOf_withText hfile text)

include hfs hfile in
/-- Two texts in the same file are processed alike, but for the counts. -/
theorem sameCourse_withText
    (config : Config) (text text' : List Char) :
    SameCourse (sift config.rules (Utf8.encode text)).counts
      (sift config.rules (Utf8.encode text')).counts
      (processFile config (fs.withText location mode text) path).2
      (processFile config (fs.withText location mode text') path).2 :=
  sameCourse_run (sameShape_withText fs location mode text text') rfl (contentOf_withText hfile text)
    (contentOf_withText hfile text') (wellFormed_withText hfs hfile text)
    (wellFormed_withText hfs hfile text') rfl 0 true none

end WithText

end LineSieve
