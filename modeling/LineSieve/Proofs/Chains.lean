import LineSieve.Proofs.Walked

/-!
# Chains of names

A path that goes through directories for a while and then through names that may not be there yet
leads to the first gap among these names.  `Descent` lists what can happen on the way down: all
names are there, only the last one is missing, one before the last one is missing, or a name is too
long to be there at all.  `Rung` says which part of such a chain a path covers.
-/

namespace LineSieve
namespace FileSystem

variable {fs : FileSystem}

/-! ## Steps that stay where they are -/

/-- Steps that lead to the same from everywhere lead to the same behind other steps. -/
theorem follow_congr
    {followLast : Bool} {a b : List Component}
    (ha : a ≠ [])
    (hb : b ≠ [])
    (h : ∀ links location,
      fs.follow followLast links location a = fs.follow followLast links location b)
    (links : Nat) (location : Location) (front : List Component) :
    fs.follow followLast links location (front ++ a) =
      fs.follow followLast links location (front ++ b) := by
  -- on the links that are left, and for the same number of them on the steps in front
  induction links using Nat.strong_induction_on generalizing location front with
  | _ links ihlinks =>
    induction front generalizing location with
    | nil => exact h links location
    | cons step front ih =>
      rw [List.cons_append, List.cons_append]
      by_cases hdir : fs.isDirectoryAt location = true
      · cases step with
        | root => rw [follow_root _ _ _ hdir, follow_root _ _ _ hdir, ih]
        | here => rw [follow_here _ _ _ hdir, follow_here _ _ _ hdir, ih]
        | up => rw [follow_up _ _ _ hdir, follow_up _ _ _ hdir, ih]
        | name name =>
          rcases Nat.lt_or_ge nameLimit (Utf8.encode name).length with hlen | hlen
          · rw [follow_long_name _ _ _ hdir hlen, follow_long_name _ _ _ hdir hlen]
          have hempty : (front ++ a).isEmpty = false ∧ (front ++ b).isEmpty = false := by
            simp [ha, hb]
          rw [follow_name _ _ hdir hlen, follow_name _ _ hdir hlen, hempty.1, hempty.2]
          cases fs.entry? (name :: location) with
          | none => rfl
          | some entry =>
            cases entry with
            | link path =>
              cases links with
              | zero => rfl
              | succ links =>
                simp only [Bool.false_and, Bool.false_eq_true, if_false, ← List.append_assoc]
                exact ihlinks links (Nat.lt_succ_self _) location (path.steps ++ front)
            | _ => exact ih (name :: location)
      · have hno : fs.isDirectoryAt location = false := by simpa using hdir
        rw [follow_of_not_directory _ _ _ _ hno, follow_of_not_directory _ _ _ _ hno]

theorem follow_here_of_ne_nil
    {followLast : Bool} {rest : List Component}
    (hrest : rest ≠ [])
    (links : Nat) (location : Location) :
    fs.follow followLast links location (.here :: rest) =
      fs.follow followLast links location rest := by
  by_cases hdir : fs.isDirectoryAt location = true
  · exact follow_here _ _ _ hdir
  · have hno : fs.isDirectoryAt location = false := by simpa using hdir
    obtain ⟨step, more, rfl⟩ := List.exists_cons_of_ne_nil hrest
    rw [follow_of_not_directory _ _ _ _ hno, follow_of_not_directory _ _ _ _ hno]

/-- Steps that stay where they are do not matter in front of a name. -/
theorem follow_filter
    {steps : List Component} {name : List Char}
    (hlast : steps.getLast? = some (.name name))
    (followLast : Bool) (links : Nat) (location : Location) :
    fs.follow followLast links location (steps.filter (· ≠ .here)) =
      fs.follow followLast links location steps := by
  obtain ⟨init, rfl⟩ := List.getLast?_eq_some_iff.1 hlast
  rw [List.filter_append, List.filter_cons_of_pos (by simp), List.filter_nil]
  clear hlast
  induction init generalizing links location with
  | nil => rfl
  | cons step init ih =>
    by_cases hhere : step = .here
    · rw [hhere, List.filter_cons_of_neg (by simp), List.cons_append,
        follow_here_of_ne_nil (by simp), ih]
    · rw [List.filter_cons_of_pos (by simpa using hhere)]
      exact follow_congr (by simp) (by simp) ih links location [step]

/-- A path that ends in a name leads where its trail leads. -/
theorem resolve_eq_follow_trail
    {path : Path} {name : List Char}
    (hfits : Fits path)
    (hlast : path.steps.getLast? = some (.name name))
    (followLast : Bool) :
    fs.resolve followLast path =
      fs.follow followLast linkLimit fs.workingDirectory path.trail := by
  rw [resolve_of_fits _ hfits, Path.trail, follow_filter hlast]

/-! ## Going down a chain -/

/-- What comes of going down names from a directory. -/
inductive Descent (fs : FileSystem) (location : Location) :
    List (List Char) → Except IoError Resolved → Prop
  | made
      {names : List (List Char)}
      (hdir : fs.isDirectoryAt (names.reverse ++ location) = true) :
      Descent fs location names (.ok (.found (names.reverse ++ location) .directory))
  | vacant
      {init : List (List Char)} {name : List Char}
      (hdir : fs.isDirectoryAt (init.reverse ++ location) = true)
      (hlen : (Utf8.encode name).length ≤ nameLimit)
      (hnone : fs.entry? (name :: (init.reverse ++ location)) = none) :
      Descent fs location (init ++ [name]) (.ok (.vacant (name :: (init.reverse ++ location))))
  | missing
      {init : List (List Char)} {name : List Char} {more : List (List Char)}
      (hmore : more ≠ [])
      (hnone : fs.entry? (name :: (init.reverse ++ location)) = none) :
      Descent fs location (init ++ name :: more) (.error .notFound)
  | long
      {init : List (List Char)} {name : List Char} {more : List (List Char)}
      (hdir : fs.isDirectoryAt (init.reverse ++ location) = true)
      (hlen : nameLimit < (Utf8.encode name).length) :
      Descent fs location (init ++ name :: more) (.error .nameTooLong)

theorem Descent.cons
    {location : Location} {name : List Char} {names : List (List Char)}
    {result : Except IoError Resolved}
    (h : Descent fs (name :: location) names result) :
    Descent fs location (name :: names) result := by
  have hreverse : ∀ front : List (List Char),
      front.reverse ++ name :: location = (name :: front).reverse ++ location := by simp
  cases h with
  | made hdir =>
    rw [hreverse] at hdir ⊢
    exact .made hdir
  | @vacant init last hdir hlen hnone =>
    rw [hreverse] at hdir hnone ⊢
    exact @Descent.vacant fs location (name :: init) last hdir hlen hnone
  | @missing init next more hmore hnone =>
    rw [hreverse] at hnone
    exact @Descent.missing fs location (name :: init) next more hmore hnone
  | @long init next more hdir hlen =>
    rw [hreverse] at hdir
    exact @Descent.long fs location (name :: init) next more hdir hlen

/-- Where the names of a chain lie there is nothing, or a directory. -/
def Clear (fs : FileSystem) (location : Location) (names : List (List Char)) : Prop :=
  ∀ front, front <+: names → front ≠ [] →
    fs.entry? (front.reverse ++ location) = none ∨
      fs.entry? (front.reverse ++ location) = some .directory

theorem Clear.tail
    {location : Location} {name : List Char} {names : List (List Char)}
    (h : Clear fs location (name :: names)) :
    Clear fs (name :: location) names := by
  intro front hpre _
  have hnext := h (name :: front) (by simpa using hpre) (by simp)
  simpa using hnext

/-- Going down a clear chain is one of the cases of a descent. -/
theorem descent_of_clear
    {location : Location} {names : List (List Char)}
    (hdir : fs.isDirectoryAt location = true)
    (hclear : Clear fs location names)
    (followLast : Bool) (links : Nat) :
    Descent fs location names
      (fs.follow followLast links location (names.map .name)) := by
  induction names generalizing location with
  | nil =>
    rw [List.map_nil, follow_nil, (isDirectoryAt_iff location).1 hdir]
    exact .made hdir
  | cons name names ih =>
    rw [List.map_cons]
    rcases Nat.lt_or_ge nameLimit (Utf8.encode name).length with hlen | hlen
    · rw [follow_long_name _ _ _ hdir hlen]
      exact @Descent.long fs location [] name names hdir hlen
    rw [follow_name _ _ hdir hlen]
    have hentry := hclear [name] (by simp) (by simp)
    rw [List.reverse_singleton, List.singleton_append] at hentry
    rcases hentry with hnone | hdirectory
    · rw [hnone]
      cases names with
      | nil => exact @Descent.vacant fs location [] name hdir hlen hnone
      | cons next more => exact @Descent.missing fs location [] name (next :: more) (by simp) hnone
    · rw [hdirectory]
      exact (ih ((isDirectoryAt_iff _).2 hdirectory) hclear.tail).cons

/-! ## Paths along a chain -/

/-- In a well-formed tree what lies above a directory is a directory. -/
theorem WellFormed.isDirectoryAt_of_append
    (hfs : fs.WellFormed)
    {names : List (List Char)} {location : Location}
    (h : fs.isDirectoryAt (names ++ location) = true) :
    fs.isDirectoryAt location = true := by
  induction names with
  | nil => exact h
  | cons name names ih =>
    rw [isDirectoryAt_iff] at h
    exact ih (hfs.parent name (names ++ location) (by rw [← List.cons_append, h]; simp))

theorem WellFormed.isDirectoryAt_of_prefix
    (hfs : fs.WellFormed)
    {front names : List (List Char)} {location : Location}
    (h : fs.isDirectoryAt (names.reverse ++ location) = true)
    (hpre : front <+: names) :
    fs.isDirectoryAt (front.reverse ++ location) = true := by
  obtain ⟨back, rfl⟩ := hpre
  rw [List.reverse_append, List.append_assoc] at h
  exact hfs.isDirectoryAt_of_append h

/-- No name on the way to a directory is too long. -/
theorem WellFormed.length_le_of_mem
    (hfs : fs.WellFormed)
    {names : List (List Char)} {location : Location} {name : List Char}
    (h : fs.isDirectoryAt (names.reverse ++ location) = true)
    (hmem : name ∈ names) :
    (Utf8.encode name).length ≤ nameLimit := by
  obtain ⟨front, back, rfl⟩ := List.append_of_mem hmem
  have hpre : front ++ [name] <+: front ++ name :: back := ⟨back, by simp⟩
  have hdir := hfs.isDirectoryAt_of_prefix h hpre
  rw [List.reverse_append, List.reverse_singleton, List.append_assoc, List.singleton_append,
    isDirectoryAt_iff] at hdir
  exact hfs.length_le name _ (by rw [hdir]; simp)

/-- Steps that lead to a directory within the allowance of links. -/
def Base (fs : FileSystem) (base : List Component) (location : Location) : Prop :=
  fs.isDirectoryAt location = true ∧
    ∃ links ≤ linkLimit, Walks fs fs.workingDirectory base location links

namespace Base

variable {base : List Component} {location : Location} {path : Path} {names : List (List Char)}

/-- The steps decide where they lead. -/
theorem unique
    {location' : Location}
    (h : Base fs base location)
    (h' : Base fs base location') :
    location = location' := by
  obtain ⟨hdir, links, hle, hwalks⟩ := h
  obtain ⟨hdir', links', hle', hwalks'⟩ := h'
  have hend : fs.follow true linkLimit fs.workingDirectory (base ++ []) = _ :=
    hwalks.follow_append hle (Or.inr rfl)
  rw [hwalks'.follow_append hle' (Or.inr rfl), follow_nil, follow_nil,
    (isDirectoryAt_iff _).1 hdir, (isDirectoryAt_iff _).1 hdir'] at hend
  cases hend
  rfl

/-- Names lead down through directories. -/
theorem of_names
    (hfs : fs.WellFormed)
    (hdir : fs.isDirectoryAt (names.reverse ++ fs.workingDirectory) = true) :
    Base fs (names.map .name) (names.reverse ++ fs.workingDirectory) := by
  have hwalks := hfs.walks hdir
  rw [List.reverse_reverse] at hwalks
  exact ⟨hdir, 0, Nat.zero_le _, hwalks⟩

/-- A path whose names are all there leads to the last one. -/
theorem lookup_of_made
    (h : Base fs base location)
    (hfs : fs.WellFormed)
    (htrail : path.trail = base ++ names.map .name)
    (hfits : Fits path)
    (hmade : fs.isDirectoryAt (names.reverse ++ location) = true) :
    fs.lookup path = .ok (names.reverse ++ location, .directory) := by
  obtain ⟨-, links, hle, hwalks⟩ := h
  have hdown := hfs.walks hmade
  rw [List.reverse_reverse] at hdown
  rw [lookup_eq_directory_iff, htrail]
  exact ⟨hfits, hmade, links + 0, hle, hwalks.append hdown⟩

/-- Down a clear chain a path leads to no other directory. -/
theorem eq_of_lookup
    (h : Base fs base location)
    (htrail : path.trail = base ++ names.map .name)
    (hclear : Clear fs location names)
    {top : Location}
    (hlookup : fs.lookup path = .ok (top, .directory)) :
    top = names.reverse ++ location := by
  obtain ⟨hdir, links, hle, hwalks⟩ := h
  obtain ⟨-, htop, links', hle', hwalks'⟩ := (lookup_eq_directory_iff path top).1 hlookup
  have hend : fs.follow true linkLimit fs.workingDirectory (path.trail ++ []) = _ :=
    hwalks'.follow_append hle' (Or.inr rfl)
  rw [follow_nil, (isDirectoryAt_iff top).1 htop, List.append_nil, htrail,
    hwalks.follow_append hle (Or.inr rfl)] at hend
  have hdescent := descent_of_clear hdir hclear true (linkLimit - links)
  rw [hend] at hdescent
  cases hdescent
  rfl

end Base

/-- A path, above another one or that path itself, that covers some names of a chain. -/
structure Rung (base : List Component) (bottom path : Path) (names : List (List Char)) : Prop where
  trail : path.trail = base ++ names.map .name
  trimmed : path.Trimmed
  isPrefix : path.text <+: bottom.text
  nonempty : path.text ≠ []

namespace Rung

variable {base : List Component} {bottom path : Path} {names : List (List Char)}
  {location : Location}

theorem fits
    (h : Rung base bottom path names)
    (hfits : Fits bottom) :
    Fits path := hfits.of_prefix h.isPrefix h.nonempty

theorem last
    {name : List Char}
    (h : Rung base bottom path (names ++ [name])) :
    path.steps.getLast? = some (.name name) := by
  apply h.trimmed
  rw [h.trail, List.map_append, List.map_singleton, ← List.append_assoc, List.getLast?_concat]

/-- The parent of a path covers one name less. -/
theorem exists_parent
    {name : List Char}
    (h : Rung base bottom path (names ++ [name]))
    (hne : names ≠ []) :
    ∃ parent, path.parent? = some parent ∧ Rung base bottom parent names ∧
      parent.text.length < path.text.length := by
  obtain ⟨parent, hparent, htrail, hpre, hshort⟩ := Path.exists_parent h.last
  rw [h.trail, List.map_append, List.map_singleton, ← List.append_assoc] at htrail
  have heq := (List.append_cancel_right htrail).symm
  refine ⟨parent, hparent, ⟨heq, Path.trimmed_parent hparent, hpre.trans h.isPrefix, ?_⟩, hshort⟩
  intro hempty
  rw [Path.eq_of_text_eq (b := ⟨[]⟩) hempty, Path.trail_empty] at heq
  simp [hne] at heq

/-- Every part of the chain that a path covers is covered by a path above it. -/
theorem exists_mem_ancestorsFrom
    {front back : List (List Char)}
    (h : Rung base bottom path (front ++ back))
    (hne : front ≠ [])
    {fuel : Nat}
    (hfuel : path.text.length ≤ fuel) :
    ∃ above ∈ path.ancestorsFrom fuel, Rung base bottom above front := by
  induction back using List.reverseRecOn generalizing path fuel with
  | nil =>
    rw [List.append_nil] at h
    refine ⟨path, ?_, h⟩
    cases fuel with
    | zero => exact List.mem_singleton_self path
    | succ fuel => exact List.mem_cons_self
  | append_singleton back last ih =>
    obtain ⟨fuel, rfl⟩ : ∃ less, fuel = less + 1 := by
      have hlength : path.text.length ≠ 0 := by simpa using h.nonempty
      exact ⟨fuel - 1, by omega⟩
    rw [← List.append_assoc] at h
    obtain ⟨parent, hparent, hrung, hshort⟩ := h.exists_parent (by simp [hne])
    obtain ⟨above, hmem, habove⟩ := ih hrung (show parent.text.length ≤ fuel by omega)
    rw [Path.ancestorsFrom, hparent]
    exact ⟨above, List.mem_cons_of_mem _ hmem, habove⟩

/-- Where the path leads is a descent along its names. -/
theorem descent
    (h : Rung base bottom path names)
    (hne : names ≠ [])
    (hfits : Fits bottom)
    (hbase : Base fs base location)
    (hclear : Clear fs location names)
    (followLast : Bool) :
    Descent fs location names (fs.resolve followLast path) := by
  obtain ⟨hdir, links, hle, hwalks⟩ := hbase
  rcases List.eq_nil_or_concat names with rfl | ⟨init, name, rfl⟩
  · exact absurd rfl hne
  rw [List.concat_eq_append] at h hclear ⊢
  rw [resolve_eq_follow_trail (h.fits hfits) h.last, h.trail,
    hwalks.follow_append hle (Or.inl (by simp))]
  exact descent_of_clear hdir hclear followLast _

/-- A path whose names are all there leads to the last one. -/
theorem lookup_of_made
    (h : Rung base bottom path names)
    (hfits : Fits bottom)
    (hfs : fs.WellFormed)
    (hbase : Base fs base location)
    (hmade : fs.isDirectoryAt (names.reverse ++ location) = true) :
    fs.lookup path = .ok (names.reverse ++ location, .directory) :=
  hbase.lookup_of_made hfs h.trail (h.fits hfits) hmade

theorem isDirectory_iff
    (h : Rung base bottom path names)
    (hne : names ≠ [])
    (hfits : Fits bottom)
    (hfs : fs.WellFormed)
    (hbase : Base fs base location)
    (hclear : Clear fs location names) :
    fs.isDirectory path = true ↔ fs.isDirectoryAt (names.reverse ++ location) = true := by
  constructor
  · intro hdirectory
    have hdescent := h.descent hne hfits hbase hclear true
    unfold isDirectory leadsTo lookup at hdirectory
    generalize fs.resolve true path = result at hdescent hdirectory
    cases hdescent with
    | made hdir => exact hdir
    | vacant => cases hdirectory
    | missing => cases hdirectory
    | long => cases hdirectory
  · intro hmade
    rw [isDirectory, leadsTo, h.lookup_of_made hfits hfs hbase hmade]
    rfl

end Rung

/-- What comes of making a directory on a chain. -/
inductive Attempt (fs : FileSystem) (location : Location) :
    List (List Char) → Except IoError FileSystem → Prop
  | made
      {names : List (List Char)}
      (hdir : fs.isDirectoryAt (names.reverse ++ location) = true) :
      Attempt fs location names (.error .alreadyExists)
  | vacant
      {init : List (List Char)} {name : List Char}
      (hdir : fs.isDirectoryAt (init.reverse ++ location) = true)
      (hlen : (Utf8.encode name).length ≤ nameLimit)
      (hnone : fs.entry? (name :: (init.reverse ++ location)) = none) :
      Attempt fs location (init ++ [name])
        (.ok (fs.put (name :: (init.reverse ++ location)) .directory))
  | missing
      {init : List (List Char)} {name : List Char} {more : List (List Char)}
      (hmore : more ≠ [])
      (hnone : fs.entry? (name :: (init.reverse ++ location)) = none) :
      Attempt fs location (init ++ name :: more) (.error .notFound)
  | long
      {init : List (List Char)} {name : List Char} {more : List (List Char)}
      (hdir : fs.isDirectoryAt (init.reverse ++ location) = true)
      (hlen : nameLimit < (Utf8.encode name).length) :
      Attempt fs location (init ++ name :: more) (.error .nameTooLong)

theorem Rung.attempt
    {base : List Component} {bottom path : Path} {names : List (List Char)} {location : Location}
    (h : Rung base bottom path names)
    (hne : names ≠ [])
    (hfits : Fits bottom)
    (hbase : Base fs base location)
    (hclear : Clear fs location names) :
    Attempt fs location names (fs.makeDirectory path) := by
  have hdescent := h.descent hne hfits hbase hclear false
  unfold makeDirectory
  generalize fs.resolve false path = result at hdescent ⊢
  cases hdescent with
  | made hdir => exact .made hdir
  | vacant hdir hlen hnone => exact .vacant hdir hlen hnone
  | missing hmore hnone => exact .missing hmore hnone
  | long hdir hlen => exact .long hdir hlen

end FileSystem
end LineSieve
