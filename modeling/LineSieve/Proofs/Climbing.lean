import LineSieve.Proofs.Chains
import LineSieve.Proofs.Completion

/-!
# Making the directories of a chain

A worker that makes the directories of its destination goes up the chain until there is something to
build on and then down again.  Other workers may make directories of the same chain meanwhile.
Whatever they do, the worker gets to the bottom of the chain, unless the path is refused or a name
on the chain is too long; and then it has made what can be made.
-/

namespace LineSieve
namespace Process

open FileSystem

/-- Where a path leads to a directory there is an entry, that directory or a link to it. -/
theorem exists_found_of_lookup
    {fs : FileSystem} {path : Path} {location : Location}
    (h : fs.lookup path = .ok (location, .directory)) :
    ∃ found entry, fs.resolve false path = .ok (.found found entry) := by
  rw [lookup_eq_ok_iff] at h
  have hfits := fits_of_resolve h
  rw [resolve_of_fits _ hfits] at h ⊢
  rcases List.eq_nil_or_concat path.steps with hnil | ⟨init, last, hconcat⟩
  · rw [Path.steps_eq] at hnil
    cases hnil
  rw [hconcat, List.concat_eq_append] at h ⊢
  obtain ⟨target, links, hle, hwalks, hdir, hlast⟩ := exists_walks_of_follow (Or.inl (by simp)) h
  rw [hwalks.follow_append hle (Or.inl (by simp))]
  cases last with
  | root => exact ⟨_, _, by rw [follow_root _ _ _ hdir, follow_nil]; rfl⟩
  | here =>
    rw [follow_here _ _ _ hdir, follow_nil, (isDirectoryAt_iff _).1 hdir]
    exact ⟨_, _, rfl⟩
  | up =>
    rw [follow_up _ _ _ hdir, follow_nil] at hlast ⊢
    cases hentry : fs.entry? target.tail with
    | none => rw [hentry] at hlast; cases hlast
    | some entry => exact ⟨_, _, rfl⟩
  | name name =>
    rcases Nat.lt_or_ge nameLimit (Utf8.encode name).length with hlen | hlen
    · rw [follow_long_name _ _ _ hdir hlen] at hlast
      cases hlast
    cases hentry : fs.entry? (name :: target) with
    | none =>
      rw [follow_single_vacant _ _ hdir hlen hentry] at hlast
      cases hlast
    | some entry => exact ⟨_, _, follow_single_found _ hdir hlen hentry (Or.inl rfl)⟩

/-- A directory that a path leads to cannot be made again. -/
theorem makeDirectory_of_lookup
    {fs : FileSystem} {path : Path} {location : Location}
    (h : fs.lookup path = .ok (location, .directory)) :
    fs.makeDirectory path = .error .alreadyExists := by
  obtain ⟨found, entry, hfound⟩ := exists_found_of_lookup h
  rw [makeDirectory, hfound]

/-- Paths that cover one name more each, down to the bottom of a chain. -/
inductive Rungs (base : List Component) (bottom : Path) (chain : List (List Char)) :
    List (List Char) → List Path → Prop
  | done :
      Rungs base bottom chain chain []
  | more
      {names : List (List Char)} {name : List Char} {path : Path} {missing : List Path}
      (hrung : Rung base bottom path (names ++ [name]))
      (h : Rungs base bottom chain (names ++ [name]) missing) :
      Rungs base bottom chain names (path :: missing)

theorem Rungs.isPrefix
    {base : List Component} {bottom : Path} {chain names : List (List Char)} {missing : List Path}
    (h : Rungs base bottom chain names missing) :
    names <+: chain := by
  induction h with
  | done => exact List.prefix_rfl
  | more _ _ ih => exact (List.prefix_append _ _).trans ih

/-- Why the directories of a chain cannot all be made. -/
def barrier? (bottom : Path) (chain : List (List Char)) : Option IoError :=
  match refusal? bottom with
  | some e => some e
  | none => if ∃ name ∈ chain, nameLimit < (Utf8.encode name).length then some .nameTooLong else none

/-- The places of the directories of a chain that can be made. -/
def madeOn (location : Location) (bottom : Path) (chain : List (List Char)) : Set Location :=
  {place | Fits bottom ∧ ∃ front, front <+: chain ∧ front ≠ [] ∧
    (∀ name ∈ front, (Utf8.encode name).length ≤ nameLimit) ∧ place = front.reverse ++ location}

/-- A worker on its way up or down a chain. -/
inductive Climbing (fs : FileSystem) (base : List Component) (location : Location)
    (target bottom : Path) (chain : List (List Char)) : Phase → Prop
  | refused
      {e : IoError}
      (hrefusal : refusal? bottom = some e) :
      Climbing fs base location target bottom chain (.probing target bottom bottom.ancestors [])
  | givenUp
      {e : IoError}
      (hrefusal : refusal? bottom = some e) :
      Climbing fs base location target bottom chain (.checking target bottom bottom e [])
  | probing
      {path : Path} {fuel : Nat} {names : List (List Char)} {missing : List Path}
      (hfits : Fits bottom)
      (hrung : Rung base bottom path names)
      (hfuel : path.text.length ≤ fuel)
      (hmissing : Rungs base bottom chain names missing) :
      Climbing fs base location target bottom chain
        (.probing target bottom (path.ancestorsFrom fuel) missing)
  | there
      {path : Path} {cause : IoError} {names : List (List Char)} {missing : List Path}
      (hfits : Fits bottom)
      (hrung : Rung base bottom path names)
      (hmissing : Rungs base bottom chain names missing)
      (hmade : fs.isDirectoryAt (names.reverse ++ location) = true) :
      Climbing fs base location target bottom chain (.checking target bottom path cause missing)
  | tooLong
      {path : Path} {init more : List (List Char)} {name : List Char} {missing : List Path}
      (hfits : Fits bottom)
      (hrung : Rung base bottom path (init ++ name :: more))
      (hmissing : Rungs base bottom chain (init ++ name :: more) missing)
      (hmade : fs.isDirectoryAt (init.reverse ++ location) = true)
      (hlen : nameLimit < (Utf8.encode name).length) :
      Climbing fs base location target bottom chain
        (.checking target bottom path .nameTooLong missing)
  | making
      {names : List (List Char)} {missing : List Path}
      (hfits : Fits bottom)
      (hmissing : Rungs base bottom chain names missing)
      (hmade : fs.isDirectoryAt (names.reverse ++ location) = true) :
      Climbing fs base location target bottom chain (.making target bottom missing)

namespace Climbing

variable {fs later : FileSystem} {base : List Component} {location : Location}
  {target bottom : Path} {chain : List (List Char)} {phase : Phase}

theorem isRunning
    (h : Climbing fs base location target bottom chain phase) :
    phase.isRunning = true := by
  cases h <;> rfl

/-- More directories do no harm. -/
theorem mono
    (h : Climbing fs base location target bottom chain phase)
    (hkeep : ∀ place, fs.isDirectoryAt place = true → later.isDirectoryAt place = true) :
    Climbing later base location target bottom chain phase := by
  cases h with
  | refused hrefusal => exact .refused hrefusal
  | givenUp hrefusal => exact .givenUp hrefusal
  | probing hfits hrung hfuel hmissing => exact .probing hfits hrung hfuel hmissing
  | there hfits hrung hmissing hmade => exact .there hfits hrung hmissing (hkeep _ hmade)
  | tooLong hfits hrung hmissing hmade hlen =>
    exact .tooLong hfits hrung hmissing (hkeep _ hmade) hlen
  | making hfits hmissing hmade => exact .making hfits hmissing (hkeep _ hmade)

end Climbing

/-- Where a step on a chain can lead: on along the chain, to its bottom, or to the barrier. -/
inductive Climbed (base : List Component) (location : Location) (path target bottom : Path)
    (chain : List (List Char)) (fs : FileSystem) : Phase → Prop
  | on
      {phase : Phase}
      (h : Climbing fs base location target bottom chain phase) :
      Climbed base location path target bottom chain fs phase
  | arrived
      (hfits : Fits bottom)
      (hmade : fs.isDirectoryAt (chain.reverse ++ location) = true) :
      Climbed base location path target bottom chain fs (.creating target)
  | stopped
      {e : IoError}
      (hbarrier : barrier? bottom chain = some e)
      (hmade : ∀ place ∈ madeOn location bottom chain, fs.entry? place = some .directory) :
      Climbed base location path target bottom chain fs
        (.finished ⟨path, none, some (.io bottom e), .zero⟩)

/-- What a step on a chain does to the tree: nothing, or it makes a directory of the chain. -/
inductive Footing (location : Location) (bottom : Path) (chain : List (List Char))
    (fs : FileSystem) : FileSystem → Prop
  | same :
      Footing location bottom chain fs fs
  | made
      {name : List Char} {directory : Location}
      (hmem : name :: directory ∈ madeOn location bottom chain)
      (hdir : fs.isDirectoryAt directory = true)
      (hnone : fs.entry? (name :: directory) = none) :
      Footing location bottom chain fs (fs.put (name :: directory) .directory)

/-- Making a directory of the chain keeps the tree well formed. -/
theorem Footing.wellFormed
    {fs later : FileSystem} {base : List Component} {location : Location} {bottom : Path}
    {chain : List (List Char)}
    (h : Footing location bottom chain fs later)
    (hrung : Rung base bottom bottom chain)
    (hfs : fs.WellFormed) :
    later.WellFormed := by
  cases h with
  | same => exact hfs
  | @made name directory hmem hdir hnone =>
    obtain ⟨hfits, front, hpre, hne, hshort, heq⟩ := hmem
    have hname : name ∈ front := by
      obtain ⟨init, last, rfl⟩ := (List.eq_nil_or_concat front).resolve_left hne
      rw [List.concat_eq_append, List.reverse_append, List.reverse_singleton,
        List.singleton_append, List.cons_append] at heq
      rw [(List.cons.inj heq).1]
      simp
    have hstep : .name name ∈ bottom.steps := by
      have htrail : .name name ∈ bottom.trail := by
        rw [hrung.trail]
        exact List.mem_append_right _ (List.mem_map_of_mem (hpre.subset hname))
      exact List.mem_of_mem_filter htrail
    obtain ⟨hisName, hsubset⟩ := Path.isName_of_mem_steps hstep
    exact hfs.put hdir (by simp [hnone]) hisName (fun hnul => hfits.no_nul (hsubset hnul))
      (hshort name hname) (by simp)

section Steps

variable {path target bottom : Path} {fs : FileSystem} {base : List Component}
  {location : Location} {chain names : List (List Char)} {missing : List Path}

theorem isDirectoryAt_put
    {place other : Location}
    (hne : place ≠ [])
    (h : other = place ∨ fs.isDirectoryAt other = true)
    : (fs.put place .directory).isDirectoryAt other = true := by
  rw [isDirectoryAt_iff, entry?_put hne]
  split_ifs with heq
  · rfl
  · exact (isDirectoryAt_iff other).1 (h.resolve_left heq)

/-! ## Paths that are refused -/

theorem refusal?_ne_notFound
    (h : path.text ≠ []) :
    refusal? path ≠ some .notFound := by
  unfold refusal?
  split_ifs with hnul hempty
  · simp
  · exact absurd (by simpa using hempty) h
  · simp
  · simp

theorem makeDirectory_of_refusal?
    {e : IoError}
    (h : refusal? path = some e) :
    fs.makeDirectory path = .error e := by
  rw [makeDirectory, resolve_of_refusal? h]

theorem isDirectory_of_refusal?
    {e : IoError}
    (h : refusal? path = some e) :
    fs.isDirectory path = false := by
  rw [isDirectory, leadsTo, lookup_of_refusal? h]

theorem exists_ancestors_eq
    (path : Path) :
    ∃ above, path.ancestors = path :: above := by
  rw [Path.ancestors]
  cases path.text.length with
  | zero => exact ⟨_, rfl⟩
  | succ steps => exact ⟨_, rfl⟩

/-! ## Steps on a chain -/

/-- What is too long stays missing, and what can be made above it has been made. -/
theorem made_of_too_long
    (hfs : fs.WellFormed)
    {init more : List (List Char)} {name : List Char}
    (hpre : init ++ name :: more <+: chain)
    (hmade : fs.isDirectoryAt (init.reverse ++ location) = true)
    (hlen : nameLimit < (Utf8.encode name).length) :
    ∀ place ∈ madeOn location bottom chain, fs.entry? place = some .directory := by
  rintro place ⟨-, front, hfront, -, hshort, rfl⟩
  have hupto : init ++ [name] <+: chain := by
    refine List.IsPrefix.trans ⟨more, ?_⟩ hpre
    simp
  have hinit : front <+: init := by
    rcases List.prefix_or_prefix_of_prefix hfront hupto with hle | hge
    · rcases List.prefix_concat_iff.1 hle with rfl | hle
      · have := hshort name (by simp)
        omega
      · exact hle
    · have := hshort name (hge.subset (by simp))
      omega
  exact (isDirectoryAt_iff _).1 (hfs.isDirectoryAt_of_prefix hmade hinit)

/-- An attempt to make a directory of the chain is followed by a look, by going on down, or by going
up. -/
theorem climbed_of_attempt
    (target : Path)
    (hfs : fs.WellFormed)
    (hfits : Fits bottom)
    (hrung : Rung base bottom path names)
    (hmissing : Rungs base bottom chain names missing)
    (hattempt : Attempt fs location names (fs.makeDirectory path)) :
    (∃ cause, cause ≠ .notFound ∧ fs.makeDirectory path = .error cause ∧
        Climbing fs base location target bottom chain
          (.checking target bottom path cause missing)) ∨
      (∃ later, fs.makeDirectory path = .ok later ∧ Footing location bottom chain fs later ∧
        Climbing later base location target bottom chain (.making target bottom missing)) ∨
      (fs.makeDirectory path = .error .notFound ∧ ∃ init name more,
        names = init ++ name :: more ∧ more ≠ [] ∧
          fs.entry? (name :: (init.reverse ++ location)) = none) := by
  generalize fs.makeDirectory path = result at hattempt ⊢
  cases hattempt with
  | made hmade => exact Or.inl ⟨_, by simp, rfl, .there hfits hrung hmissing hmade⟩
  | @vacant init name hdir hlen hnone =>
    have hreverse : (init ++ [name]).reverse ++ location = name :: (init.reverse ++ location) := by
      simp
    refine Or.inr (Or.inl ⟨_, rfl, .made ⟨hfits, init ++ [name], hmissing.isPrefix, by simp, ?_,
      hreverse.symm⟩ hdir hnone, .making hfits hmissing ?_⟩)
    · intro other hmem
      rcases List.mem_append.1 hmem with hmem | hmem
      · exact hfs.length_le_of_mem hdir hmem
      · rw [List.mem_singleton.1 hmem]
        exact hlen
    · exact isDirectoryAt_put (List.cons_ne_nil _ _) (Or.inl hreverse)
  | missing hmore hnone => exact Or.inr (Or.inr ⟨rfl, _, _, _, rfl, hmore, hnone⟩)
  | long hdir hlen => exact Or.inl ⟨_, by simp, rfl, .tooLong hfits hrung hmissing hdir hlen⟩

/-- A name is there if it lies above one whose directory is there. -/
theorem entry?_ne_none_of_made
    (hfs : fs.WellFormed)
    {init more : List (List Char)} {name last : List Char}
    (hmade : fs.isDirectoryAt (names.reverse ++ location) = true)
    (hsplit : names ++ [last] = init ++ name :: more)
    (hmore : more ≠ []) :
    fs.entry? (name :: (init.reverse ++ location)) ≠ none := by
  have hupto : init ++ [name] <+: names := by
    have hpre : init ++ [name] <+: names ++ [last] := by
      rw [hsplit]
      exact ⟨more, by simp⟩
    rcases List.prefix_concat_iff.1 hpre with heq | hle
    · rw [← heq] at hsplit
      have hnil : more = [] := by simpa using (List.append_cancel_left hsplit).symm
      exact absurd hnil hmore
    · exact hle
  have hdir := hfs.isDirectoryAt_of_prefix hmade hupto
  rw [List.reverse_append, List.reverse_singleton, List.singleton_append, List.cons_append,
    isDirectoryAt_iff] at hdir
  rw [hdir]
  simp

section Advance

variable (config : Config) (root path : Path) (worker : Nat)

/-- The step of a worker on its way up. -/
theorem climbed_of_probing
    {current : Path} {fuel : Nat}
    (hfs : fs.WellFormed)
    (hbase : Base fs base location)
    (hclear : Clear fs location chain)
    (hfits : Fits bottom)
    (hrung : Rung base bottom current names)
    (hfuel : current.text.length ≤ fuel)
    (hmissing : Rungs base bottom chain names missing) :
    Climbed base location path target bottom chain
        (advance config root worker path fs
          (.probing target bottom (current.ancestorsFrom fuel) missing)).1
        (advance config root worker path fs
          (.probing target bottom (current.ancestorsFrom fuel) missing)).2 ∧
      Footing location bottom chain fs
        (advance config root worker path fs
          (.probing target bottom (current.ancestorsFrom fuel) missing)).1 := by
  have hlength : current.text.length ≠ 0 := by simpa using hrung.nonempty
  obtain ⟨fuel, rfl⟩ : ∃ less, fuel = less + 1 := ⟨fuel - 1, by omega⟩
  have hkeep : current.text.isEmpty = false := by simpa using hrung.nonempty
  simp only [Path.ancestorsFrom, Process.advance, hkeep, Bool.false_eq_true, if_false]
  rcases List.eq_nil_or_concat names with rfl | ⟨front, last, rfl⟩
  · -- there is nothing to make
    have hthere := hrung.lookup_of_made hfits hfs hbase hbase.1
    rw [makeDirectory_of_lookup hthere]
    exact ⟨.on (.there hfits hrung hmissing hbase.1), .same⟩
  rw [List.concat_eq_append] at hrung hmissing
  have hchain : Clear fs location (front ++ [last]) := fun prior hprior =>
    hclear prior (hprior.trans hmissing.isPrefix)
  rcases climbed_of_attempt target hfs hfits hrung hmissing
      (hrung.attempt (by simp) hfits hbase hchain) with
    ⟨cause, hcause, hmake, hnext⟩ | ⟨later, hmake, hfooting, hnext⟩ |
      ⟨hmake, init, name, more, hsplit, hmore, hnone⟩
  · rw [hmake]
    cases cause with
    | notFound => exact absurd rfl hcause
    | _ => exact ⟨.on hnext, .same⟩
  · rw [hmake]
    exact ⟨.on hnext, hfooting⟩
  · have hfront : front ≠ [] := by
      rintro rfl
      have hlen := congrArg List.length hsplit
      simp at hlen
      exact hmore (List.eq_nil_of_length_eq_zero (by omega))
    obtain ⟨parent, hparent, hrung', hshort⟩ := hrung.exists_parent hfront
    rw [hmake, hparent]
    exact ⟨.on (.probing hfits hrung' (by omega) (.more hrung hmissing)), .same⟩

/-- The step of a worker on its way down. -/
theorem climbed_of_making
    (hfs : fs.WellFormed)
    (hbase : Base fs base location)
    (hclear : Clear fs location chain)
    (hfits : Fits bottom)
    (hmissing : Rungs base bottom chain names missing)
    (hmade : fs.isDirectoryAt (names.reverse ++ location) = true) :
    Climbed base location path target bottom chain
        (advance config root worker path fs (.making target bottom missing)).1
        (advance config root worker path fs (.making target bottom missing)).2 ∧
      Footing location bottom chain fs
        (advance config root worker path fs (.making target bottom missing)).1 := by
  cases hmissing with
  | done => exact ⟨.arrived hfits hmade, .same⟩
  | @more _ last current missing hrung hmissing =>
    simp only [Process.advance]
    have hchain : Clear fs location (names ++ [last]) := fun prior hprior =>
      hclear prior (hprior.trans hmissing.isPrefix)
    rcases climbed_of_attempt target hfs hfits hrung hmissing
        (hrung.attempt (by simp) hfits hbase hchain) with
      ⟨cause, -, hmake, hnext⟩ | ⟨later, hmake, hfooting, hnext⟩ |
        ⟨-, init, name, more, hsplit, hmore, hnone⟩
    · rw [hmake]
      exact ⟨.on hnext, .same⟩
    · rw [hmake]
      exact ⟨.on hnext, hfooting⟩
    · exact absurd hnone (entry?_ne_none_of_made hfs hmade hsplit hmore)

/-- A step of a worker on a chain whose names are there or not, as the case may be. -/
theorem Climbing.advance
    {phase : Phase}
    (hfs : fs.WellFormed)
    (hbase : Base fs base location)
    (hclear : Fits bottom → Clear fs location chain)
    (hbottom : bottom.text ≠ [])
    (h : Climbing fs base location target bottom chain phase) :
    Climbed base location path target bottom chain
        (advance config root worker path fs phase).1 (advance config root worker path fs phase).2 ∧
      Footing location bottom chain fs (advance config root worker path fs phase).1 := by
  cases h with
  | @refused e hrefusal =>
    have hne : e ≠ .notFound := by
      rintro rfl
      exact refusal?_ne_notFound hbottom hrefusal
    obtain ⟨above, habove⟩ := exists_ancestors_eq bottom
    have hkeep : bottom.text.isEmpty = false := by simpa using hbottom
    rw [habove]
    simp only [Process.advance, hkeep, Bool.false_eq_true, if_false,
      makeDirectory_of_refusal? hrefusal]
    exact ⟨.on (.givenUp hrefusal), .same⟩
  | @givenUp e hrefusal =>
    simp only [Process.advance, isDirectory_of_refusal? hrefusal, Bool.false_eq_true, if_false]
    refine ⟨.stopped (by rw [barrier?, hrefusal]) ?_, .same⟩
    rintro place ⟨hfits, -⟩
    rw [refusal?_eq_none_of_fits hfits] at hrefusal
    cases hrefusal
  | probing hfits hrung hfuel hmissing =>
    exact climbed_of_probing config root path worker hfs hbase (hclear hfits) hfits hrung hfuel
      hmissing
  | @there current cause names missing hfits hrung hmissing hmade =>
    have hyes : fs.isDirectory current = true := by
      rw [isDirectory, leadsTo, hrung.lookup_of_made hfits hfs hbase hmade]
      rfl
    simp only [Process.advance, hyes, if_true]
    exact ⟨.on (.making hfits hmissing hmade), .same⟩
  | @tooLong current init more name missing hfits hrung hmissing hmade hlen =>
    have hchain : Clear fs location (init ++ name :: more) := fun prior hprior =>
      hclear hfits prior (hprior.trans hmissing.isPrefix)
    have hno : fs.isDirectory current = false := by
      rw [Bool.eq_false_iff, Ne, hrung.isDirectory_iff (by simp) hfits hfs hbase hchain]
      intro hdir
      have hle := hfs.length_le_of_mem hdir (show name ∈ init ++ name :: more by simp)
      omega
    have hbarrier : barrier? bottom chain = some .nameTooLong := by
      rw [barrier?, refusal?_eq_none_of_fits hfits]
      simp only
      rw [if_pos ⟨name, hmissing.isPrefix.subset (by simp), hlen⟩]
    simp only [Process.advance, hno, Bool.false_eq_true, if_false]
    exact ⟨.stopped hbarrier (made_of_too_long hfs hmissing.isPrefix hmade hlen), .same⟩
  | making hfits hmissing hmade =>
    exact climbed_of_making config root path worker hfs hbase (hclear hfits) hfits hmissing hmade

end Advance

end Steps

end Process
end LineSieve
