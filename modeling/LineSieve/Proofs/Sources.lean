import LineSieve.Proofs.Roots

/-!
# What becomes of the sources

Publishing does not look at what it replaces: a destination is a path inside the output directory,
and a file that is there gives way, whether it is a source or not.  So a call leaves a file alone
unless one of its results lies where the file is.  A path leads to another file afterwards only if a
link has given way, too.  In some layouts the order of the steps decides which result is published last,
but in no order is another file touched.
-/

namespace LineSieve

open FileSystem

variable {config : Config} {fs later : FileSystem} {results : List FileResult}
  {location : Location}

namespace Dispatch

open Process

/-- In a series, a file is published at a location. -/
inductive Series.PublishesAt (config : Config) (location : Location) :
    FileSystem → List FileResult → FileSystem → Prop
  | now
      {fs later : FileSystem} {results : List FileResult} {worker : Nat} {mustExist : Bool}
      {root : Option Path} {path : Path}
      (h : Process.PublishesAt config fs worker root path location
        (run config fs worker mustExist root path).1 (run config fs worker mustExist root path).2)
      (hrest : Series config (run config fs worker mustExist root path).1 results later) :
      Series.PublishesAt config location fs ((run config fs worker mustExist root path).2 :: results) later
  | afterwards
      {fs later : FileSystem} {results : List FileResult}
      (worker : Nat) (mustExist : Bool) (root : Option Path) (path : Path)
      (h : Series.PublishesAt config location (run config fs worker mustExist root path).1 results later) :
      Series.PublishesAt config location fs ((run config fs worker mustExist root path).2 :: results) later

theorem Series.PublishesAt.placedAt
    (h : Series.PublishesAt config location fs results later)
    (hfs : AtRest fs) :
    PlacedAt location fs results later := by
  induction h with
  | @now fs later results worker mustExist root path h hrest =>
    obtain ⟨-, hmiddle⟩ := hfs.run config worker mustExist root path
    exact h.placedAt.extend (.refl fs) (hrest.evolves hmiddle).1
      (List.cons_subset_cons _ (List.nil_subset results))
  | @afterwards fs later results worker mustExist root path h ih =>
    obtain ⟨hstep, hmiddle⟩ := hfs.run config worker mustExist root path
    exact (ih hmiddle).extend hstep (.refl later) (List.subset_cons_self _ _)

/-- A series leaves an entry alone or publishes something in its place. -/
theorem Series.kept_or_publishesAt
    (h : Series config fs results later)
    (hfs : AtRest fs)
    {entry : Entry}
    (hentry : fs.entry? location = some entry) :
    later.entry? location = some entry ∨ Series.PublishesAt config location fs results later := by
  induction h with
  | nil => exact Or.inl hentry
  | @cons fs later results worker mustExist root path hrest ih =>
    obtain ⟨-, hmiddle⟩ := hfs.run config worker mustExist root path
    rcases run_kept_or_publishesAt config mustExist root path hfs.wellFormed (hfs.scratch worker)
      hentry with hkept | hpublishes
    · exact (ih hmiddle hkept).imp_right fun hlater => .afterwards worker mustExist root path hlater
    · exact Or.inr (.now hpublishes hrest)

variable {starts : Path → PoolStart} {parallelism : Parallelism} {paths : List Path}
  {pattern : List Char} {recursive : Bool}

/-- A file that has kept its place is still where its path leads, if no link gives way. -/
theorem lookup_of_kept
    {source : Path} {content : List UInt8} {mode : Nat}
    (hevolves : Evolves fs later)
    (hlinks : KeepsLinks fs later)
    (hsource : fs.lookup source = .ok (location, .file content mode))
    (hkept : later.entry? location = some (.file content mode)) :
    later.lookup source = .ok (location, .file content mode) := by
  obtain ⟨entry', hlater, -, -⟩ := hevolves.lookup hlinks hsource
  have hheld : later.entry? location = some entry' :=
    holds_of_resolve (lookup_eq_ok_iff.1 hlater)
  rw [hkept] at hheld
  cases hheld
  exact hlater

/-- A run leaves a file as it was unless one of its results is published in the place of the file.
And if no link gives way to a published file, every path to the file leads to it afterwards, with the
content and the mode that it had, unless an output path leads there, too.  This holds whether the files of
a directory are processed one after the other or in any order of steps. -/
theorem runTargets_keeps_sources
    (hfs : AtRest fs)
    {source : Path} {content : List UInt8} {mode : Nat}
    (hsource : fs.lookup source = .ok (location, .file content mode)) :
    (∀ later results,
      runTargets starts config fs paths pattern recursive = (later, .ok results) →
        (later.entry? location = some (.file content mode) ∨
            Series.PublishesAt config location fs results later) ∧
          (KeepsLinks fs later →
            later.lookup source = .ok (location, .file content mode) ∨
              ∃ result ∈ results, result.LiesAt later location)) ∧
    ∀ later results,
      RunsTargets starts config parallelism fs paths pattern recursive later (.ok results) →
        (later.entry? location = some (.file content mode) ∨
            PlacedAt location fs results later) ∧
          (KeepsLinks fs later →
            later.lookup source = .ok (location, .file content mode) ∨
              ∃ result ∈ results, result.LiesAt later location) := by
  have hentry : fs.entry? location = some (.file content mode) :=
    holds_of_resolve (lookup_eq_ok_iff.1 hsource)
  constructor
  · intro later results hrun
    have hseries := series_of_runTargets hrun
    have hfile := hseries.kept_or_publishesAt hfs hentry
    refine ⟨hfile, fun hlinks => ?_⟩
    exact hfile.imp (lookup_of_kept (hseries.evolves hfs).1 hlinks hsource)
      fun hpublishes => (hpublishes.placedAt hfs).exists_liesAt hlinks
  · intro later results hruns
    have hpassage := (passage_of_runsTargets hfs hruns).1
    have hfile := hpassage.kept_or_placedAt location _ hentry
    refine ⟨hfile, fun hlinks => ?_⟩
    exact hfile.imp (lookup_of_kept hpassage.evolves hlinks hsource)
      fun hplaced => hplaced.exists_liesAt hlinks

theorem runTargets_keeps_sources_one_file :
    AtRest (withFile ['a'] (Utf8.encode ['x', '\n']) 0o644) ∧ ∃ later results,
      runTargets (fun _ => .ok ())
          ⟨[⟨.delete, none, none⟩], .directory ⟨['o']⟩ .flat, .sequential, true⟩
          (withFile ['a'] (Utf8.encode ['x', '\n']) 0o644) [⟨['a']⟩] ['*'] true =
        (later, .ok results) ∧
      (later.lookup ⟨['a']⟩ = .ok ([['a']], .file (Utf8.encode ['x', '\n']) 0o644) ∨
        ∃ result ∈ results, result.LiesAt later [['a']]) := by
  have hrest : AtRest (withFile ['a'] (Utf8.encode ['x', '\n']) 0o644) :=
    ⟨wellFormed_withFile _ ⟨by decide, by decide, by decide⟩ (by decide) (by decide) (by decide),
      scratch_withFile ['a'] _ 0o644⟩
  obtain ⟨results, hrun⟩ : ∃ results,
      (runTargets (fun _ => .ok ())
        ⟨[⟨.delete, none, none⟩], .directory ⟨['o']⟩ .flat, .sequential, true⟩
        (withFile ['a'] (Utf8.encode ['x', '\n']) 0o644) [⟨['a']⟩] ['*'] true).2 = .ok results :=
    ⟨[⟨⟨['a']⟩, some ⟨['o', '/', 'a']⟩, none, ⟨0, 1, 0⟩⟩], by decide +kernel⟩
  have hnolink : ∀ location link,
      FileSystem.entry? (withFile ['a'] (Utf8.encode ['x', '\n']) 0o644) location ≠
        some (.link link) := by
    intro location link
    rw [entry?_withFile]
    split_ifs <;> simp
  refine ⟨hrest, _, results, Prod.ext rfl hrun, ?_⟩
  exact ((@runTargets_keeps_sources _ _ [['a']] (fun _ => .ok ()) .auto _ _ _ hrest ⟨['a']⟩ _ _
    (by decide)).1 _ _ (Prod.ext rfl hrun)).2
    fun location link hlink => absurd hlink (hnolink location link)

/-- With the directory of the source as the output directory, the source is replaced, although a run
with an output directory does not count as one that overwrites its sources. -/
theorem runTargets_replaces_source :
    (let config : Config :=
      ⟨[⟨.delete, none, none⟩], .directory ⟨['.']⟩ .flat, .sequential, true⟩
     let fs := withFile ['a'] (Utf8.encode ['x', '\n']) 0o644
     let ran := runTargets (fun _ => .ok ()) config fs [⟨['a']⟩] ['*'] true
     config.overwritesSource = false ∧
      ran.2 = .ok [⟨⟨['a']⟩, some ⟨['.', '/', 'a']⟩, none, ⟨0, 1, 0⟩⟩] ∧
      fs.lookup ⟨['a']⟩ = .ok ([['a']], .file (Utf8.encode ['x', '\n']) 0o644) ∧
      ran.1.lookup ⟨['a']⟩ = .ok ([['a']], .file [] 0o644)) := by
  decide +kernel

end Dispatch
end LineSieve
