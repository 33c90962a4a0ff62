import LineSieve.Proofs.Roots

/-!
# Calls that are aborted

A call looks at all its roots, and at the pattern, before it touches anything, and at each root again
when its turn comes.  In between, only one thing can make a root unrecognisable.  With an output
directory a file may be published in the place of a symbolic link, and a root whose path goes through
that link is not found any more.  Besides, the pool is started for each directory by itself, and when it
does not start, the roots before have been processed already.  So an aborted call has left everything as
it was, or a root has been cut off in this way, or the system has refused a pool.
-/

namespace LineSieve
namespace Dispatch

open FileSystem Process

variable {starts : Path → PoolStart} {config : Config} {parallelism : Parallelism}
  {fs later : FileSystem} {path : Path} {paths : List Path} {pattern : List Char} {recursive : Bool}
  {kind : RootKind} {e : DispatchError} {results : List FileResult}

/-! ## Which roots are refused -/

/-- As long as the links stay, a root is still one. -/
theorem exists_classify_of_evolves
    (hevolves : Evolves fs later)
    (hlinks : KeepsLinks fs later)
    (h : classify fs path = .ok kind) :
    ∃ kind', classify later path = .ok kind' := by
  obtain ⟨hblank, hkind⟩ := classify_eq_ok h
  unfold classify
  rw [hblank]
  cases kind with
  | file =>
    rw [hevolves.isFile hlinks hkind]
    exact ⟨.file, rfl⟩
  | directory =>
    rw [hevolves.isDirectory hlinks hkind.2]
    cases later.isFile path with
    | true => exact ⟨.file, rfl⟩
    | false => exact ⟨.directory, rfl⟩

/-- A root is refused, and nothing is done: it is none, or the pool for it does not start. -/
inductive Refused (starts : Path → PoolStart) (fs : FileSystem) (path : Path) :
    FileSystem → DispatchError → Prop
  | lost
      {e : DispatchError}
      (hnone : classify fs path = .error e) :
      Refused starts fs path fs e
  | halted
      {fault : PoolFault}
      (hdir : fs.isDirectory path = true)
      (hstart : starts path = .error fault) :
      Refused starts fs path fs (.threadPool fault)

theorem refused_of_runs
    (hblank : path.isBlank = false)
    (hdir : fs.isDirectory path = true)
    (hpattern : checkPattern pattern = .ok ())
    (hruns : Runs (starts path) config parallelism fs path pattern recursive later (.error e)) :
    Refused starts fs path later e := by
  have hcheck : checkDirectory fs path = .ok () := by
    rw [checkDirectory, hblank, hdir]
    rfl
  cases hglob : compileGlob pattern with
  | error e =>
    rw [checkPattern, hglob] at hpattern
    cases hpattern
  | ok glob =>
    rcases hruns.unstarted_or_exists_results hcheck hglob with hunstarted | ⟨-, results, hok⟩
    · cases hunstarted with
      | mk hstart => exact .halted hdir hstart
    · cases hok

theorem refused_of_runsPath
    (hblank : path.isBlank = false)
    (hruns : RunsPath starts config parallelism fs path later (.error e)) :
    Refused starts fs path later e := by
  cases hruns with
  | refused hkind => exact .lost hkind
  | directory hkind hruns => exact refused_of_runs hblank (classify_eq_ok hkind).2.2 rfl hruns

theorem refused_of_runsTarget
    (hpattern : checkPattern pattern = .ok ())
    (hblank : path.isBlank = false)
    (hruns : RunsTarget starts config parallelism pattern recursive fs path later (.error e)) :
    Refused starts fs path later e := by
  cases hruns with
  | directory hdir hruns => exact refused_of_runs hblank hdir hpattern hruns
  | path _ hruns => exact refused_of_runsPath hblank hruns

/-! ## What an aborted call has done -/

/-- A root that was there at the start is not found any more, and a file has been published in the
place of a symbolic link. -/
structure CutOff (config : Config) (paths : List Path) (fs later : FileSystem) (e : DispatchError) :
    Prop where
  notInPlace : config.output ≠ .inPlace
  root : ∃ path ∈ paths, e = .notFound path ∧ (∃ kind, classify fs path = .ok kind) ∧
    classify later path = .error e
  link : ∃ location link content mode, fs.entry? location = some (.link link) ∧
    later.entry? location = some (.file content mode)

/-- The roots before a directory have been processed, and the pool for it does not start. -/
inductive HaltedAtPool (starts : Path → PoolStart)
    (process : FileSystem → Path → FileSystem → Except DispatchError (List FileResult) → Prop)
    (fs : FileSystem) (paths : List Path) (later : FileSystem) : DispatchError → Prop
  | mk
      {before rest : List Path} {path : Path} {results : List FileResult} {fault : PoolFault}
      (hpaths : paths = before ++ path :: rest)
      (hbefore : RunsEach process fs before later (.ok results))
      (hdir : later.isDirectory path = true)
      (hstart : starts path = .error fault) :
      HaltedAtPool starts process fs paths later (.threadPool fault)

/-- When a root is not recognised that was there at the start, it has been cut off. -/
theorem cutOff_of_evolves
    (hevolves : Evolves fs later)
    (hkeeps : config.output = .inPlace → KeepsLinks fs later)
    (hmem : path ∈ paths)
    (hstart : classify fs path = .ok kind)
    (hrefused : classify later path = .error e) :
    CutOff config paths fs later e := by
  have hlost : ¬KeepsLinks fs later := by
    intro hlinks
    obtain ⟨kind', hkind⟩ := exists_classify_of_evolves hevolves hlinks hstart
    rw [hrefused] at hkind
    cases hkind
  exact ⟨fun hinPlace => hlost (hkeeps hinPlace),
    ⟨path, hmem, eq_notFound_of_classify (classify_eq_ok hstart).1 hrefused, ⟨kind, hstart⟩, hrefused⟩,
    hevolves.exists_file_of_not_keepsLinks hlost⟩

theorem cutOff_or_haltedAtPool_of_runsEach
    {process : FileSystem → Path → FileSystem → Except DispatchError (List FileResult) → Prop}
    (hfs : AtRest fs)
    (hroots : checkRoots fs paths = .ok ())
    (hpassage : ∀ {fs path later results}, AtRest fs → process fs path later (.ok results) →
      Passage fs results later ∧ AtRest later)
    (hkeeps : config.output = .inPlace → ∀ {fs path later results}, AtRest fs →
      process fs path later (.ok results) → KeepsLinks fs later)
    (hrefused : ∀ {fs path later e}, path.isBlank = false → process fs path later (.error e) →
      Refused starts fs path later e)
    (h : RunsEach process fs paths later (.error e)) :
    CutOff config paths fs later e ∨ HaltedAtPool starts process fs paths later e := by
  obtain ⟨before, path, rest, middle, results, rfl, hbefore, hlast⟩ := h.exists_refused
  have hmem : path ∈ before ++ path :: rest := by simp
  obtain ⟨kind, hstart⟩ := exists_classify_of_checkRoots hroots hmem
  cases hrefused (classify_eq_ok hstart).1 hlast with
  | lost hnone =>
    exact Or.inl (cutOff_of_evolves (hbefore.passage hpassage hfs).1.evolves
      (fun hinPlace => hbefore.keepsLinks hpassage (hkeeps hinPlace) hfs) hmem hstart hnone)
  | halted hdir hunstarted => exact Or.inr (.mk rfl hbefore hdir hunstarted)

/-- Once the roots and the pattern have passed, a run is aborted for one of two reasons. -/
theorem cutOff_or_haltedAtPool_of_runsTarget
    (hfs : AtRest fs)
    (hroots : checkRoots fs paths = .ok ())
    (hpattern : checkPattern pattern = .ok ())
    (h : RunsEach (RunsTarget starts config parallelism pattern recursive) fs paths later
      (.error e)) :
    CutOff config paths fs later e ∨
      HaltedAtPool starts (RunsTarget starts config parallelism pattern recursive) fs paths later e :=
  cutOff_or_haltedAtPool_of_runsEach hfs hroots passage_of_runsTarget
    (fun hinPlace _ _ _ _ hfs => keepsLinks_of_runsTarget hfs hinPlace)
    (refused_of_runsTarget hpattern) h

/-- An aborted call has found a fault at the start and has left everything as it was, unless a root
has been cut off by a file that was published in the place of a symbolic link, or the pool for a directory
has not started after the roots before.  In place no root is cut off. -/
theorem unchanged_or_cutOff_of_error
    (hfs : AtRest fs)
    (starts : Path → PoolStart) (config : Config) (parallelism : Parallelism) (paths : List Path)
    (pattern : List Char) (recursive : Bool) :
    (RunsTargets starts config parallelism fs paths pattern recursive
        (runTargets starts config fs paths pattern recursive).1
        (runTargets starts config fs paths pattern recursive).2 ∧
      ∀ later e,
        RunsTargets starts config parallelism fs paths pattern recursive later (.error e) →
          later = fs ∧ (checkRoots fs paths = .error e ∨
            checkRoots fs paths = .ok () ∧ checkPattern pattern = .error e) ∨
          CutOff config paths fs later e ∨
          HaltedAtPool starts (RunsTarget starts config parallelism pattern recursive) fs paths later
            e) ∧
    RunsPaths starts config parallelism fs paths (processPaths starts config fs paths).1
        (processPaths starts config fs paths).2 ∧
      ∀ later e, RunsPaths starts config parallelism fs paths later (.error e) →
        later = fs ∧ checkRoots fs paths = .error e ∨ CutOff config paths fs later e ∨
          HaltedAtPool starts (RunsPath starts config parallelism) fs paths later e := by
  refine ⟨⟨runsTargets_runTargets starts config parallelism fs paths pattern recursive,
    fun later e h => ?_⟩, runsPaths_processPaths starts config parallelism fs paths,
    fun later e h => ?_⟩
  · cases h with
    | refused hroots => exact Or.inl ⟨rfl, Or.inl hroots⟩
    | badPattern hroots hpattern => exact Or.inl ⟨rfl, Or.inr ⟨hroots, hpattern⟩⟩
    | each hroots hpattern h =>
      exact Or.inr (cutOff_or_haltedAtPool_of_runsTarget hfs hroots hpattern h)
  · cases h with
    | refused hroots => exact Or.inl ⟨rfl, hroots⟩
    | each hroots h =>
      exact Or.inr (cutOff_or_haltedAtPool_of_runsEach hfs hroots passage_of_runsPath
        (fun hinPlace _ _ _ _ hfs => keepsLinks_of_runsPath hfs hinPlace) refused_of_runsPath h)

/-- A file `l`, and a directory `o` that holds a link `l` to the directory above. -/
def linkedTree : FileSystem :=
  ((withFile ['l'] (Utf8.encode ['a', '\n']) 0o644).put [['o']] .directory).put
    [['l'], ['o']] (.link ⟨['.', '.']⟩)

theorem atRest_linkedTree :
    AtRest linkedTree := by
  have hl : Path.IsName ['l'] := ⟨by decide, by decide, by decide⟩
  have ho : Path.IsName ['o'] := ⟨by decide, by decide, by decide⟩
  have hfile : (withFile ['l'] (Utf8.encode ['a', '\n']) 0o644).WellFormed :=
    wellFormed_withFile _ hl (by decide) (by decide) (by decide)
  have hdir : ((withFile ['l'] (Utf8.encode ['a', '\n']) 0o644).put [['o']] .directory).WellFormed :=
    hfile.put (by decide) (by decide) ho (by decide) (by decide) nofun
  exact ⟨hdir.put (by decide) (by decide) hl (by decide) (by decide) nofun,
    fun _ => Std.ExtTreeMap.getElem?_empty⟩

/-- Into `o`, the file `l` is published in the place of the link, and the second root lies behind the
link. -/
theorem runTargets_cuts_off_root :
    checkRoots linkedTree [⟨['l']⟩, ⟨['o', '/', 'l', '/', 'l']⟩] = .ok () ∧
      (runTargets (fun _ => .ok ()) ⟨[], .directory ⟨['o']⟩ .flat, .sequential, true⟩ linkedTree
        [⟨['l']⟩, ⟨['o', '/', 'l', '/', 'l']⟩] ['*'] true).2 =
          .error (.notFound ⟨['o', '/', 'l', '/', 'l']⟩) ∧
      FileSystem.entry? (runTargets (fun _ => .ok ())
        ⟨[], .directory ⟨['o']⟩ .flat, .sequential, true⟩ linkedTree
        [⟨['l']⟩, ⟨['o', '/', 'l', '/', 'l']⟩] ['*'] true).1 [['l'], ['o']] ≠
          linkedTree.entry? [['l'], ['o']] := by
  decide +kernel

theorem unchanged_or_cutOff_of_error_two_roots :
    AtRest linkedTree ∧ ∃ later e,
      runTargets (fun _ => .ok ()) ⟨[], .directory ⟨['o']⟩ .flat, .sequential, true⟩ linkedTree
          [⟨['l']⟩, ⟨['o', '/', 'l', '/', 'l']⟩] ['*'] true = (later, .error e) ∧
        CutOff ⟨[], .directory ⟨['o']⟩ .flat, .sequential, true⟩
          [⟨['l']⟩, ⟨['o', '/', 'l', '/', 'l']⟩] linkedTree later e := by
  have hroots : checkRoots linkedTree [⟨['l']⟩, ⟨['o', '/', 'l', '/', 'l']⟩] = .ok () := by
    decide +kernel
  have hpattern : checkPattern ['*'] = .ok () := rfl
  have herror : (runTargets (fun _ => .ok ()) ⟨[], .directory ⟨['o']⟩ .flat, .sequential, true⟩
      linkedTree [⟨['l']⟩, ⟨['o', '/', 'l', '/', 'l']⟩] ['*'] true).2 =
        .error (.notFound ⟨['o', '/', 'l', '/', 'l']⟩) := by
    decide +kernel
  obtain ⟨⟨hruns, herrors⟩, -⟩ := unchanged_or_cutOff_of_error atRest_linkedTree (fun _ => .ok ())
    ⟨[], .directory ⟨['o']⟩ .flat, .sequential, true⟩ .sequential
    [⟨['l']⟩, ⟨['o', '/', 'l', '/', 'l']⟩] ['*'] true
  rw [herror] at hruns
  refine ⟨atRest_linkedTree, _, _, Prod.ext rfl herror, ?_⟩
  rcases herrors _ _ hruns with ⟨-, hfault | ⟨-, hfault⟩⟩ | hcut | hhalted
  · rw [hroots] at hfault
    cases hfault
  · rw [hpattern] at hfault
    cases hfault
  · exact hcut
  · cases hhalted

/-- In place, too, a file has been rewritten when the pool for the directory after it does not start. -/
example :
    (let fs := (withFile ['a'] (Utf8.encode ['x', '\n']) 0o644).put [['d']] .directory
     let ran := runTargets (fun _ => .error ⟨['!']⟩) ⟨[⟨.delete, none, none⟩], .inPlace, .auto, true⟩ fs
       [⟨['a']⟩, ⟨['d']⟩] ['*'] true
     ran.2 = .error (.threadPool ⟨['!']⟩) ∧
      ran.1.lookup ⟨['a']⟩ = .ok ([['a']], .file [] 0o644)) := by
  decide +kernel

end Dispatch
end LineSieve
