import LineSieve.FileSystem.Basic
import LineSieve.Proofs.Path

/-!
# Where paths lead

`Walks fs location steps target links` says that the steps lead from one directory to another one
through directories, following that many symbolic links.  A path that ends in a name leads where the
name leads from the directory to which its other steps walk, and it takes the links of the walk out
of its allowance.  Everything about `FileSystem.resolve` that processing needs follows from this:
paths to directories, to entries and to vacant places, and what stays the same when a tree gains
entries.

`Follows` lists what can happen at the first step of a path that leads somewhere, so that facts about
such paths are proved step by step.
-/

namespace LineSieve
namespace FileSystem

/-! ## Entries -/

variable {fs : FileSystem}

theorem isDirectoryAt_iff
    (location : Location) :
    fs.isDirectoryAt location = true ↔ fs.entry? location = some .directory := by
  unfold isDirectoryAt
  cases h : fs.entry? location with
  | none => simp
  | some entry => cases entry <;> simp [Entry.isDirectory]

theorem isLink_eq_false_of_isFile
    {entry : Entry}
    (h : entry.isFile = true) :
    entry.isLink = false := by
  cases entry with
  | file content mode => rfl
  | _ => cases h

@[simp] theorem entry?_root : fs.entry? [] = some .directory := rfl

@[simp] theorem isDirectoryAt_root : fs.isDirectoryAt [] = true := rfl

/-! ## Following steps -/

/-- What happens at a name that is followed by more steps or ends a path. -/
theorem follow_name
    (followLast : Bool) (links : Nat) {location : Location} {name : List Char}
    {rest : List Component}
    (hdir : fs.isDirectoryAt location = true)
    (hlen : (Utf8.encode name).length ≤ nameLimit) :
    fs.follow followLast links location (.name name :: rest) =
      match fs.entry? (name :: location) with
      | none => if rest.isEmpty then .ok (.vacant (name :: location)) else .error .notFound
      | some (.link target) =>
        if rest.isEmpty && !followLast then .ok (.found (name :: location) (.link target))
        else
          match links with
          | 0 => .error .tooManyLinks
          | links + 1 => fs.follow followLast links location (target.steps ++ rest)
      | some _ => fs.follow followLast links (name :: location) rest := by
  have hopen : ¬(!fs.isDirectoryAt location) = true := by
    rw [hdir]
    exact Bool.false_ne_true
  cases links <;> exact (if_neg hopen).trans (if_neg (Nat.not_lt.2 hlen))

theorem follow_of_not_directory
    (followLast : Bool) (links : Nat) {location : Location} (step : Component)
    (rest : List Component)
    (hdir : fs.isDirectoryAt location = false) :
    fs.follow followLast links location (step :: rest) = .error .notADirectory := by
  cases links <;> simp [follow, takeSteps, hdir]

theorem follow_nil
    (followLast : Bool) (links : Nat) (location : Location) :
    fs.follow followLast links location [] =
      match fs.entry? location with
      | some entry => .ok (.found location entry)
      | none => .error .notFound := by
  cases links <;> rfl

theorem follow_root
    (followLast : Bool) (links : Nat) {location : Location} (rest : List Component)
    (hdir : fs.isDirectoryAt location = true) :
    fs.follow followLast links location (.root :: rest) = fs.follow followLast links [] rest := by
  cases links <;> simp [follow, takeSteps, hdir]

theorem follow_here
    (followLast : Bool) (links : Nat) {location : Location} (rest : List Component)
    (hdir : fs.isDirectoryAt location = true) :
    fs.follow followLast links location (.here :: rest) =
      fs.follow followLast links location rest := by
  cases links <;> simp [follow, takeSteps, hdir]

theorem follow_up
    (followLast : Bool) (links : Nat) {location : Location} (rest : List Component)
    (hdir : fs.isDirectoryAt location = true) :
    fs.follow followLast links location (.up :: rest) =
      fs.follow followLast links location.tail rest := by
  cases links <;> simp [follow, takeSteps, hdir]

theorem follow_long_name
    (followLast : Bool) (links : Nat) {location : Location} {name : List Char}
    (rest : List Component)
    (hdir : fs.isDirectoryAt location = true)
    (hlen : nameLimit < (Utf8.encode name).length) :
    fs.follow followLast links location (.name name :: rest) = .error .nameTooLong := by
  cases links <;> simp [follow, takeSteps, hdir, hlen]

/-! ## Walks through directories -/

/-- Steps lead from a location through directories to another location, following a number of links.
-/
inductive Walks (fs : FileSystem) : Location → List Component → Location → Nat → Prop
  | done (location : Location) :
      Walks fs location [] location 0
  | root
      {location target : Location} {rest : List Component} {links : Nat}
      (hdir : fs.isDirectoryAt location = true)
      (h : Walks fs [] rest target links) :
      Walks fs location (.root :: rest) target links
  | here
      {location target : Location} {rest : List Component} {links : Nat}
      (hdir : fs.isDirectoryAt location = true)
      (h : Walks fs location rest target links) :
      Walks fs location (.here :: rest) target links
  | up
      {location target : Location} {rest : List Component} {links : Nat}
      (hdir : fs.isDirectoryAt location = true)
      (h : Walks fs location.tail rest target links) :
      Walks fs location (.up :: rest) target links
  | enter
      {location target : Location} {rest : List Component} {links : Nat} {name : List Char}
      (hdir : fs.isDirectoryAt location = true)
      (hlen : (Utf8.encode name).length ≤ nameLimit)
      (hentry : fs.entry? (name :: location) = some .directory)
      (h : Walks fs (name :: location) rest target links) :
      Walks fs location (.name name :: rest) target links
  | jump
      {location target : Location} {rest : List Component} {links : Nat} {name : List Char}
      {path : Path}
      (hdir : fs.isDirectoryAt location = true)
      (hlen : (Utf8.encode name).length ≤ nameLimit)
      (hentry : fs.entry? (name :: location) = some (.link path))
      (h : Walks fs location (path.steps ++ rest) target links) :
      Walks fs location (.name name :: rest) target (links + 1)

namespace Walks

variable {location middle target : Location} {front back steps : List Component} {m n links : Nat}

theorem append
    (h₁ : Walks fs location front middle m)
    (h₂ : Walks fs middle back target n) :
    Walks fs location (front ++ back) target (m + n) := by
  induction h₁ with
  | done => simpa using h₂
  | root hdir _ ih => exact root hdir (ih h₂)
  | here hdir _ ih => exact here hdir (ih h₂)
  | up hdir _ ih => exact up hdir (ih h₂)
  | enter hdir hlen hentry _ ih => exact enter hdir hlen hentry (ih h₂)
  | jump hdir hlen hentry _ ih =>
    rw [Nat.add_right_comm]
    exact jump hdir hlen hentry (by simpa using ih h₂)

/-- A walk along steps in two parts stops in between. -/
theorem split
    (h : Walks fs location (front ++ back) target links) :
    ∃ middle m n, Walks fs location front middle m ∧ Walks fs middle back target n ∧
      links = m + n := by
  generalize hsteps : front ++ back = steps at h
  -- on the walk, since a link puts the steps of its target in front of the ones that are left
  induction h generalizing front with
  | done location =>
    obtain ⟨rfl, rfl⟩ := List.append_eq_nil_iff.1 hsteps
    exact ⟨location, 0, 0, done _, done _, rfl⟩
  | @root location target rest links hdir h ih =>
    rcases List.append_eq_cons_iff.1 hsteps with ⟨rfl, rfl⟩ | ⟨front, rfl, rfl⟩
    · exact ⟨location, 0, links, done _, root hdir h, (Nat.zero_add _).symm⟩
    · obtain ⟨middle, m, n, hm, hn, rfl⟩ := ih rfl
      exact ⟨middle, m, n, root hdir hm, hn, rfl⟩
  | @here location target rest links hdir h ih =>
    rcases List.append_eq_cons_iff.1 hsteps with ⟨rfl, rfl⟩ | ⟨front, rfl, rfl⟩
    · exact ⟨location, 0, links, done _, here hdir h, (Nat.zero_add _).symm⟩
    · obtain ⟨middle, m, n, hm, hn, rfl⟩ := ih rfl
      exact ⟨middle, m, n, here hdir hm, hn, rfl⟩
  | @up location target rest links hdir h ih =>
    rcases List.append_eq_cons_iff.1 hsteps with ⟨rfl, rfl⟩ | ⟨front, rfl, rfl⟩
    · exact ⟨location, 0, links, done _, up hdir h, (Nat.zero_add _).symm⟩
    · obtain ⟨middle, m, n, hm, hn, rfl⟩ := ih rfl
      exact ⟨middle, m, n, up hdir hm, hn, rfl⟩
  | @enter location target rest links name hdir hlen hentry h ih =>
    rcases List.append_eq_cons_iff.1 hsteps with ⟨rfl, rfl⟩ | ⟨front, rfl, rfl⟩
    · exact ⟨location, 0, links, done _, enter hdir hlen hentry h, (Nat.zero_add _).symm⟩
    · obtain ⟨middle, m, n, hm, hn, rfl⟩ := ih rfl
      exact ⟨middle, m, n, enter hdir hlen hentry hm, hn, rfl⟩
  | @jump location target rest links name path hdir hlen hentry h ih =>
    rcases List.append_eq_cons_iff.1 hsteps with ⟨rfl, rfl⟩ | ⟨front, rfl, rfl⟩
    · exact ⟨location, 0, links + 1, done _, jump hdir hlen hentry h, (Nat.zero_add _).symm⟩
    · obtain ⟨middle, m, n, hm, hn, rfl⟩ := ih (List.append_assoc _ _ _)
      exact ⟨middle, m + 1, n, jump hdir hlen hentry hm, hn, by omega⟩

theorem isDirectoryAt_start
    (h : Walks fs location steps target links)
    (hdir : fs.isDirectoryAt target = true) :
    fs.isDirectoryAt location = true := by
  cases h with
  | done => exact hdir
  | root h' => exact h'
  | here h' => exact h'
  | up h' => exact h'
  | enter h' => exact h'
  | jump h' => exact h'

/-- No name on a walk is too long. -/
theorem length_le_of_mem
    {name : List Char}
    (h : Walks fs location steps target links)
    (hmem : .name name ∈ steps) :
    (Utf8.encode name).length ≤ nameLimit := by
  induction h with
  | done => cases hmem
  | root _ _ ih => exact ih (List.mem_of_ne_of_mem (by simp) hmem)
  | here _ _ ih => exact ih (List.mem_of_ne_of_mem (by simp) hmem)
  | up _ _ ih => exact ih (List.mem_of_ne_of_mem (by simp) hmem)
  | enter _ hlen _ _ ih =>
    rcases List.mem_cons.1 hmem with heq | hrest
    · cases heq
      exact hlen
    · exact ih hrest
  | jump _ hlen _ _ ih =>
    rcases List.mem_cons.1 hmem with heq | hrest
    · cases heq
      exact hlen
    · exact ih (List.mem_append_right _ hrest)

/-- Steps that stay where they are do not matter on the way to a directory. -/
theorem filter_iff
    (hdir : fs.isDirectoryAt target = true) :
    Walks fs location (steps.filter (· ≠ .here)) target links ↔
      Walks fs location steps target links := by
  induction steps generalizing location links with
  | nil => exact Iff.rfl
  | cons step rest ih =>
    by_cases hstep : step = .here
    · subst hstep
      rw [List.filter_cons_of_neg (by simp)]
      constructor
      · intro h
        exact here (h.isDirectoryAt_start hdir) (ih.1 h)
      · intro h
        cases h with
        | here _ h => exact ih.2 h
    · rw [List.filter_cons_of_pos (by simpa using hstep)]
      constructor
      · intro h
        have hsplit : Walks fs location ([step] ++ _) target links := h
        obtain ⟨middle, m, n, hm, hn, rfl⟩ := hsplit.split
        exact append hm (ih.1 hn)
      · intro h
        have hsplit : Walks fs location ([step] ++ _) target links := h
        obtain ⟨middle, m, n, hm, hn, rfl⟩ := hsplit.split
        exact append hm (ih.2 hn)

/-- A walk needs directories and links to be there, and nothing to be absent. -/
theorem mono
    {later : FileSystem}
    (hkeep : ∀ l e, e.isFile = false → fs.entry? l = some e → later.entry? l = some e)
    (h : Walks fs location steps target links) :
    Walks later location steps target links := by
  have hdirectory : ∀ l, fs.isDirectoryAt l = true → later.isDirectoryAt l = true := by
    intro l hl
    rw [isDirectoryAt_iff] at hl ⊢
    exact hkeep l _ rfl hl
  induction h with
  | done => exact done _
  | root hdir _ ih => exact root (hdirectory _ hdir) ih
  | here hdir _ ih => exact here (hdirectory _ hdir) ih
  | up hdir _ ih => exact up (hdirectory _ hdir) ih
  | enter hdir hlen hentry _ ih =>
    exact enter (hdirectory _ hdir) hlen (hkeep _ _ rfl hentry) ih
  | jump hdir hlen hentry _ ih =>
    exact jump (hdirectory _ hdir) hlen (hkeep _ _ rfl hentry) ih

/-- Following steps goes on from where a walk along the first ones ends, unless these end at a link
that is not to be followed. -/
theorem follow_append
    {followLast : Bool} {allowed : Nat}
    (h : Walks fs location front target links)
    (hlinks : links ≤ allowed)
    (hgo : back ≠ [] ∨ followLast = true) :
    fs.follow followLast allowed location (front ++ back) =
      fs.follow followLast (allowed - links) target back := by
  induction h generalizing allowed with
  | done => rfl
  | root hdir _ ih => rw [List.cons_append, follow_root _ _ _ hdir, ih hlinks]
  | here hdir _ ih => rw [List.cons_append, follow_here _ _ _ hdir, ih hlinks]
  | up hdir _ ih => rw [List.cons_append, follow_up _ _ _ hdir, ih hlinks]
  | enter hdir hlen hentry _ ih =>
    rw [List.cons_append, follow_name _ _ hdir hlen, hentry]
    exact ih hlinks
  | @jump location target rest links name path hdir hlen hentry _ ih =>
    obtain ⟨allowed, rfl⟩ : ∃ k, allowed = k + 1 := ⟨allowed - 1, by omega⟩
    have hpass : ((rest ++ back).isEmpty && !followLast) = false := by
      rcases hgo with hback | rfl
      · simp [hback]
      · simp
    rw [List.cons_append, follow_name _ _ hdir hlen, hentry]
    simp only [hpass, Bool.false_eq_true, if_false]
    rw [← List.append_assoc, ih (by omega), Nat.add_sub_add_right]

end Walks

theorem isDirectoryAt_of_follow
    {followLast : Bool} {allowed : Nat} {location : Location} {step : Component}
    {rest : List Component} {resolved : Resolved}
    (h : fs.follow followLast allowed location (step :: rest) = .ok resolved) :
    fs.isDirectoryAt location = true := by
  by_contra hdir
  rw [follow_of_not_directory _ _ _ _ (by simpa using hdir)] at h
  cases h

/-- Following steps to anything walks along the first of them, and following them to a directory
along all of them. -/
theorem exists_walks_of_follow
    {followLast : Bool} {allowed : Nat} {location : Location} {front back : List Component}
    {resolved : Resolved}
    (hgo : back ≠ [] ∨ followLast = true ∧ ∃ target, resolved = .found target .directory)
    (h : fs.follow followLast allowed location (front ++ back) = .ok resolved) :
    ∃ target links, links ≤ allowed ∧ Walks fs location front target links ∧
      fs.isDirectoryAt target = true ∧
      fs.follow followLast (allowed - links) target back = .ok resolved := by
  -- on the links that are left, and for the same number of them on the steps
  induction allowed using Nat.strong_induction_on generalizing location front with
  | _ allowed ihlinks =>
    induction front generalizing location with
    | nil =>
      refine ⟨location, 0, Nat.zero_le _, .done _, ?_, h⟩
      cases back with
      | cons step rest => exact isDirectoryAt_of_follow h
      | nil =>
        obtain ⟨-, target, rfl⟩ := hgo.resolve_left (by simp)
        rw [List.append_nil, follow_nil] at h
        rw [isDirectoryAt_iff]
        cases hentry : fs.entry? location <;> rw [hentry] at h <;> cases h
        rfl
    | cons step front ih =>
      rw [List.cons_append] at h
      have hdir := isDirectoryAt_of_follow h
      cases step with
      | root =>
        rw [follow_root _ _ _ hdir] at h
        obtain ⟨target, links, hle, hwalks, hrest⟩ := ih h
        exact ⟨target, links, hle, .root hdir hwalks, hrest⟩
      | here =>
        rw [follow_here _ _ _ hdir] at h
        obtain ⟨target, links, hle, hwalks, hrest⟩ := ih h
        exact ⟨target, links, hle, .here hdir hwalks, hrest⟩
      | up =>
        rw [follow_up _ _ _ hdir] at h
        obtain ⟨target, links, hle, hwalks, hrest⟩ := ih h
        exact ⟨target, links, hle, .up hdir hwalks, hrest⟩
      | name name =>
        rcases Nat.lt_or_ge nameLimit (Utf8.encode name).length with hlen | hlen
        · rw [follow_long_name _ _ _ hdir hlen] at h
          cases h
        · have hpass : ((front ++ back).isEmpty && !followLast) = false := by
            rcases hgo with hback | ⟨rfl, -⟩
            · simp [hback]
            · simp
          rw [follow_name _ _ hdir hlen] at h
          cases hentry : fs.entry? (name :: location) with
          | none =>
            rw [hentry] at h
            rcases hgo with hback | ⟨-, target, rfl⟩
            · simp [hback] at h
            · simp only at h
              split_ifs at h
              cases h
          | some entry =>
            rw [hentry] at h
            cases entry with
            | directory =>
              obtain ⟨target, links, hle, hwalks, hrest⟩ := ih h
              exact ⟨target, links, hle, .enter hdir hlen hentry hwalks, hrest⟩
            | file content mode =>
              obtain ⟨target, links, hle, hwalks, hdir', hrest⟩ := ih h
              have hfile := hwalks.isDirectoryAt_start hdir'
              rw [isDirectoryAt_iff, hentry] at hfile
              cases hfile
            | link path =>
              simp only [hpass, Bool.false_eq_true, if_false] at h
              cases allowed with
              | zero => cases h
              | succ allowed =>
                rw [← List.append_assoc] at h
                obtain ⟨target, links, hle, hwalks, hdir', hrest⟩ :=
                  ihlinks allowed (Nat.lt_succ_self _) h
                refine ⟨target, links + 1, by omega, .jump hdir hlen hentry hwalks, hdir', ?_⟩
                rwa [Nat.add_sub_add_right]

/-! ## How steps are followed -/

/-- Steps lead from a location to an answer, with an allowance of links: one case for everything that
can happen at the first step. -/
inductive Follows (fs : FileSystem) (followLast : Bool) :
    Nat → Location → List Component → Resolved → Prop
  | done
      {allowed : Nat} {location : Location} {entry : Entry}
      (hentry : fs.entry? location = some entry) :
      Follows fs followLast allowed location [] (.found location entry)
  | root
      {allowed : Nat} {location : Location} {rest : List Component} {resolved : Resolved}
      (hdir : fs.isDirectoryAt location = true)
      (h : Follows fs followLast allowed [] rest resolved) :
      Follows fs followLast allowed location (.root :: rest) resolved
  | here
      {allowed : Nat} {location : Location} {rest : List Component} {resolved : Resolved}
      (hdir : fs.isDirectoryAt location = true)
      (h : Follows fs followLast allowed location rest resolved) :
      Follows fs followLast allowed location (.here :: rest) resolved
  | up
      {allowed : Nat} {location : Location} {rest : List Component} {resolved : Resolved}
      (hdir : fs.isDirectoryAt location = true)
      (h : Follows fs followLast allowed location.tail rest resolved) :
      Follows fs followLast allowed location (.up :: rest) resolved
  | vacant
      {allowed : Nat} {location : Location} {name : List Char}
      (hdir : fs.isDirectoryAt location = true)
      (hlen : (Utf8.encode name).length ≤ nameLimit)
      (hentry : fs.entry? (name :: location) = none) :
      Follows fs followLast allowed location [.name name] (.vacant (name :: location))
  | stop
      {allowed : Nat} {location : Location} {name : List Char} {path : Path}
      (hdir : fs.isDirectoryAt location = true)
      (hlen : (Utf8.encode name).length ≤ nameLimit)
      (hentry : fs.entry? (name :: location) = some (.link path))
      (hlast : followLast = false) :
      Follows fs followLast allowed location [.name name] (.found (name :: location) (.link path))
  | jump
      {allowed : Nat} {location : Location} {name : List Char} {rest : List Component} {path : Path}
      {resolved : Resolved}
      (hdir : fs.isDirectoryAt location = true)
      (hlen : (Utf8.encode name).length ≤ nameLimit)
      (hentry : fs.entry? (name :: location) = some (.link path))
      (hgo : (rest.isEmpty && !followLast) = false)
      (h : Follows fs followLast allowed location (path.steps ++ rest) resolved) :
      Follows fs followLast (allowed + 1) location (.name name :: rest) resolved
  | enter
      {allowed : Nat} {location : Location} {name : List Char} {rest : List Component}
      {entry : Entry} {resolved : Resolved}
      (hdir : fs.isDirectoryAt location = true)
      (hlen : (Utf8.encode name).length ≤ nameLimit)
      (hentry : fs.entry? (name :: location) = some entry)
      (hkind : entry.isLink = false)
      (h : Follows fs followLast allowed (name :: location) rest resolved) :
      Follows fs followLast allowed location (.name name :: rest) resolved

theorem follows_of_follow
    {followLast : Bool} {allowed : Nat} {location : Location} {steps : List Component}
    {resolved : Resolved}
    (h : fs.follow followLast allowed location steps = .ok resolved) :
    Follows fs followLast allowed location steps resolved := by
  -- on the links that are left, and for the same number of them on the steps
  induction allowed using Nat.strong_induction_on generalizing location steps with
  | _ allowed ihlinks =>
    induction steps generalizing location with
    | nil =>
      rw [follow_nil] at h
      cases hentry : fs.entry? location with
      | none => rw [hentry] at h; cases h
      | some entry => rw [hentry] at h; cases h; exact .done hentry
    | cons step rest ih =>
      have hdir := isDirectoryAt_of_follow h
      cases step with
      | root => rw [follow_root _ _ _ hdir] at h; exact .root hdir (ih h)
      | here => rw [follow_here _ _ _ hdir] at h; exact .here hdir (ih h)
      | up => rw [follow_up _ _ _ hdir] at h; exact .up hdir (ih h)
      | name name =>
        rcases Nat.lt_or_ge nameLimit (Utf8.encode name).length with hlen | hlen
        · rw [follow_long_name _ _ _ hdir hlen] at h
          cases h
        rw [follow_name _ _ hdir hlen] at h
        cases hentry : fs.entry? (name :: location) with
        | none =>
          rw [hentry] at h
          simp only at h
          split_ifs at h with hempty
          cases h
          rw [List.isEmpty_iff.1 hempty]
          exact .vacant hdir hlen hentry
        | some entry =>
          rw [hentry] at h
          cases entry with
          | directory => exact .enter hdir hlen hentry rfl (ih h)
          | file content mode => exact .enter hdir hlen hentry rfl (ih h)
          | link path =>
            simp only at h
            split_ifs at h with hstop
            · cases h
              rw [Bool.and_eq_true, List.isEmpty_iff, Bool.not_eq_true'] at hstop
              rw [hstop.1]
              exact .stop hdir hlen hentry hstop.2
            · cases allowed with
              | zero => cases h
              | succ allowed =>
                exact .jump hdir hlen hentry (by simpa using hstop)
                  (ihlinks allowed (Nat.lt_succ_self _) h)

theorem Follows.follow_eq
    {followLast : Bool} {allowed : Nat} {location : Location} {steps : List Component}
    {resolved : Resolved}
    (h : Follows fs followLast allowed location steps resolved) :
    fs.follow followLast allowed location steps = .ok resolved := by
  induction h with
  | done hentry => rw [follow_nil, hentry]
  | root hdir _ ih => rw [follow_root _ _ _ hdir, ih]
  | here hdir _ ih => rw [follow_here _ _ _ hdir, ih]
  | up hdir _ ih => rw [follow_up _ _ _ hdir, ih]
  | vacant hdir hlen hentry => rw [follow_name _ _ hdir hlen, hentry]; rfl
  | stop hdir hlen hentry hlast => rw [follow_name _ _ hdir hlen, hentry, hlast]; rfl
  | jump hdir hlen hentry hgo _ ih =>
    rw [follow_name _ _ hdir hlen, hentry]
    simp only [hgo, Bool.false_eq_true, if_false]
    exact ih
  | @enter allowed location name rest entry resolved hdir hlen hentry hkind _ ih =>
    rw [follow_name _ _ hdir hlen, hentry]
    cases entry with
    | link path => cases hkind
    | _ => exact ih

/-- What an answer says about the tree. -/
def Resolved.Holds (fs : FileSystem) : Resolved → Prop
  | .found location entry => fs.entry? location = some entry
  | .vacant location => fs.entry? location = none

theorem holds_of_follow
    {followLast : Bool} {allowed : Nat} {location : Location} {steps : List Component}
    {resolved : Resolved}
    (h : fs.follow followLast allowed location steps = .ok resolved) :
    resolved.Holds fs := by
  replace h := follows_of_follow h
  induction h with
  | done hentry => exact hentry
  | vacant hdir hlen hentry => exact hentry
  | stop hdir hlen hentry hlast => exact hentry
  | root hdir _ ih => exact ih
  | here hdir _ ih => exact ih
  | up hdir _ ih => exact ih
  | jump hdir hlen hentry hgo _ ih => exact ih
  | enter hdir hlen hentry hkind _ ih => exact ih

/-- Steps lead where they led before, as long as directories and links stay and files stay files. -/
theorem follow_found_of_kept
    {later : FileSystem}
    (hkeep : ∀ l e, e.isFile = false → fs.entry? l = some e → later.entry? l = some e)
    (hfile : ∀ l e, e.isFile = true → fs.entry? l = some e →
      ∃ e', later.entry? l = some e' ∧ e'.isFile = true)
    {followLast : Bool} {allowed : Nat} {location target : Location} {entry : Entry}
    {steps : List Component}
    (h : fs.follow followLast allowed location steps = .ok (.found target entry)) :
    ∃ entry', later.follow followLast allowed location steps = .ok (.found target entry') ∧
      entry'.isFile = entry.isFile := by
  have hdirectory : ∀ l, fs.isDirectoryAt l = true → later.isDirectoryAt l = true := by
    intro l hdir
    rw [isDirectoryAt_iff] at hdir ⊢
    exact hkeep _ _ rfl hdir
  -- an entry is kept, or it is a file and stays one
  have hheld : ∀ l e, fs.entry? l = some e →
      ∃ e', later.entry? l = some e' ∧ e'.isFile = e.isFile ∧ e'.isLink = e.isLink := by
    intro l e hentry
    cases hkind : e.isFile with
    | false => exact ⟨e, hkeep l e hkind hentry, hkind, rfl⟩
    | true =>
      obtain ⟨e', hentry', hkind'⟩ := hfile l e hkind hentry
      refine ⟨e', hentry', hkind', ?_⟩
      rw [isLink_eq_false_of_isFile hkind, isLink_eq_false_of_isFile hkind']
  replace h := follows_of_follow h
  generalize hresolved : Resolved.found target entry = resolved at h
  suffices hfollows : ∃ entry', Follows later followLast allowed location steps
      (.found target entry') ∧ entry'.isFile = entry.isFile by
    obtain ⟨entry', hfollows, hkind⟩ := hfollows
    exact ⟨entry', hfollows.follow_eq, hkind⟩
  induction h with
  | done hentry =>
    cases hresolved
    obtain ⟨entry', hentry', hkind, -⟩ := hheld _ _ hentry
    exact ⟨entry', .done hentry', hkind⟩
  | vacant => cases hresolved
  | stop hdir hlen hentry hlast =>
    cases hresolved
    exact ⟨_, .stop (hdirectory _ hdir) hlen (hkeep _ _ rfl hentry) hlast, rfl⟩
  | root hdir _ ih =>
    obtain ⟨entry', hfollows, hkind⟩ := ih hresolved
    exact ⟨entry', .root (hdirectory _ hdir) hfollows, hkind⟩
  | here hdir _ ih =>
    obtain ⟨entry', hfollows, hkind⟩ := ih hresolved
    exact ⟨entry', .here (hdirectory _ hdir) hfollows, hkind⟩
  | up hdir _ ih =>
    obtain ⟨entry', hfollows, hkind⟩ := ih hresolved
    exact ⟨entry', .up (hdirectory _ hdir) hfollows, hkind⟩
  | jump hdir hlen hentry hgo _ ih =>
    obtain ⟨entry', hfollows, hkind⟩ := ih hresolved
    exact ⟨entry', .jump (hdirectory _ hdir) hlen (hkeep _ _ rfl hentry) hgo hfollows, hkind⟩
  | enter hdir hlen hentry hlink _ ih =>
    obtain ⟨entry', hfollows, hkind⟩ := ih hresolved
    obtain ⟨held, hheld, -, hlink'⟩ := hheld _ _ hentry
    exact ⟨entry', .enter (hdirectory _ hdir) hlen hheld (hlink'.trans hlink) hfollows, hkind⟩

/-- What steps lead to is still there after entries have been added. -/
theorem follow_found_mono
    {later : FileSystem}
    (hkeep : ∀ l e, fs.entry? l = some e → later.entry? l = some e)
    {followLast : Bool} {allowed : Nat} {location target : Location} {entry : Entry}
    {steps : List Component}
    (h : fs.follow followLast allowed location steps = .ok (.found target entry)) :
    later.follow followLast allowed location steps = .ok (.found target entry) := by
  obtain ⟨entry', hfollow, -⟩ := follow_found_of_kept (fun l e _ => hkeep l e)
    (fun l e hkind he => ⟨e, hkeep l e he, hkind⟩) h
  have hentry' : later.entry? target = some entry' := holds_of_follow hfollow
  rw [hkeep target entry (holds_of_follow h)] at hentry'
  rw [hfollow, Option.some.inj hentry']

/-! ## The last name of a path -/

section LastName

variable {location : Location} {name : List Char}

theorem follow_single_vacant
    (followLast : Bool) (links : Nat)
    (hdir : fs.isDirectoryAt location = true)
    (hlen : (Utf8.encode name).length ≤ nameLimit)
    (hentry : fs.entry? (name :: location) = none) :
    fs.follow followLast links location [.name name] = .ok (.vacant (name :: location)) := by
  rw [follow_name _ _ hdir hlen, hentry]
  rfl

theorem follow_single_found
    {followLast : Bool} (links : Nat) {entry : Entry}
    (hdir : fs.isDirectoryAt location = true)
    (hlen : (Utf8.encode name).length ≤ nameLimit)
    (hentry : fs.entry? (name :: location) = some entry)
    (hstop : followLast = false ∨ entry.isLink = false) :
    fs.follow followLast links location [.name name] = .ok (.found (name :: location) entry) := by
  rw [follow_name _ _ hdir hlen, hentry]
  cases entry with
  | link target =>
    obtain rfl : followLast = false := hstop.resolve_right (by simp [Entry.isLink])
    rfl
  | file content mode => simp only [follow_nil, hentry]
  | directory => simp only [follow_nil, hentry]

/-- A name that is not followed leads to its own place. -/
theorem eq_of_follow_single
    {links : Nat} {resolved : Resolved}
    (h : fs.follow false links location [.name name] = .ok resolved) :
    (Utf8.encode name).length ≤ nameLimit ∧
      (fs.entry? (name :: location) = none ∧ resolved = .vacant (name :: location) ∨
        ∃ entry, fs.entry? (name :: location) = some entry ∧
          resolved = .found (name :: location) entry) := by
  have hdir := isDirectoryAt_of_follow h
  rcases Nat.lt_or_ge nameLimit (Utf8.encode name).length with hlen | hlen
  · rw [follow_long_name _ _ _ hdir hlen] at h
    cases h
  · refine ⟨hlen, ?_⟩
    cases hentry : fs.entry? (name :: location) with
    | none =>
      rw [follow_single_vacant _ _ hdir hlen hentry] at h
      cases h
      exact Or.inl ⟨rfl, rfl⟩
    | some entry =>
      rw [follow_single_found _ hdir hlen hentry (Or.inl rfl)] at h
      cases h
      exact Or.inr ⟨entry, rfl, rfl⟩

end LastName

/-! ## Paths -/

/-- A path that the system accepts. -/
structure Fits (path : Path) : Prop where
  no_nul : '\x00' ∉ path.text
  nonempty : path.text ≠ []
  length_le : (Utf8.encode path.text).length ≤ pathLimit

theorem Fits.of_prefix
    {parent path : Path}
    (h : Fits path)
    (hpre : parent.text <+: path.text)
    (hne : parent.text ≠ []) :
    Fits parent := by
  obtain ⟨rest, hrest⟩ := hpre
  refine ⟨?_, hne, ?_⟩
  · intro hmem
    exact h.no_nul (by simp [← hrest, hmem])
  · have hlen := h.length_le
    rw [← hrest, Utf8.encode_append, List.length_append] at hlen
    omega

theorem resolve_of_fits
    {path : Path}
    (followLast : Bool)
    (h : Fits path) :
    fs.resolve followLast path =
      fs.follow followLast linkLimit fs.workingDirectory path.steps := by
  have hnul : path.text.contains '\x00' = false := by simpa using h.no_nul
  have hempty : path.text.isEmpty = false := by simpa using h.nonempty
  rw [resolve, hnul, hempty, if_neg (by simp), if_neg (by simp),
    if_neg (Nat.not_lt.2 h.length_le)]

theorem fits_of_resolve
    {path : Path} {followLast : Bool} {resolved : Resolved}
    (h : fs.resolve followLast path = .ok resolved) :
    Fits path := by
  unfold resolve at h
  split_ifs at h with hnul hempty hlen
  exact ⟨by simpa using hnul, by simpa using hempty, Nat.not_lt.1 hlen⟩

/-- Why the system does not accept a path, whatever the tree is. -/
def refusal? (path : Path) : Option IoError :=
  if path.text.contains '\x00' then some .nulInPath
  else if path.text.isEmpty then some .notFound
  else if pathLimit < (Utf8.encode path.text).length then some .nameTooLong
  else none

theorem fits_of_refusal?_eq_none
    {path : Path}
    (h : refusal? path = none) :
    Fits path := by
  unfold refusal? at h
  split_ifs at h with hnul hempty hlen
  exact ⟨by simpa using hnul, by simpa using hempty, Nat.not_lt.1 hlen⟩

theorem refusal?_eq_none_of_fits
    {path : Path}
    (h : Fits path) :
    refusal? path = none := by
  have hnul : path.text.contains '\x00' = false := by simpa using h.no_nul
  have hempty : path.text.isEmpty = false := by simpa using h.nonempty
  rw [refusal?, hnul, hempty, if_neg (by simp), if_neg (by simp), if_neg (Nat.not_lt.2 h.length_le)]

theorem resolve_of_refusal?
    {path : Path} {e : IoError}
    (h : refusal? path = some e)
    (followLast : Bool) :
    fs.resolve followLast path = .error e := by
  unfold refusal? at h
  unfold resolve
  split_ifs at h ⊢ <;> cases h <;> rfl

theorem lookup_of_refusal?
    {path : Path} {e : IoError}
    (h : refusal? path = some e) :
    fs.lookup path = .error e := by
  rw [lookup, resolve_of_refusal? h]

theorem holds_of_resolve
    {path : Path} {followLast : Bool} {resolved : Resolved}
    (h : fs.resolve followLast path = .ok resolved) :
    resolved.Holds fs := by
  rw [resolve_of_fits _ (fits_of_resolve h)] at h
  exact holds_of_follow h

theorem lookup_eq_ok_iff
    {path : Path} {location : Location} {entry : Entry} :
    fs.lookup path = .ok (location, entry) ↔
      fs.resolve true path = .ok (.found location entry) := by
  unfold lookup
  constructor
  · intro h
    split at h <;> cases h
    assumption
  · intro h
    rw [h]

theorem lookupLink_eq_ok_iff
    {path : Path} {location : Location} {entry : Entry} :
    fs.lookupLink path = .ok (location, entry) ↔
      fs.resolve false path = .ok (.found location entry) := by
  unfold lookupLink
  constructor
  · intro h
    split at h <;> cases h
    assumption
  · intro h
    rw [h]

theorem lookup_mono
    {later : FileSystem}
    (hcwd : later.workingDirectory = fs.workingDirectory)
    (hkeep : ∀ l e, fs.entry? l = some e → later.entry? l = some e)
    {path : Path} {location : Location} {entry : Entry}
    (h : fs.lookup path = .ok (location, entry)) :
    later.lookup path = .ok (location, entry) := by
  rw [lookup_eq_ok_iff] at h ⊢
  have hfits := fits_of_resolve h
  rw [resolve_of_fits _ hfits] at h ⊢
  rw [hcwd]
  exact follow_found_mono hkeep h

/-- A path leads to a directory if its trail does. -/
theorem lookup_eq_directory_iff
    (path : Path) (location : Location) :
    fs.lookup path = .ok (location, .directory) ↔
      Fits path ∧ fs.isDirectoryAt location = true ∧
        ∃ links ≤ linkLimit, Walks fs fs.workingDirectory path.trail location links := by
  constructor
  · intro h
    have hresolve := lookup_eq_ok_iff.1 h
    have hfits := fits_of_resolve hresolve
    rw [resolve_of_fits true hfits, ← List.append_nil path.steps] at hresolve
    obtain ⟨target, links, hle, hwalks, hdir, hrest⟩ :=
      exists_walks_of_follow (Or.inr ⟨rfl, location, rfl⟩) hresolve
    rw [follow_nil, (isDirectoryAt_iff target).1 hdir] at hrest
    cases hrest
    exact ⟨hfits, hdir, links, hle, (Walks.filter_iff hdir).2 hwalks⟩
  · rintro ⟨hfits, hdir, links, hle, hwalks⟩
    have hsteps := (Walks.filter_iff hdir).1 hwalks
    have hfollow : fs.follow true linkLimit fs.workingDirectory (path.steps ++ []) = _ :=
      hsteps.follow_append hle (Or.inr rfl)
    rw [List.append_nil, follow_nil, (isDirectoryAt_iff location).1 hdir] at hfollow
    rw [lookup, resolve_of_fits true hfits, hfollow]

/-- A path points at a name in a directory: its last step is the name, and its other steps walk to
the directory. -/
structure Points (fs : FileSystem) (path : Path) (name : List Char) (directory : Location) :
    Prop where
  last : path.steps.getLast? = some (.name name)
  length_le : (Utf8.encode name).length ≤ nameLimit
  isDirectoryAt : fs.isDirectoryAt directory = true
  walks : ∃ front links, path.trail = front ++ [.name name] ∧ links ≤ linkLimit ∧
    Walks fs fs.workingDirectory front directory links

/-- A path that the system accepts and that points at a name locates it. -/
structure Locates (fs : FileSystem) (path : Path) (name : List Char) (directory : Location) : Prop
    extends Points fs path name directory where
  fits : Fits path

theorem Points.mono
    {later : FileSystem} {path : Path} {name : List Char} {directory : Location}
    (h : Points fs path name directory)
    (hcwd : later.workingDirectory = fs.workingDirectory)
    (hkeep : ∀ l e, e.isFile = false → fs.entry? l = some e → later.entry? l = some e) :
    Points later path name directory := by
  obtain ⟨front, links, htrail, hle, hwalks⟩ := h.walks
  refine ⟨h.last, h.length_le, ?_, front, links, htrail, hle, ?_⟩
  · have hdir := h.isDirectoryAt
    rw [isDirectoryAt_iff] at hdir ⊢
    exact hkeep _ _ rfl hdir
  · rw [hcwd]
    exact hwalks.mono hkeep

/-- The steps of a path that ends in a name are those of its trail and some that stay where they
are. -/
theorem exists_steps_of_trail
    {path : Path} {name : List Char} {front : List Component}
    (hlast : path.steps.getLast? = some (.name name))
    (htrail : path.trail = front ++ [.name name]) :
    ∃ init, path.steps = init ++ [.name name] ∧ init.filter (· ≠ .here) = front := by
  obtain ⟨init, hinit⟩ := List.getLast?_eq_some_iff.1 hlast
  refine ⟨init, hinit, ?_⟩
  rw [Path.trail, hinit, List.filter_append] at htrail
  simpa using htrail

namespace Locates

variable {path : Path} {name : List Char} {directory : Location}

/-- Where the path leads is decided by the name in the directory. -/
theorem exists_resolve_eq
    (h : Locates fs path name directory) :
    ∃ links, ∀ followLast, fs.resolve followLast path =
      fs.follow followLast links directory [.name name] := by
  obtain ⟨front, links, htrail, hle, hwalks⟩ := h.walks
  obtain ⟨init, hinit, rfl⟩ := exists_steps_of_trail h.last htrail
  refine ⟨linkLimit - links, fun followLast => ?_⟩
  rw [Walks.filter_iff h.isDirectoryAt] at hwalks
  rw [resolve_of_fits _ h.fits, hinit, hwalks.follow_append hle (Or.inl (by simp))]

theorem resolve_vacant
    (h : Locates fs path name directory)
    (followLast : Bool)
    (hentry : fs.entry? (name :: directory) = none) :
    fs.resolve followLast path = .ok (.vacant (name :: directory)) := by
  obtain ⟨links, hresolve⟩ := h.exists_resolve_eq
  rw [hresolve, follow_single_vacant _ _ h.isDirectoryAt h.length_le hentry]

theorem resolve_found
    (h : Locates fs path name directory)
    {followLast : Bool} {entry : Entry}
    (hentry : fs.entry? (name :: directory) = some entry)
    (hstop : followLast = false ∨ entry.isLink = false) :
    fs.resolve followLast path = .ok (.found (name :: directory) entry) := by
  obtain ⟨links, hresolve⟩ := h.exists_resolve_eq
  rw [hresolve, follow_single_found _ h.isDirectoryAt h.length_le hentry hstop]

theorem lookup_eq
    (h : Locates fs path name directory)
    {entry : Entry}
    (hentry : fs.entry? (name :: directory) = some entry)
    (hlink : entry.isLink = false) :
    fs.lookup path = .ok (name :: directory, entry) := by
  rw [lookup, h.resolve_found hentry (Or.inr hlink)]

theorem mono
    {later : FileSystem}
    (h : Locates fs path name directory)
    (hcwd : later.workingDirectory = fs.workingDirectory)
    (hkeep : ∀ l e, e.isFile = false → fs.entry? l = some e → later.entry? l = some e) :
    Locates later path name directory := ⟨h.toPoints.mono hcwd hkeep, h.fits⟩

end Locates

/-- A path that ends in a name and leads somewhere, without following that name, locates it. -/
theorem exists_locates_of_resolve
    {path : Path} {name : List Char} {resolved : Resolved}
    (hlast : path.steps.getLast? = some (.name name))
    (h : fs.resolve false path = .ok resolved) :
    ∃ directory, Locates fs path name directory ∧
      (fs.entry? (name :: directory) = none ∧ resolved = .vacant (name :: directory) ∨
        ∃ entry, fs.entry? (name :: directory) = some entry ∧
          resolved = .found (name :: directory) entry) := by
  have hfits := fits_of_resolve h
  obtain ⟨init, hinit⟩ := List.getLast?_eq_some_iff.1 hlast
  rw [resolve_of_fits _ hfits, hinit] at h
  obtain ⟨directory, links, hle, hwalks, hdir, hrest⟩ :=
    exists_walks_of_follow (Or.inl (by simp)) h
  obtain ⟨hlen, hresolved⟩ := eq_of_follow_single hrest
  refine ⟨directory, ⟨⟨hlast, hlen, hdir, init.filter (· ≠ .here), links, ?_, hle, ?_⟩, hfits⟩,
    hresolved⟩
  · rw [Path.trail, hinit, List.filter_append]
    rfl
  · rwa [Walks.filter_iff hdir]

/-! ## Answers -/

/-- What the system says about a path: it refuses the path, or it says what there is. -/
def answer {α : Type} (path : Path) (there : α) : Except IoError α :=
  match refusal? path with
  | some e => .error e
  | none => .ok there

theorem answer_of_refusal?
    {α : Type} {path : Path} {e : IoError} {there : α}
    (h : refusal? path = some e) :
    answer path there = .error e := by
  rw [answer, h]

theorem answer_of_fits
    {α : Type} {path : Path} {there : α}
    (h : Fits path) :
    answer path there = .ok there := by
  rw [answer, refusal?_eq_none_of_fits h]

theorem answer_eq_ok
    {α : Type} {path : Path} {there found : α}
    (h : answer path there = .ok found) :
    Fits path ∧ found = there := by
  unfold answer at h
  cases hrefusal : refusal? path <;> rw [hrefusal] at h <;> cases h
  exact ⟨fits_of_refusal?_eq_none hrefusal, rfl⟩

theorem answer_eq_error
    {α : Type} {path : Path} {there : α} {e : IoError}
    (h : answer path there = .error e) :
    refusal? path = some e := by
  unfold answer at h
  cases hrefusal : refusal? path <;> rw [hrefusal] at h <;> cases h
  rfl

@[simp] theorem map_answer
    {α β : Type} (f : α → β) (path : Path) (there : α) :
    (answer path there).map f = answer path (f there) := by
  unfold answer
  cases refusal? path <;> rfl

namespace Points

variable {path : Path} {name : List Char} {directory : Location}

theorem resolve_eq
    {entry : Entry}
    (h : Points fs path name directory)
    (hentry : fs.entry? (name :: directory) = some entry)
    {followLast : Bool}
    (hstop : followLast = false ∨ entry.isLink = false) :
    fs.resolve followLast path = answer path (.found (name :: directory) entry) := by
  cases hrefusal : refusal? path with
  | some e => rw [answer_of_refusal? hrefusal, resolve_of_refusal? hrefusal followLast]
  | none =>
    have hfits := fits_of_refusal?_eq_none hrefusal
    rw [answer_of_fits hfits]
    exact (Locates.mk h hfits).resolve_found hentry hstop

theorem lookup_eq
    {entry : Entry}
    (h : Points fs path name directory)
    (hentry : fs.entry? (name :: directory) = some entry)
    (hlink : entry.isLink = false) :
    fs.lookup path = answer path (name :: directory, entry) := by
  rw [lookup, h.resolve_eq hentry (Or.inr hlink), answer, answer]
  cases refusal? path <;> rfl

theorem contentOf_eq
    {content : List UInt8} {mode : Nat}
    (h : Points fs path name directory)
    (hentry : fs.entry? (name :: directory) = some (.file content mode)) :
    fs.contentOf path = answer path content := by
  rw [contentOf, h.lookup_eq hentry rfl, answer, answer]
  cases refusal? path <;> rfl

theorem modeOf_eq
    {content : List UInt8} {mode : Nat}
    (h : Points fs path name directory)
    (hentry : fs.entry? (name :: directory) = some (.file content mode)) :
    fs.modeOf path = answer path mode := by
  rw [modeOf, h.lookup_eq hentry rfl, answer, answer]
  cases refusal? path <;> rfl

end Points

end FileSystem
end LineSieve
