import LineSieve.Dispatch
import LineSieve.Proofs.FileTree
import LineSieve.Proofs.PathOrder

/-!
# The files that a walk finds

Each of them is a regular file below the root, its path points at it, and different files have
different paths, also by their components.  The path of a file inside an output directory is the one
that it has below the root, with the output directory in place of the root.
-/

namespace LineSieve

open FileSystem

namespace Walk

/-- Names that entries can have, and that the system accepts. -/
def Proper (names : List (List Char)) : Prop := ∀ name ∈ names, Path.IsName name

theorem Proper.cons
    {name : List Char} {names : List (List Char)} :
    Proper (name :: names) ↔ Path.IsName name ∧ Proper names := List.forall_mem_cons

@[simp] theorem pathBelow_cons
    (root : Path) (name : List Char) (names : List (List Char)) :
    pathBelow root (name :: names) = (pathBelow root names).join ⟨name⟩ := rfl

theorem trail_pathBelow
    {root : Path} {names : List (List Char)}
    (hnames : Proper names) :
    (pathBelow root names).trail = root.trail ++ names.reverse.map .name := by
  induction names with
  | nil => simp [pathBelow]
  | cons name names ih =>
    obtain ⟨hname, hnames⟩ := Proper.cons.1 hnames
    rw [pathBelow_cons, (Path.trail_join_name _ hname).1, ih hnames]
    simp

theorem components_pathBelow
    {root : Path} {names : List (List Char)}
    (hnames : Proper names) :
    (pathBelow root names).components = root.components ++ names.reverse.map .name := by
  induction names with
  | nil => simp [pathBelow]
  | cons name names ih =>
    obtain ⟨hname, hnames⟩ := Proper.cons.1 hnames
    rw [pathBelow_cons, Path.components_join_name _ hname, ih hnames]
    simp

/-- The part of a path below the root is made of the names. -/
theorem relativeTo?_pathBelow
    (root : Path) {names : List (List Char)}
    (hnames : Proper names) :
    (pathBelow root names).relativeTo? root =
      some (Path.ofComponents (names.reverse.map .name)) := by
  rw [Path.relativeTo?, components_pathBelow hnames,
    List.isPrefixOf_iff_prefix.2 (List.prefix_append _ _), if_pos rfl, List.drop_left]

theorem prefix_pathBelow
    {root : Path} {names : List (List Char)}
    (hnames : Proper names) :
    root.text <+: (pathBelow root names).text := by
  induction names with
  | nil => exact List.prefix_rfl
  | cons name names ih =>
    obtain ⟨hname, hnames⟩ := Proper.cons.1 hnames
    obtain ⟨gap, htext, -⟩ := Path.join_name_text (pathBelow root names) hname
    rw [pathBelow_cons, htext, List.append_assoc]
    exact (ih hnames).trans (List.prefix_append _ _)

/-- The text of names between slashes. -/
theorem ofComponents_cons
    {name : List Char} {names : List (List Char)}
    (hne : names ≠ []) :
    Path.ofComponents ((name :: names).reverse.map .name) =
      ⟨(Path.ofComponents (names.reverse.map .name)).text ++ '/' :: name⟩ := by
  obtain ⟨first, others, hreverse⟩ :=
    List.exists_cons_of_ne_nil (List.reverse_ne_nil_iff.2 hne)
  simp [hreverse, Path.ofComponents, Path.ofSegments, Component.text]

theorem ofComponents_singleton
    (name : List Char) :
    Path.ofComponents (([name] : List (List Char)).reverse.map .name) = ⟨name⟩ := by
  simp [Path.ofComponents, Path.ofSegments, Component.text]

theorem isInner_ofComponents
    {names : List (List Char)}
    (hnames : Proper names)
    (hne : names ≠ []) :
    Path.IsInner (Path.ofComponents (names.reverse.map .name)).text := by
  induction names with
  | nil => exact absurd rfl hne
  | cons name above ih =>
    obtain ⟨hname, habove⟩ := Proper.cons.1 hnames
    by_cases hmore : above = []
    · rw [hmore, ofComponents_singleton]
      exact hname.isInner
    · rw [ofComponents_cons hmore]
      exact (ih habove hmore).append hname.isInner

/-- Joining a path is joining its names one after the other. -/
theorem join_ofComponents
    (out : Path) {names : List (List Char)}
    (hnames : Proper names)
    (hne : names ≠ []) :
    out.join (Path.ofComponents (names.reverse.map .name)) = pathBelow out names := by
  induction names with
  | nil => exact absurd rfl hne
  | cons name above ih =>
    obtain ⟨hname, habove⟩ := Proper.cons.1 hnames
    by_cases hmore : above = []
    · rw [hmore, ofComponents_singleton]
      rfl
    · rw [ofComponents_cons hmore, Path.join_append_name out (isInner_ofComponents habove hmore) hname,
        pathBelow_cons, ← ih habove hmore]

/-- The path of a file decides its names. -/
theorem pathBelow_injective
    {root : Path} {names names' : List (List Char)}
    (hnames : Proper names)
    (hnames' : Proper names')
    (h : (pathBelow root names).components = (pathBelow root names').components) :
    names = names' := by
  rw [components_pathBelow hnames, components_pathBelow hnames'] at h
  have hmap := List.append_cancel_left h
  have hname : Function.Injective Component.name := fun a b => Component.name.inj
  exact List.reverse_injective (List.map_injective_iff.2 hname hmap)

end Walk

variable {fs : FileSystem}

/-- Entries below a location have proper names. -/
theorem FileSystem.WellFormed.proper
    (hfs : fs.WellFormed)
    {names : List (List Char)} {location : Location}
    (h : fs.entry? (names ++ location) ≠ none) :
    Walk.Proper names := by
  induction names with
  | nil => intro name hmem; cases hmem
  | cons name names ih =>
    have hdir := hfs.parent name (names ++ location) h
    rw [isDirectoryAt_iff] at hdir
    exact Walk.Proper.cons.2 ⟨hfs.isName name (names ++ location) h, ih (by simp [hdir])⟩

/-- The names down to a directory walk there, without links. -/
theorem FileSystem.WellFormed.walks
    (hfs : fs.WellFormed)
    {names : List (List Char)} {location : Location}
    (h : fs.isDirectoryAt (names ++ location) = true) :
    Walks fs location (names.reverse.map .name) (names ++ location) 0 := by
  induction names with
  | nil => exact .done location
  | cons name names ih =>
    have hentry : fs.entry? (name :: (names ++ location)) = some .directory :=
      (isDirectoryAt_iff _).1 h
    have hsome : fs.entry? (name :: (names ++ location)) ≠ none := by simp [hentry]
    have hparent := hfs.parent name (names ++ location) hsome
    rw [List.reverse_cons, List.map_append, List.map_singleton]
    exact (ih hparent).append
      (.enter hparent (hfs.length_le name (names ++ location) hsome) hentry (.done _))

namespace Walk

/-- A file that a walk has found, by its names below the root, innermost first. -/
structure IsFound (fs : FileSystem) (root : Path) (rootLocation : Location) (path : Path)
    (name : List Char) (above : List (List Char)) (content : List UInt8) (mode : Nat) : Prop where
  path_eq : path = pathBelow root (name :: above)
  entry? : fs.entry? (name :: above ++ rootLocation) = some (.file content mode)

theorem namesBelow?_eq_some
    {root location : Location} {names : List (List Char)}
    (h : namesBelow? root location = some names) :
    location = names ++ root ∧ names ≠ [] := by
  unfold namesBelow? at h
  simp only at h
  split_ifs at h with hbelow
  obtain ⟨hpos, hdrop⟩ := hbelow
  cases h
  refine ⟨?_, ?_⟩
  · conv_lhs => rw [← List.take_append_drop (location.length - root.length) location, hdrop]
  · intro hnil
    have hlen := congrArg List.length hnil
    rw [List.length_take, List.length_nil] at hlen
    omega

theorem isFound_of_found?
    {root : Path} {rootLocation : Location} {recursive : Bool} {item : Location × Entry} {f : Found}
    (hmem : item ∈ fs.entries.toList)
    (h : found? fs root rootLocation recursive item = some f) :
    ∃ name above content mode, IsFound fs root rootLocation f.path name above content mode ∧
      item.1 = name :: above ++ rootLocation := by
  unfold found? at h
  split at h
  next name above content mode hnames hentry =>
    split_ifs at h
    cases h
    obtain ⟨hlocation, -⟩ := namesBelow?_eq_some hnames
    refine ⟨name, above, content, mode, ⟨rfl, ?_⟩, hlocation⟩
    have hget := Std.ExtTreeMap.mem_toList_iff_getElem?_eq_some.1
      (show (item.1, item.2) ∈ fs.entries.toList from hmem)
    rw [hlocation, hentry] at hget
    exact hget
  next => cases h

/-- Every path of a walk is that of a file below the root. -/
theorem exists_isFound
    {root : Path} {rootLocation : Location} {glob : Glob} {recursive : Bool} {path : Path}
    (hroot : fs.lookup root = .ok (rootLocation, .directory))
    (h : path ∈ matching fs root glob recursive) :
    ∃ name above content mode, IsFound fs root rootLocation path name above content mode := by
  obtain ⟨f, hf, rfl⟩ := List.mem_map.1 h
  have hfiles := (List.mem_filter.1 hf).1
  unfold files at hfiles
  split_ifs at hfiles
  · cases hfiles
  rw [hroot] at hfiles
  obtain ⟨item, hitem, hfound⟩ :=
    List.mem_filterMap.1 ((List.mergeSort_perm _ _).mem_iff.1 hfiles)
  obtain ⟨name, above, content, mode, hisFound, -⟩ := isFound_of_found? hitem hfound
  exact ⟨name, above, content, mode, hisFound⟩

namespace IsFound

variable {root path : Path} {rootLocation : Location} {name : List Char}
  {above : List (List Char)} {content : List UInt8} {mode : Nat}

theorem proper
    (hfs : fs.WellFormed)
    (h : IsFound fs root rootLocation path name above content mode) :
    Proper (name :: above) :=
  hfs.proper (show fs.entry? (name :: above ++ rootLocation) ≠ none by rw [h.entry?]; simp)

theorem isDirectoryAt
    (hfs : fs.WellFormed)
    (h : IsFound fs root rootLocation path name above content mode) :
    fs.isDirectoryAt (above ++ rootLocation) = true :=
  hfs.parent name (above ++ rootLocation) (by rw [← List.cons_append, h.entry?]; simp)

/-- The path of a file points at it. -/
theorem points
    (hfs : fs.WellFormed)
    (hroot : fs.lookup root = .ok (rootLocation, .directory))
    (h : IsFound fs root rootLocation path name above content mode) :
    Points fs path name (above ++ rootLocation) := by
  obtain ⟨hname, habove⟩ := Proper.cons.1 (h.proper hfs)
  obtain ⟨-, hdir, links, hle, hwalks⟩ := (lookup_eq_directory_iff root rootLocation).1 hroot
  have hsome : fs.entry? (name :: (above ++ rootLocation)) ≠ none := by
    rw [← List.cons_append, h.entry?]
    simp
  have hbelow := h.isDirectoryAt hfs
  obtain ⟨htrail, hlast⟩ := Path.trail_join_name (pathBelow root above) hname
  rw [← pathBelow_cons, ← h.path_eq] at htrail hlast
  refine ⟨hlast, hfs.length_le _ _ hsome, hbelow, root.trail ++ above.reverse.map .name, links + 0,
    ?_, hle, hwalks.append (hfs.walks hbelow)⟩
  rw [htrail, trail_pathBelow habove]

/-- Different files have different paths, also by their components. -/
theorem names_eq
    (hfs : fs.WellFormed)
    {path' : Path} {name' : List Char} {above' : List (List Char)} {content' : List UInt8}
    {mode' : Nat}
    (h : IsFound fs root rootLocation path name above content mode)
    (h' : IsFound fs root rootLocation path' name' above' content' mode')
    (heq : path.components = path'.components) :
    name :: above = name' :: above' := by
  rw [h.path_eq, h'.path_eq] at heq
  exact pathBelow_injective (h.proper hfs) (h'.proper hfs) heq

end IsFound

/-- A walk lists no path twice, not even by its components. -/
theorem pairwise_files
    (hfs : fs.WellFormed)
    (root : Path) (recursive : Bool) :
    (files fs root recursive).Pairwise fun a b => a.path.components ≠ b.path.components := by
  unfold files
  split_ifs
  · exact .nil
  cases hroot : fs.lookup root with
  | error e => exact .nil
  | ok found =>
    rcases found with ⟨rootLocation, entry⟩
    cases entry with
    | directory =>
      refine (List.mergeSort_perm _ _).symm.pairwise ?_ fun hne => hne.symm
      rw [List.pairwise_filterMap]
      refine Std.ExtTreeMap.distinct_keys_toList.imp_of_mem ?_
      intro a b ha hb hne f hf g hg heq
      obtain ⟨_, _, _, _, hfound, hlocation⟩ := isFound_of_found? ha hf
      obtain ⟨_, _, _, _, hfound', hlocation'⟩ := isFound_of_found? hb hg
      have hnames := hfound.names_eq hfs hfound' heq
      rw [Std.LawfulEqCmp.compare_eq_iff_eq] at hne
      exact hne (by rw [hlocation, hlocation', hnames])
    | _ => exact .nil

theorem pairwise_matching
    (hfs : fs.WellFormed)
    (root : Path) (glob : Glob) (recursive : Bool) :
    (matching fs root glob recursive).Pairwise fun a b => a.components ≠ b.components := by
  rw [matching, List.pairwise_map]
  exact (pairwise_files hfs root recursive).sublist List.filter_sublist

theorem eq_of_components_eq
    (hfs : fs.WellFormed)
    {root : Path} {glob : Glob} {recursive : Bool} {a b : Path}
    (ha : a ∈ matching fs root glob recursive)
    (hb : b ∈ matching fs root glob recursive)
    (heq : a.components = b.components) :
    a = b := by
  by_contra hne
  have hsymm : Std.Symm fun a b : Path => a.components ≠ b.components := ⟨fun _ _ h => h.symm⟩
  exact (pairwise_matching hfs root glob recursive).forall ha hb hne heq

theorem nodup_matching
    (hfs : fs.WellFormed)
    (root : Path) (glob : Glob) (recursive : Bool) :
    (matching fs root glob recursive).Nodup := by
  refine (pairwise_matching hfs root glob recursive).imp ?_
  rintro a b hne rfl
  exact hne rfl

/-- A walk lists the files in the order of their paths. -/
theorem sorted_matching
    (fs : FileSystem) (root : Path) (glob : Glob) (recursive : Bool) :
    (matching fs root glob recursive).Pairwise fun a b => a.before b = true := by
  rw [matching, List.pairwise_map]
  refine List.Pairwise.sublist List.filter_sublist ?_
  unfold files
  split_ifs
  · exact .nil
  split
  · apply List.pairwise_mergeSort
    · intro a b c
      exact Path.before_trans
    · intro a b
      exact Path.before_total a.path b.path
  · exact .nil

end Walk
end LineSieve
