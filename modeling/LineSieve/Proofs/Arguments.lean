import LineSieve.Run
import Mathlib.Data.List.ReduceOption
import Mathlib.Tactic

/-!
# Command lines in full

What a command line asks for can be spelled out: first every option that is not left out, by its full
name and with its value attached behind an equals sign, then `--`, then the paths.  A value spelled in
this way may hold any characters, and so may a path, even if it reads like an option.

Each of these options is a `Setting`, and reading one does nothing but fill its field.  No two of them
fill the same field, so they can stand in any order.  `parse_arguments` says that what is spelled out is
read as it was meant and is what a run is started with, unless both a run in place and an output
directory are asked for.
-/

namespace LineSieve
namespace CommandLine

/-! ## Values -/

theorem readPath_text
    {path : Path}
    (h : path.text ≠ []) :
    readPath path.text = .ok path := by
  rw [readPath, List.isEmpty_eq_false_iff.2 h]
  rfl

theorem mapM_readPath_text
    {paths : List Path}
    (h : ∀ path ∈ paths, path.text ≠ []) :
    (paths.map (·.text)).mapM readPath = .ok paths := by
  induction paths with
  | nil => rfl
  | cons path rest ih =>
    rw [List.forall_mem_cons] at h
    rw [List.map_cons, List.mapM_cons, readPath_text h.1, ih h.2]
    rfl

theorem readNumber_toDigits
    {n : Nat}
    (h : n < threadLimit) :
    readNumber (Nat.toDigits 10 n) = .ok n := by
  have hne : Nat.toDigits 10 n ≠ [] := Nat.toDigits_ne_nil
  have hdigits : ∀ c ∈ Nat.toDigits 10 n, c.isDigit = true :=
    fun c => Nat.isDigit_of_mem_toDigits (by decide) (by decide)
  have hvalue : (Nat.toDigits 10 n).foldl (fun n c => n * 10 + (c.toNat - '0'.toNat)) 0 = n := by
    simp only [Nat.mul_comm _ 10]
    exact Nat.ofDigitChars_toDigits (by decide) (by decide)
  generalize Nat.toDigits 10 n = digits at hne hdigits hvalue ⊢
  have hsign : ∀ rest, digits ≠ '+' :: rest := by
    rintro rest rfl
    exact absurd (hdigits '+' List.mem_cons_self) (by decide)
  have hall : digits.all Char.isDigit = true := List.all_eq_true.2 hdigits
  unfold readNumber
  split
  next rest => exact absurd rfl (hsign rest)
  next =>
    simp only [hvalue, List.isEmpty_eq_false_iff.2 hne, hall]
    exact if_neg (by simpa using h)

theorem readName_layout
    (layout : Layout) :
    readName Layout.ofName? layout.name.toList = .ok layout := by
  cases layout <;> decide

theorem readName_format
    (format : ReportFormat) :
    readName ReportFormat.ofName? format.name.toList = .ok format := by
  cases format <;> decide

/-! ## Settings -/

/-- An option of a run, with its value. -/
inductive Setting
  | rulesFile (path : Path)
  | inPlace
  | outputDirectory (path : Path)
  | layout (layout : Layout)
  | threads (n : Nat)
  | pattern (text : List Char)
  | noRecursion
  | format (format : ReportFormat)
  | quiet
  | verbose
  deriving Repr, DecidableEq

/-- The name that stands in front of a value. -/
def ValueOption.name : ValueOption → String
  | .rulesFile => "config"
  | .outputDirectory => "output-dir"
  | .layout => "layout"
  | .threads => "threads"
  | .pattern => "pattern"
  | .format => "format"

def Switch.name : Switch → String
  | .inPlace => "in-place"
  | .noRecursion => "no-recursive"
  | .quiet => "quiet"

def ValueOption.argument (option : ValueOption) (value : List Char) : List Char :=
  '-' :: '-' :: (option.name.toList ++ '=' :: value)

def Switch.argument (switch : Switch) : List Char := '-' :: '-' :: switch.name.toList

namespace Setting

/-- A setting as an argument. -/
def argument : Setting → List Char
  | .rulesFile path => ValueOption.rulesFile.argument path.text
  | .inPlace => Switch.inPlace.argument
  | .outputDirectory path => ValueOption.outputDirectory.argument path.text
  | .layout value => ValueOption.layout.argument value.name.toList
  | .threads n => ValueOption.threads.argument (Nat.toDigits 10 n)
  | .pattern text => ValueOption.pattern.argument text
  | .noRecursion => Switch.noRecursion.argument
  | .format value => ValueOption.format.argument value.name.toList
  | .quiet => Switch.quiet.argument
  | .verbose => ['-', 'v']

/-- The option that a setting gives. -/
def kind : Setting → OptionKind
  | .rulesFile _ => .value .rulesFile
  | .inPlace => .switch .inPlace
  | .outputDirectory _ => .value .outputDirectory
  | .layout _ => .value .layout
  | .threads _ => .value .threads
  | .pattern _ => .value .pattern
  | .noRecursion => .switch .noRecursion
  | .format _ => .value .format
  | .quiet => .switch .quiet
  | .verbose => .verbose

/-- Two settings do not give the same option, unless it may be repeated. -/
def Apart (s t : Setting) : Prop := s.kind = t.kind → s.kind = .verbose

/-- The value of a setting can be written on a command line. -/
def Expressible : Setting → Prop
  | .rulesFile path => path.text ≠ []
  | .outputDirectory path => path.text ≠ []
  | .threads n => n < threadLimit
  | _ => True

theorem kind_eq_verbose
    {s : Setting}
    (h : s.kind = .verbose) :
    s = .verbose := by
  cases s <;> first | rfl | cases h

theorem Apart.symm
    {s t : Setting}
    (h : Apart s t) :
    Apart t s := by
  intro hkind
  rw [hkind]
  exact h hkind.symm

end Setting

namespace Reading

/-- What has been read when a setting has been read as well. -/
def set (r : Reading) : Setting → Reading
  | .rulesFile path => { r with rulesFile := some path }
  | .inPlace => { r with inPlace := true }
  | .outputDirectory path => { r with outputDirectory := some path }
  | .layout layout => { r with layout := some layout }
  | .threads n => { r with threads := some n }
  | .pattern text => { r with pattern := some text }
  | .noRecursion => { r with noRecursion := true }
  | .format format => { r with format := some format }
  | .quiet => { r with quiet := true }
  | .verbose => { r with verbose := min (r.verbose + 1) verboseLimit }

/-- The option that a setting gives has not been read, unless it may be repeated. -/
def Lacks (r : Reading) : Setting → Prop
  | .rulesFile _ => r.rulesFile = none
  | .inPlace => r.inPlace = false
  | .outputDirectory _ => r.outputDirectory = none
  | .layout _ => r.layout = none
  | .threads _ => r.threads = none
  | .pattern _ => r.pattern = none
  | .noRecursion => r.noRecursion = false
  | .format _ => r.format = none
  | .quiet => r.quiet = false
  | .verbose => True

variable {r : Reading} {s t : Setting} {settings settings' : List Setting}

theorem pending_set
    (r : Reading) (s : Setting) :
    (r.set s).pending = r.pending ∧ (r.set s).paths = r.paths := by
  cases s <;> exact ⟨rfl, rfl⟩

theorem pending_foldl_set
    (r : Reading) (settings : List Setting) :
    (settings.foldl set r).pending = r.pending ∧ (settings.foldl set r).paths = r.paths := by
  induction settings generalizing r with
  | nil => exact ⟨rfl, rfl⟩
  | cons s settings ih =>
    obtain ⟨hpending, hpaths⟩ := pending_set r s
    rw [List.foldl_cons, (ih _).1, (ih _).2]
    exact ⟨hpending, hpaths⟩

theorem lacks_start
    (s : Setting) :
    start.Lacks s := by
  cases s <;> trivial

theorem Lacks.set
    (h : r.Lacks s)
    (hapart : s.Apart t) :
    (r.set t).Lacks s := by
  by_cases hkind : s.kind = t.kind
  · rw [Setting.kind_eq_verbose (hapart hkind)]
    trivial
  · -- another option fills another field
    cases s <;> cases t <;> first | exact h | exact absurd rfl hkind

theorem set_right_comm
    (r : Reading)
    (hapart : s.Apart t) :
    (r.set s).set t = (r.set t).set s := by
  by_cases hkind : s.kind = t.kind
  · have hverbose := hapart hkind
    rw [Setting.kind_eq_verbose hverbose, Setting.kind_eq_verbose (hkind.symm.trans hverbose)]
  · cases s <;> cases t <;> first | rfl | exact absurd rfl hkind

/-- Settings of different options can be read in any order. -/
theorem foldl_set_perm
    (hperm : settings.Perm settings')
    (hapart : settings.Pairwise Setting.Apart)
    (r : Reading) :
    settings.foldl set r = settings'.foldl set r := by
  refine hperm.foldl_eq' (fun s hs t ht r => ?_) r
  by_cases heq : s = t
  · rw [heq]
  · have : Std.Symm Setting.Apart := ⟨fun _ _ => Setting.Apart.symm⟩
    exact set_right_comm r (hapart.forall hs ht heq)

/-! ## Arguments -/

section Arguments

variable (hpending : r.pending = .nothing)

theorem takeLong_append
    {level : Level} {option : ValueOption} {name : List Char}
    (hname : '=' ∉ name)
    (hoption : longOption? level name = some (.value option))
    (r : Reading) (value : List Char) :
    r.takeLong level (name ++ '=' :: value) = r.takeValue option value := by
  have hother : ∀ c ∈ name, (c != '=') = true := by
    intro c hc
    rw [bne_iff_ne]
    rintro rfl
    exact hname hc
  rw [takeLong, List.takeWhile_append_of_pos hother, List.dropWhile_append_of_pos hother]
  simp [hoption]

theorem readRun_long
    {text : List Char}
    (hne : text ≠ [])
    (r : Reading) (rest : List (List Char)) :
    r.readRun (('-' :: '-' :: text) :: rest) = r.takeLong .run text >>= (·.readRun rest) := by
  cases text with
  | nil => exact absurd rfl hne
  | cons c text => rw [readRun]; simp

include hpending in
theorem settle_of_nothing :
    r.settle = .ok r := by
  rw [settle, hpending]

include hpending in
theorem readRun_value
    (option : ValueOption) (value : List Char) (rest : List (List Char)) :
    r.readRun (option.argument value :: rest) = r.store option value >>= (·.readRun rest) := by
  have hname : '=' ∉ option.name.toList ∧
      longOption? .run option.name.toList = some (.value option) := by
    cases option <;> decide
  rw [ValueOption.argument, readRun_long (by simp), takeLong_append hname.1 hname.2, takeValue,
    settle_of_nothing hpending]
  rfl

include hpending in
theorem readRun_switch
    (switch : Switch) (rest : List (List Char)) :
    r.readRun (switch.argument :: rest) = r.turnOn switch >>= (·.readRun rest) := by
  have htake : r.takeLong .run switch.name.toList = r.takeOption (.switch switch) := by
    cases switch <;> rfl
  rw [Switch.argument, readRun_long (by cases switch <;> decide), htake, takeOption,
    settle_of_nothing hpending]
  rfl

theorem once_eq_ok
    {α : Type} {earlier : Option α} {read : List Char → Except UsageError α} {text : List Char}
    {value : α}
    (hearlier : earlier = none)
    (hread : read text = .ok value) :
    once earlier read text = .ok (some value) := by
  subst hearlier
  simp only [once, hread]
  rfl

include hpending in
/-- Reading a setting fills its field. -/
theorem readRun_setting
    (hlacks : r.Lacks s)
    (hs : s.Expressible)
    (rest : List (List Char)) :
    r.readRun (s.argument :: rest) = (r.set s).readRun rest := by
  cases s with
  | rulesFile path =>
    rw [Setting.argument, readRun_value hpending, store, once_eq_ok hlacks (readPath_text hs)]
    rfl
  | outputDirectory path =>
    rw [Setting.argument, readRun_value hpending, store, once_eq_ok hlacks (readPath_text hs)]
    rfl
  | layout layout =>
    rw [Setting.argument, readRun_value hpending, store, once_eq_ok hlacks (readName_layout layout)]
    rfl
  | threads n =>
    rw [Setting.argument, readRun_value hpending, store, once_eq_ok hlacks (readNumber_toDigits hs)]
    rfl
  | pattern text =>
    rw [Setting.argument, readRun_value hpending, store, once_eq_ok hlacks rfl]
    rfl
  | format format =>
    rw [Setting.argument, readRun_value hpending, store, once_eq_ok hlacks (readName_format format)]
    rfl
  | inPlace =>
    have hoff : r.inPlace = false := hlacks
    rw [Setting.argument, readRun_switch hpending, turnOn, hoff]
    rfl
  | noRecursion =>
    have hoff : r.noRecursion = false := hlacks
    rw [Setting.argument, readRun_switch hpending, turnOn, hoff]
    rfl
  | quiet =>
    have hoff : r.quiet = false := hlacks
    rw [Setting.argument, readRun_switch hpending, turnOn, hoff]
    rfl
  | verbose =>
    have htake : r.takeShort .run ['v'] = r.takeOption .verbose >>= .ok := rfl
    rw [Setting.argument, readRun, htake, takeOption, settle_of_nothing hpending]
    · rfl
    · simp
    · simp

include hpending in
/-- Reading settings fills their fields, one after the other. -/
theorem readRun_settings_append
    (hlacks : ∀ s ∈ settings, r.Lacks s)
    (hsettings : ∀ s ∈ settings, s.Expressible)
    (hapart : settings.Pairwise Setting.Apart)
    (rest : List (List Char)) :
    r.readRun (settings.map Setting.argument ++ rest) = (settings.foldl set r).readRun rest := by
  induction settings generalizing r with
  | nil => rfl
  | cons s settings ih =>
    rw [List.forall_mem_cons] at hlacks hsettings
    rw [List.pairwise_cons] at hapart
    rw [List.map_cons, List.cons_append, readRun_setting hpending hlacks.1 hsettings.1,
      List.foldl_cons]
    refine ih ((pending_set r s).1.trans hpending) (fun t ht => ?_) hsettings.2 hapart.2
    exact (hlacks.2 t ht).set (hapart.1 t ht).symm

theorem foldlM_takePath
    (r : Reading) (seen texts : List (List Char)) :
    texts.foldlM takePath { r with pending := .paths seen } =
      .ok { r with pending := .paths (seen ++ texts) } := by
  induction texts generalizing seen with
  | nil => rw [List.append_nil]; rfl
  | cons text rest ih =>
    rw [List.append_cons]
    exact ih (seen ++ [text])

include hpending in
/-- After the terminator every argument is read as a path. -/
theorem readRun_paths
    {paths : List Path}
    (hpaths : ∀ path ∈ paths, path.text ≠ []) :
    r.readRun (['-', '-'] :: paths.map (·.text)) = .ok { r with paths := r.paths ++ paths } := by
  have hread := mapM_readPath_text hpaths
  rw [readRun]
  cases paths with
  | nil =>
    rw [List.append_nil]
    exact settle_of_nothing hpending
  | cons path rest =>
    have hfirst : r.takePath path.text = .ok { r with pending := .paths [path.text] } := by
      rw [takePath, hpending]
      simp only [settle_of_nothing hpending]
      rfl
    rw [List.map_cons] at hread ⊢
    rw [List.foldlM_cons, hfirst]
    simp only [bind, Except.bind, foldlM_takePath, settle, List.cons_append, List.nil_append, hread]
    rw [← hpending]
    rfl

end Arguments
end Reading

/-! ## Command lines -/

/-- What a command line asks for once at most, option by option.  There always are a rules file and a
format, and another option that is left out is no setting. -/
def singleSettings (command : CommandLine) : List Setting :=
  [some (.rulesFile command.rulesFile), some (.format command.format),
    if command.overrides.inPlace then some .inPlace else none,
    command.overrides.outputDirectory.map .outputDirectory, command.overrides.layout.map .layout,
    command.overrides.threads.map .threads, command.overrides.pattern.map .pattern,
    if command.overrides.noRecursion then some .noRecursion else none,
    if command.quiet then some .quiet else none].reduceOption

/-- What a command line asks for. -/
def settings (command : CommandLine) : List Setting :=
  command.singleSettings ++ List.replicate command.verbosity .verbose

/-- The arguments that start a run with settings and paths. -/
def arguments (settings : List Setting) (paths : List Path) : List (List Char) :=
  runCommand :: (settings.map Setting.argument ++ ['-', '-'] :: paths.map (·.text))

/-- What has been read when the settings have been read. -/
def reading (command : CommandLine) : Reading :=
  ⟨command.verbosity, command.quiet, command.overrides.inPlace, command.overrides.noRecursion,
    some command.rulesFile, command.overrides.outputDirectory, command.overrides.layout,
    command.overrides.threads, command.overrides.pattern, some command.format, [], .nothing⟩

/-- There are paths, and the values can be written. -/
structure Expressible (command : CommandLine) : Prop where
  paths_ne_nil : command.paths ≠ []
  path_text_ne_nil : ∀ path ∈ command.paths, path.text ≠ []
  rulesFile_ne_nil : command.rulesFile.text ≠ []
  outputDirectory_ne_nil : ∀ path ∈ command.overrides.outputDirectory, path.text ≠ []
  threads_lt : ∀ n ∈ command.overrides.threads, n < threadLimit
  verbosity_le : command.verbosity ≤ Reading.verboseLimit

variable {command : CommandLine} {settings : List Setting}

theorem Expressible.setting
    (h : command.Expressible) :
    ∀ s ∈ command.settings, s.Expressible := by
  rw [CommandLine.settings, List.forall_mem_append]
  refine ⟨fun s hs => ?_, fun s hs => ?_⟩
  · rw [singleSettings, List.reduceOption_mem_iff] at hs
    cases s with
    | rulesFile path =>
      have hpath : path = command.rulesFile := by simpa using hs
      exact hpath ▸ h.rulesFile_ne_nil
    | outputDirectory path => exact h.outputDirectory_ne_nil path (by simpa using hs)
    | threads n => exact h.threads_lt n (by simpa using hs)
    | _ => trivial
  · rw [List.eq_of_mem_replicate hs]
    trivial

theorem pairwise_apart_settings
    (command : CommandLine) :
    command.settings.Pairwise Setting.Apart := by
  rw [CommandLine.settings, List.pairwise_append]
  refine ⟨?_, List.pairwise_replicate.2 (Or.inr fun _ => rfl), fun s _ t ht hkind => ?_⟩
  · -- any two of them give different options
    rw [singleSettings, List.reduceOption, List.pairwise_filterMap]
    simp [Setting.Apart, Setting.kind]
  · rw [hkind, List.eq_of_mem_replicate ht]
    rfl

theorem foldl_set_singleSettings
    (command : CommandLine) :
    command.singleSettings.foldl Reading.set .start = { command.reading with verbose := 0 } := by
  obtain ⟨verbosity, quiet, paths, rulesFile,
    ⟨inPlace, outputDirectory, layout, threads, pattern, noRecursion⟩, format⟩ := command
  -- each of the options is either left out, and its field stays empty, or fills it
  cases inPlace <;> cases outputDirectory <;> cases layout <;> cases threads <;> cases pattern <;>
    cases noRecursion <;> cases quiet <;> rfl

theorem Reading.foldl_set_replicate
    {r : Reading} {n : Nat}
    (h : r.verbose + n ≤ verboseLimit) :
    (List.replicate n Setting.verbose).foldl Reading.set r = { r with verbose := r.verbose + n } := by
  induction n generalizing r with
  | zero => rfl
  | succ n ih =>
    have hset : r.set .verbose = { r with verbose := r.verbose + 1 } := by
      rw [Reading.set, Nat.min_eq_left (by omega)]
    rw [List.replicate_succ, List.foldl_cons, hset, ih (by dsimp only; omega)]
    simp only [Nat.add_assoc, Nat.add_comm 1]

theorem foldl_set_settings
    (h : command.Expressible) :
    command.settings.foldl Reading.set .start = command.reading := by
  have hverbose : 0 + command.verbosity ≤ Reading.verboseLimit := by simpa using h.verbosity_le
  rw [CommandLine.settings, List.foldl_append, foldl_set_singleSettings,
    Reading.foldl_set_replicate hverbose]
  simp only [Nat.zero_add]
  rfl

theorem inPlace_mem_settings
    (h : .inPlace ∈ command.settings) :
    command.overrides.inPlace = true := by
  simpa [CommandLine.settings, singleSettings, List.reduceOption_mem_iff] using h

theorem outputDirectory_mem_settings
    {path : Path}
    (h : .outputDirectory path ∈ command.settings) :
    command.overrides.outputDirectory = some path := by
  simpa [CommandLine.settings, singleSettings, List.reduceOption_mem_iff] using h

theorem commandLine_reading
    (command : CommandLine) :
    Reading.start.commandLine { command.reading with paths := command.paths } = command := by
  obtain ⟨verbosity, quiet, paths, rulesFile, overrides, format⟩ := command
  by_cases hzero : verbosity = 0 <;> simp [Reading.commandLine, reading, Reading.start, hzero]

/-! ### Runs -/

theorem readFrom_run
    (before : Reading) (rest : List (List Char)) :
    readFrom before (runCommand :: rest) =
      Reading.start.readRun rest >>= fun run => run.check >>= fun _ => .ok (before.commandLine run) :=
  rfl

/-- Settings that give different options are read as what they fill, and then checked. -/
theorem parse_arguments_eq
    {paths : List Path}
    (hsettings : ∀ s ∈ settings, s.Expressible)
    (hapart : settings.Pairwise Setting.Apart)
    (hpaths : ∀ path ∈ paths, path.text ≠ []) :
    parse (arguments settings paths) =
      Reading.check { settings.foldl Reading.set .start with paths } >>= fun _ =>
        .ok (Reading.start.commandLine { settings.foldl Reading.set .start with paths }) := by
  obtain ⟨hpending, hnone⟩ := Reading.pending_foldl_set .start settings
  rw [arguments, parse, readFrom_run, Reading.readRun_settings_append rfl
    (fun s _ => Reading.lacks_start s) hsettings hapart, Reading.readRun_paths hpending hpaths, hnone]
  rfl

/-- A run in place and an output directory are not both asked for. -/
def Exclusive (command : CommandLine) : Prop :=
  command.overrides.inPlace = true → command.overrides.outputDirectory = none

/-- A setting is the other one of a run in place and an output directory. -/
def Opposes (command : CommandLine) : Setting → Prop
  | .inPlace => command.overrides.outputDirectory ≠ none
  | .outputDirectory path => command.overrides.inPlace = true ∧ path.text ≠ []
  | _ => False

namespace Opposes

variable {other : Setting} (h : command.Opposes other)

include h

theorem expressible :
    other.Expressible := by
  cases other with
  | inPlace => trivial
  | outputDirectory path => exact h.2
  | _ => exact h.elim

theorem apart
    (hexclusive : command.Exclusive) :
    ∀ s ∈ command.settings, other.Apart s := by
  intro s hs hkind
  cases other with
  | inPlace =>
    cases s <;> cases hkind
    exact absurd (hexclusive (inPlace_mem_settings hs)) h
  | outputDirectory path =>
    cases s <;> cases hkind
    exact absurd (outputDirectory_mem_settings hs) (by simp [hexclusive h.1])
  | _ => exact h.elim

/-- Both have been read when both are asked for. -/
theorem check_set :
    Reading.check { command.reading.set other with paths := command.paths } = .error .conflict := by
  cases other with
  | inPlace =>
    have hsome : command.overrides.outputDirectory.isSome = true := Option.isSome_iff_ne_none.2 h
    simp [Reading.check, Reading.set, reading, hsome]
  | outputDirectory path => simp [Reading.check, Reading.set, reading, h.1]
  | _ => exact h.elim

end Opposes

theorem parse_settings
    (hcommand : command.Expressible)
    (hexclusive : command.Exclusive)
    (hsettings : settings.Perm command.settings) :
    parse (arguments settings command.paths) = .ok command := by
  have hapart : settings.Pairwise Setting.Apart :=
    (pairwise_apart_settings command).perm hsettings.symm fun hst => hst.symm
  have hcheck : Reading.check { command.reading with paths := command.paths } = .ok () := by
    simpa [Reading.check, reading, hcommand.paths_ne_nil, Exclusive] using hexclusive
  rw [parse_arguments_eq (fun s hs => hcommand.setting s (hsettings.mem_iff.1 hs)) hapart
    hcommand.path_text_ne_nil, Reading.foldl_set_perm hsettings hapart, foldl_set_settings hcommand,
    hcheck, commandLine_reading]
  rfl

theorem parse_opposing_settings
    {other : Setting}
    (hcommand : command.Expressible)
    (hexclusive : command.Exclusive)
    (hother : command.Opposes other)
    (hsettings : settings.Perm (other :: command.settings)) :
    parse (arguments settings command.paths) = .error .conflict := by
  -- wherever the other one stands, it may as well be read last
  have hlast : settings.Perm (command.settings ++ [other]) :=
    hsettings.trans (List.perm_append_singleton other _).symm
  have hapart : settings.Pairwise Setting.Apart :=
    (List.pairwise_cons.2 ⟨hother.apart hexclusive, pairwise_apart_settings command⟩).perm
      hsettings.symm fun hst => hst.symm
  have hexpressible : ∀ s ∈ settings, s.Expressible := by
    intro s hs
    rcases List.mem_cons.1 (hsettings.mem_iff.1 hs) with rfl | hs
    · exact hother.expressible
    · exact hcommand.setting s hs
  rw [parse_arguments_eq hexpressible hapart hcommand.path_text_ne_nil,
    Reading.foldl_set_perm hlast hapart, List.foldl_append, foldl_set_settings hcommand,
    List.foldl_cons, List.foldl_nil, hother.check_set]
  rfl

/-- What is spelled out, in any order, is read as it was meant, and a run is started with it.  If
the other one of a run in place and an output directory is added anywhere, that is a conflict. -/
theorem parse_arguments
    (hcommand : command.Expressible)
    (hexclusive : command.Exclusive)
    (startPool : Nat → Path → PoolStart) :
    (∀ settings : List Setting, settings.Perm command.settings →
      parse (arguments settings command.paths) = .ok command ∧
      ∀ fs, run startPool fs (arguments settings command.paths) =
        match RunPlan.load fs command.rulesFile command.overrides with
        | .error e => (fs, .failed (.load e))
        | .ok plan =>
          match Dispatch.runTargets (startPool plan.config.parallelism.numThreads) plan.config fs
            command.paths plan.pattern plan.recursive with
          | (fs, .ok results) => (fs, .reported command.format results)
          | (fs, .error e) => (fs, .failed (.dispatch e))) ∧
    ∀ (other : Setting) (settings : List Setting), command.Opposes other →
      settings.Perm (other :: command.settings) →
      parse (arguments settings command.paths) = .error .conflict ∧
      ∀ fs, run startPool fs (arguments settings command.paths) =
        (fs, .notStarted .conflict) := by
  refine ⟨fun settings hsettings => ?_, fun other settings hother hsettings => ?_⟩
  · have hparse := parse_settings hcommand hexclusive hsettings
    refine ⟨hparse, fun fs => ?_⟩
    rw [run, hparse]
    simp only [process]
    cases RunPlan.load fs command.rulesFile command.overrides with
    | error e => rfl
    | ok plan =>
      simp only
      generalize Dispatch.runTargets (startPool plan.config.parallelism.numThreads) plan.config fs
        command.paths plan.pattern plan.recursive = ran
      obtain ⟨after, results | e⟩ := ran <;> rfl
  · have hparse := parse_opposing_settings hcommand hexclusive hother hsettings
    refine ⟨hparse, fun fs => ?_⟩
    rw [run, hparse]

theorem parse_arguments_hyphens :
    Expressible ⟨2, false, [.ofString "-", .ofString "--in-place"], .ofString "-c",
        ⟨false, some (.ofString "--"), none, some 12, some "-p=*".toList, true⟩, .json⟩ ∧
      parse (["run", "-v", "--pattern=-p=*", "--threads=12", "--no-recursive", "--config=-c", "-v",
          "--output-dir=--", "--format=json", "--", "-", "--in-place"].map String.toList) =
        .ok ⟨2, false, [.ofString "-", .ofString "--in-place"], .ofString "-c",
          ⟨false, some (.ofString "--"), none, some 12, some "-p=*".toList, true⟩, .json⟩ ∧
      parse (["run", "--in-place", "-v", "--pattern=-p=*", "--threads=12", "--no-recursive",
          "--config=-c", "-v", "--output-dir=--", "--format=json", "--", "-",
          "--in-place"].map String.toList) =
        .error .conflict := by
  have hcommand : Expressible ⟨2, false, [.ofString "-", .ofString "--in-place"], .ofString "-c",
      ⟨false, some (.ofString "--"), none, some 12, some "-p=*".toList, true⟩, .json⟩ :=
    ⟨by decide, by decide, by decide, by decide, by decide, by decide⟩
  have hperm : [.verbose, .pattern "-p=*".toList, .threads 12, .noRecursion,
      .rulesFile (.ofString "-c"), .verbose, .outputDirectory (.ofString "--"), .format .json].Perm
        (settings ⟨2, false, [.ofString "-", .ofString "--in-place"], .ofString "-c",
          ⟨false, some (.ofString "--"), none, some 12, some "-p=*".toList, true⟩, .json⟩) := by
    decide
  obtain ⟨hparse, hconflict⟩ := parse_arguments hcommand nofun fun _ _ => .ok ()
  exact ⟨hcommand, (hparse _ hperm).1, (hconflict .inPlace _ nofun (hperm.cons _)).1⟩

end CommandLine
end LineSieve
