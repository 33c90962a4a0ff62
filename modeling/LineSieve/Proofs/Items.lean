import LineSieve.Proofs.References

/-!
# The items of a template

Reading a template means cutting it into items: plain characters, escaped dollar signs, references with
and without braces, and dollar signs that stand for themselves.  `Item.Fits` says when a text that
begins like an item does begin with that item, by what comes after it, and `Itemized` carries this
through a whole template.

Whatever is not empty begins with exactly one item.  The two readers of templates take it in a single
step and go on behind it: `parts` with the part that the item is for the expansion, `scan` with the name
that it has for the check of the groups.  So both read the same items at the same places, and
`references_eq_filter_met` concludes that the check sees every reference that is expanded, but for those
without a name.
-/

namespace LineSieve
namespace Template

/-- A digit or letter of ASCII, or a low line. -/
def IsNameLetter (c : Char) : Prop :=
  '0' ≤ c ∧ c ≤ '9' ∨ 'A' ≤ c ∧ c ≤ 'Z' ∨ 'a' ≤ c ∧ c ≤ 'z' ∨ c = '_'

theorem isNameChar_iff
    (c : Char) :
    isNameChar c = true ↔ IsNameLetter c := by
  simp only [isNameChar, IsNameLetter, Char.isAlphanum, Char.isAlpha, Char.isUpper, Char.isLower,
    Char.isDigit, Bool.or_eq_true, Bool.and_eq_true, decide_eq_true_eq, beq_iff_eq, Char.le_def]
  tauto

/-- What a template is made of. -/
inductive Item
  | plain (c : Char)
  /-- Two dollar signs, which stand for one. -/
  | escaped
  | named (name : List Char)
  | braced (name : List Char)
  /-- A dollar sign that stands for itself; an unclosed brace behind it is read anew. -/
  | lone
  deriving Repr, DecidableEq

namespace Item

def text : Item → List Char
  | plain c => [c]
  | escaped => ['$', '$']
  | named name => '$' :: name
  | braced name => '$' :: '\x7b' :: (name ++ ['\x7d'])
  | lone => ['$']

/-- What the item is for the expansion. -/
def part : Item → Part
  | plain c => .plain c
  | escaped => .plain '$'
  | named name => .reference name
  | braced name => .reference name
  | lone => .plain '$'

/-- The name that is taken for the item's, empty if it has none. -/
def name : Item → List Char
  | named name => name
  | braced name => name
  | _ => []

/-- What the check of the groups takes down for the item: behind each dollar sign a name. -/
def scanned : Item → List (List Char)
  | plain _ => []
  | item => [item.name]

/-- Whether a text that begins like the item begins with the item, by the rest of the text. -/
def Fits (rest : List Char) : Item → Prop
  | plain c => c ≠ '$'
  | escaped => True
  | named name => name ≠ [] ∧ (∀ c ∈ name, IsNameLetter c) ∧ ∀ c ∈ rest.head?, ¬IsNameLetter c
  | braced name => '\x7d' ∉ name
  | lone => (∀ c ∈ rest.head?, c ≠ '$' ∧ ¬IsNameLetter c) ∧
      (rest.head? = some '\x7b' → '\x7d' ∉ rest)

end Item

/-- A text begins with an item, and this is the rest. -/
def Begins (text : List Char) (item : Item) (rest : List Char) : Prop :=
  text = item.text ++ rest ∧ item.Fits rest

/-- The items of a template in order. -/
inductive Itemized : List Char → List Item → Prop
  | nil : Itemized [] []
  | cons {text rest : List Char} {item : Item} {items : List Item}
      (hfirst : Begins text item rest) (hrest : Itemized rest items) :
      Itemized text (item :: items)

/-! ## Longest runs -/

section Runs

variable {p : Char → Prop} {front back front' back' : List Char}

/-- The longest run of characters at the front of a text is told from the rest. -/
theorem run_unique
    (h : front ++ back = front' ++ back')
    (hfront : ∀ c ∈ front, p c)
    (hback : ∀ c ∈ back.head?, ¬p c)
    (hfront' : ∀ c ∈ front', p c)
    (hback' : ∀ c ∈ back'.head?, ¬p c) :
    front = front' ∧ back = back' := by
  induction front generalizing front' with
  | nil =>
    cases front' with
    | nil => exact ⟨rfl, h⟩
    | cons c front' =>
      rw [List.nil_append] at h
      exact absurd (hfront' c List.mem_cons_self) (hback c (by simp [h]))
  | cons c front ih =>
    cases front' with
    | nil =>
      rw [List.nil_append] at h
      exact absurd (hfront c List.mem_cons_self) (hback' c (by simp [← h]))
    | cons d front' =>
      rw [List.cons_append, List.cons_append, List.cons.injEq] at h
      obtain ⟨rfl, h⟩ := h
      rw [List.forall_mem_cons] at hfront hfront'
      obtain ⟨rfl, rfl⟩ := ih h hfront.2 hfront'.2
      exact ⟨rfl, rfl⟩

theorem head?_dropWhile_isNameChar
    (text : List Char) :
    ∀ c ∈ (text.dropWhile isNameChar).head?, ¬IsNameLetter c := by
  intro c hc
  have hstop := List.head?_dropWhile_not isNameChar text
  rw [Option.mem_def.1 hc] at hstop
  rw [← isNameChar_iff, hstop]
  exact Bool.false_ne_true

theorem forall_mem_takeWhile_isNameChar
    (text : List Char) :
    ∀ c ∈ text.takeWhile isNameChar, IsNameLetter c :=
  fun c hc => (isNameChar_iff c).1 (List.mem_takeWhile_imp hc)

/-- A name is what the readers take for one. -/
theorem takeWhile_dropWhile_isNameChar
    (hfront : ∀ c ∈ front, IsNameLetter c)
    (hback : ∀ c ∈ back.head?, ¬IsNameLetter c) :
    (front ++ back).takeWhile isNameChar = front ∧ (front ++ back).dropWhile isNameChar = back :=
  run_unique List.takeWhile_append_dropWhile (forall_mem_takeWhile_isNameChar _)
    (head?_dropWhile_isNameChar _) hfront hback

end Runs

/-! ## The first item -/

variable {text rest : List Char} {item : Item} {items : List Item}

theorem Begins.length_lt
    (h : Begins text item rest) :
    rest.length < text.length := by
  rw [h.1, List.length_append]
  cases item <;> simp [Item.text]

theorem not_isNameLetter_dollar : ¬IsNameLetter '$' := by
  unfold IsNameLetter
  decide

theorem not_isNameLetter_brace : ¬IsNameLetter '\x7b' := by
  unfold IsNameLetter
  decide

/-- What begins with a dollar sign begins with an item. -/
theorem exists_begins_dollar
    (after : List Char) :
    ∃ item rest, Begins ('$' :: after) item rest := by
  cases after with
  | nil => exact ⟨.lone, [], rfl, by simp [Item.Fits]⟩
  | cons c after =>
    by_cases hdollar : c = '$'
    · exact ⟨.escaped, after, by rw [hdollar]; rfl, trivial⟩
    by_cases hbrace : c = '\x7b' ∧ '\x7d' ∈ after
    · obtain ⟨name, rest, rfl, hclosing⟩ := List.eq_append_cons_of_mem hbrace.2
      exact ⟨.braced name, rest, by simp [Item.text, hbrace.1], hclosing⟩
    by_cases hletter : IsNameLetter c
    · refine ⟨.named ((c :: after).takeWhile isNameChar), (c :: after).dropWhile isNameChar, ?_, ?_,
        forall_mem_takeWhile_isNameChar _, head?_dropWhile_isNameChar _⟩
      · rw [Item.text, List.cons_append, List.takeWhile_append_dropWhile]
      · simp [(isNameChar_iff c).2 hletter]
    · refine ⟨.lone, c :: after, rfl, ?_, ?_⟩
      · rintro d ⟨⟩
        exact ⟨hdollar, hletter⟩
      · rintro ⟨⟩
        simpa using hbrace

theorem exists_begins
    (hne : text ≠ []) :
    ∃ item rest, Begins text item rest := by
  obtain ⟨c, after, rfl⟩ := List.exists_cons_of_ne_nil hne
  by_cases hc : c = '$'
  · rw [hc]
    exact exists_begins_dollar after
  · exact ⟨.plain c, after, rfl, hc⟩

/-! ## The readers at the first item -/

theorem closingBrace?_append
    {name : List Char}
    (h : '\x7d' ∉ name)
    (rest : List Char) :
    closingBrace? (name ++ '\x7d' :: rest) = some (name, rest) := by
  induction name with
  | nil => rfl
  | cons c name ih =>
    rw [List.mem_cons, not_or] at h
    rw [List.cons_append, closingBrace?, if_neg (Ne.symm h.1), ih h.2]
    rfl

theorem closingBrace?_eq_none
    {text : List Char}
    (h : '\x7d' ∉ text) :
    closingBrace? text = none := by
  rw [closingBrace?_eq, if_neg (by simpa using h)]

/-- What stands behind the dollar sign of a name begins with the name and with nothing else. -/
theorem Item.Fits.named_run
    {name : List Char}
    (h : (Item.named name).Fits rest) :
    (∀ tail, name ++ rest ≠ '$' :: tail) ∧ (∀ tail, name ++ rest ≠ '\x7b' :: tail) ∧
      (name ++ rest).takeWhile isNameChar = name ∧ (name ++ rest).dropWhile isNameChar = rest := by
  obtain ⟨hne, hname, hrest⟩ := h
  refine ⟨?_, ?_, takeWhile_dropWhile_isNameChar hname hrest⟩
  all_goals
    obtain ⟨c, tail, rfl⟩ := List.exists_cons_of_ne_nil hne
    rintro _ ⟨⟩
  · exact not_isNameLetter_dollar (hname _ List.mem_cons_self)
  · exact not_isNameLetter_brace (hname _ List.mem_cons_self)

/-- No name and no brace follow on a dollar sign that stands for itself. -/
theorem Item.Fits.lone_cases
    (h : Item.lone.Fits rest) :
    (∃ inner, rest = '\x7b' :: inner ∧ closingBrace? inner = none) ∨
      ((∀ tail, rest ≠ '$' :: tail) ∧ (∀ tail, rest ≠ '\x7b' :: tail) ∧
        rest.takeWhile isNameChar = [] ∧ rest.dropWhile isNameChar = rest) := by
  obtain ⟨hhead, hunclosed⟩ := h
  by_cases hbrace : rest.head? = some '\x7b'
  · obtain ⟨inner, rfl⟩ := List.head?_eq_some_iff.1 hbrace
    have hinner : '\x7d' ∉ inner := fun hmem => hunclosed hbrace (List.mem_cons_of_mem _ hmem)
    exact Or.inl ⟨inner, rfl, closingBrace?_eq_none hinner⟩
  · have hrun := takeWhile_dropWhile_isNameChar (List.forall_mem_nil IsNameLetter)
      fun c hc => (hhead c hc).2
    refine Or.inr ⟨?_, ?_, hrun⟩
    · rintro tail rfl
      exact (hhead '$' rfl).1 rfl
    · rintro tail rfl
      exact hbrace rfl

/-- Behind a dollar sign the check of the groups takes the name of the item and goes on with the rest. -/
theorem Begins.referenceHere_eq
    {after : List Char}
    (h : Begins ('$' :: after) item rest) :
    referenceHere after = (item.name, rest) := by
  obtain ⟨htext, hfits⟩ := h
  cases item with
  | plain c => exact absurd (List.cons.inj htext).1.symm hfits
  | escaped =>
    obtain rfl : after = '$' :: rest := (List.cons.inj htext).2
    rfl
  | named name =>
    obtain rfl : after = name ++ rest := (List.cons.inj htext).2
    obtain ⟨hdollar, hbrace, htake, hdrop⟩ := hfits.named_run
    rw [referenceHere_of_ne hdollar hbrace, htake, hdrop]
    rfl
  | braced name =>
    obtain rfl : after = '\x7b' :: (name ++ '\x7d' :: rest) := by simpa [Item.text] using htext
    rw [referenceHere_brace, closingBrace?_append hfits]
    rfl
  | lone =>
    obtain rfl : after = rest := (List.cons.inj htext).2
    rcases hfits.lone_cases with ⟨inner, rfl, hnone⟩ | ⟨hdollar, hbrace, htake, hdrop⟩
    · rw [referenceHere_brace, hnone]
      rfl
    · rw [referenceHere_of_ne hdollar hbrace, htake, hdrop]
      rfl

theorem Begins.scan_eq
    (h : Begins text item rest) :
    scan text = item.scanned ++ scan rest := by
  cases hitem : item with
  | plain c =>
    obtain ⟨rfl, hfits⟩ := h
    rw [hitem] at hfits ⊢
    exact scan_of_ne hfits
  | _ =>
    obtain ⟨after, rfl⟩ : ∃ after, text = '$' :: after := ⟨_, by rw [h.1, hitem]; rfl⟩
    rw [scan_dollar, h.referenceHere_eq, hitem]
    rfl

theorem parts_brace_of_eq_some
    {inner name rest : List Char}
    (h : closingBrace? inner = some (name, rest)) :
    parts ('$' :: '\x7b' :: inner) = .reference name :: parts rest := by
  rw [parts]
  split
  · rename_i inside after h'
    cases h.symm.trans h'
    rfl
  · rename_i h'
    cases h.symm.trans h'

theorem parts_brace_of_eq_none
    {inner : List Char}
    (h : closingBrace? inner = none) :
    parts ('$' :: '\x7b' :: inner) = .plain '$' :: parts ('\x7b' :: inner) := by
  rw [parts]
  split
  · rename_i h'
    cases h.symm.trans h'
  · rfl

theorem Begins.parts_eq
    (h : Begins text item rest) :
    parts text = item.part :: parts rest := by
  obtain ⟨rfl, hfits⟩ := h
  cases item with
  | plain c =>
    have hc : c ≠ '$' := hfits
    rw [Item.text, List.singleton_append, parts]
    · rfl
    all_goals simp [hc]
  | escaped =>
    rw [Item.text, List.cons_append, List.singleton_append, parts]
    rfl
  | named name =>
    obtain ⟨hdollar, hbrace, htake, hdrop⟩ := hfits.named_run
    rw [Item.text, List.cons_append, parts, htake, hdrop, if_neg (by simpa using hfits.1)]
    · rfl
    · exact hdollar
    · exact hbrace
  | braced name =>
    rw [Item.text, List.cons_append, List.cons_append, List.append_assoc, List.singleton_append,
      parts_brace_of_eq_some (closingBrace?_append hfits rest)]
    rfl
  | lone =>
    rw [Item.text, List.singleton_append]
    rcases hfits.lone_cases with ⟨inner, rfl, hnone⟩ | ⟨hdollar, hbrace, htake, hdrop⟩
    · exact parts_brace_of_eq_none hnone
    · rw [parts, htake]
      · rfl
      · exact hdollar
      · exact hbrace

/-- A dollar sign with a name behind it is a reference to the longest such name. -/
theorem Begins.eq_named
    {name rest' : List Char}
    (hfits : (Item.named name).Fits rest)
    (h : Begins ((Item.named name).text ++ rest) item rest') :
    Item.named name = item ∧ rest = rest' := by
  obtain ⟨hdollar, hbrace, -, -⟩ := hfits.named_run
  obtain ⟨hne, hname, hrest⟩ := hfits
  obtain ⟨heq, hfits'⟩ := h
  cases item with
  | plain d => exact absurd (List.cons.inj heq).1.symm hfits'
  | escaped => exact absurd (List.cons.inj heq).2 (hdollar _)
  | named name' =>
    have hrun := run_unique (List.cons.inj heq).2 hname hrest hfits'.2.1 hfits'.2.2
    rwa [Item.named.injEq]
  | braced name' => exact absurd (List.cons.inj heq).2 (hbrace _)
  | lone =>
    have hrest' : name ++ rest = rest' := (List.cons.inj heq).2
    obtain ⟨c, tail, rfl⟩ := List.exists_cons_of_ne_nil hne
    have hc : c ∈ rest'.head? := by simp [← hrest']
    exact absurd (hname c List.mem_cons_self) (hfits'.1 c hc).2

/-- A text begins with one item only. -/
theorem Begins.unique
    {item' : Item} {rest' : List Char}
    (h : Begins text item rest)
    (h' : Begins text item' rest') :
    item = item' ∧ rest = rest' := by
  obtain ⟨rfl, hfits⟩ := h
  -- a name on either side settles it; of the others only two pairs of braces can go the same way
  cases item
  case named name => exact h'.eq_named hfits
  all_goals obtain ⟨heq, hfits'⟩ := h'
  all_goals cases item'
  case plain.named | escaped.named | braced.named | lone.named =>
    exact (Begins.eq_named hfits' ⟨heq.symm, hfits⟩).imp Eq.symm Eq.symm
  case braced.braced name name' =>
    have htext : name' ++ '\x7d' :: rest' = name ++ '\x7d' :: rest := by simpa [Item.text] using heq.symm
    have hclosing := closingBrace?_append hfits rest
    rw [← htext, closingBrace?_append hfits'] at hclosing
    cases hclosing
    exact ⟨rfl, rfl⟩
  all_goals grind [Item.text, Item.Fits]

/-! ## All items -/

theorem exists_itemized
    (template : List Char) :
    ∃ items, Itemized template items := by
  by_cases hne : template = []
  · exact ⟨[], hne ▸ .nil⟩
  · obtain ⟨item, rest, hfirst⟩ := exists_begins hne
    have := hfirst.length_lt
    obtain ⟨items, hrest⟩ := exists_itemized rest
    exact ⟨item :: items, .cons hfirst hrest⟩
termination_by template.length

namespace Itemized

variable {template : List Char} {others : List Item}

theorem unique
    (h : Itemized template items)
    (h' : Itemized template others) :
    others = items := by
  induction h generalizing others with
  | nil =>
    cases h' with
    | nil => rfl
    | cons hfirst _ => exact absurd hfirst.length_lt (Nat.not_lt_zero _)
  | cons hfirst _ ih =>
    cases h' with
    | nil => exact absurd hfirst.length_lt (Nat.not_lt_zero _)
    | cons hfirst' hrest' =>
      obtain ⟨rfl, rfl⟩ := hfirst.unique hfirst'
      rw [ih hrest']

theorem parts_eq
    (h : Itemized template items) :
    parts template = items.map Item.part := by
  induction h with
  | nil => rw [parts]; rfl
  | cons hfirst _ ih => rw [hfirst.parts_eq, ih, List.map_cons]

theorem scan_eq
    (h : Itemized template items) :
    scan template = items.flatMap Item.scanned := by
  induction h with
  | nil => exact scan_nil
  | cons hfirst _ ih => rw [hfirst.scan_eq, ih, List.flatMap_cons]

end Itemized

/-- The check of a template sees exactly the references that its expansion meets, in this order, but for
those without a name.  Both read the same items, of which every template has exactly one list, and behind
each dollar sign both take the same item and go on with the same rest. -/
theorem references_eq_filter_met
    (template : List Char) :
    references template = (met template).filter (fun name => !name.isEmpty) ∧
    (∃ items, (∀ others, Itemized template others ↔ others = items) ∧
      parts template = items.map Item.part ∧ scan template = items.flatMap Item.scanned) ∧
    ∀ after, ∃ item rest, Begins ('$' :: after) item rest ∧
      parts ('$' :: after) = item.part :: parts rest ∧ referenceHere after = (item.name, rest) := by
  refine ⟨references_eq template, ?_, fun after => ?_⟩
  · obtain ⟨items, hitems⟩ := exists_itemized template
    refine ⟨items, fun others => ⟨hitems.unique, ?_⟩, hitems.parts_eq, hitems.scan_eq⟩
    rintro rfl
    exact hitems
  · obtain ⟨item, rest, hfirst⟩ := exists_begins_dollar after
    exact ⟨item, rest, hfirst, hfirst.parts_eq, hfirst.referenceHere_eq⟩

/-- An escaped dollar sign takes nothing from the reference behind it, a dollar sign within braces is part
of the name, and behind an unclosed brace the reading goes on at the brace. -/
example : references "$$$1$\x7ba$b\x7d$\x7b$x".toList =
    ["1".toList, "a$b".toList, "x".toList] := by
  cbv

end Template
end LineSieve
