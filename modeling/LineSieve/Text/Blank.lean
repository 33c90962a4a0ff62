import LineSieve.CharSet

/-!
# Blank characters

A character is blank when it has the Unicode property `White_Space`.  A text is blank when all its
characters are, and trimming takes blank characters off both ends.
-/

namespace LineSieve
namespace Text

/-- The characters with the property `White_Space`. -/
def blanks : CharSet :=
  ⟨[⟨0x09, 0x0D⟩, ⟨0x20, 0x20⟩, ⟨0x85, 0x85⟩, ⟨0xA0, 0xA0⟩, ⟨0x1680, 0x1680⟩, ⟨0x2000, 0x200A⟩,
    ⟨0x2028, 0x2029⟩, ⟨0x202F, 0x202F⟩, ⟨0x205F, 0x205F⟩, ⟨0x3000, 0x3000⟩]⟩

def isBlankChar (c : Char) : Bool := blanks.contains c

/-- Whether the text holds nothing but blank characters. -/
def isBlank (text : List Char) : Bool := text.all isBlankChar

/-- The text without the blank characters at its start and at its end. -/
def trim (text : List Char) : List Char :=
  ((text.dropWhile isBlankChar).reverse.dropWhile isBlankChar).reverse

/-- A text is blank exactly when trimming leaves nothing. -/
theorem trim_eq_nil_iff
    (text : List Char) :
    trim text = [] ↔ isBlank text = true := by
  have h : ∀ t : List Char, t.dropWhile isBlankChar = [] ↔ t.all isBlankChar = true := by
    intro t
    induction t with
    | nil => simp
    | cons c t ih => by_cases hc : isBlankChar c <;> simp [hc, ih]
  constructor
  · intro ht
    simp only [trim, List.reverse_eq_nil_iff, h, List.all_reverse] at ht
    cases hd : text.dropWhile isBlankChar with
    | nil => exact (h text).1 hd
    | cons c t =>
      have hc : isBlankChar c = false := by
        have := List.head?_dropWhile_not isBlankChar text
        simpa [hd] using this
      simp [hd, hc] at ht
  · intro ht
    simp [trim, (h text).2 ht]

end Text
end LineSieve
