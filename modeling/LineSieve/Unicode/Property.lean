import LineSieve.Text.Blank
import LineSieve.Unicode.Addition
import LineSieve.Unicode.Age
import LineSieve.Unicode.BinaryProperty
import LineSieve.Unicode.GeneralCategory
import LineSieve.Unicode.Script
import LineSieve.Unicode.ScriptExtension
import LineSieve.Unicode.Segmentation

/-!
# Properties by name

`named?` finds the set that a single name denotes: a binary property, a general category or a
script.  `valued?` finds the characters with a given value of a given property.  An age stands for
all characters that the version and the versions before it have added.
-/

namespace LineSieve
namespace Unicode

/-- The set that a table lists under a name, empty if it lists none. -/
def listed (table : List NamedSet) (name : String) : CharSet :=
  (lookup? table name.toList).getD .empty

/-- The characters with a general category, a group of categories, or one of the three classes that
are defined without a table. -/
def category? (name : List Char) : Option CharSet :=
  if name = "any".toList then some .full
  else if name = "ascii".toList then some (.range 0 0x7F)
  else if name = "assigned".toList then some (listed generalCategories "cn").complement
  else
    match categoryGroups.find? fun group => group.1.any fun n => n.toList = name with
    | some group =>
      some (.ofRanges (group.2.flatMap fun part => (listed generalCategories part).ranges))
    | none => lookup? generalCategories name

/-- The characters that existed in a version of the standard. -/
def age? (name : List Char) : Option CharSet :=
  if ages.any fun entry => entry.names.any fun n => n.toList = name then
    let older := ages.takeWhile fun entry => !entry.names.any fun n => n.toList = name
    some (.ofRanges ((older.flatMap fun entry => (unpack entry.packed).ranges) ++
      ((lookup? ages name).getD .empty).ranges))
  else none

/-- The characters denoted by a single name.  The names `cf`, `sc` and `lc` are categories, although
they abbreviate properties as well. -/
def named? (name : List Char) : Option CharSet :=
  let name := looseName name
  match lookup? binaryProperties name with
  | some set => some set
  | none =>
    match category? name with
    | some set => some set
    | none => lookup? scripts name

/-- The characters with a value of a property that is not binary. -/
def valued? (property value : List Char) : Option CharSet :=
  let property := String.ofList (looseName property)
  let value := looseName value
  if property = "gc" ∨ property = "generalcategory" then category? value
  else if property = "sc" ∨ property = "script" then lookup? scripts value
  else if property = "scx" ∨ property = "scriptextensions" then lookup? scriptExtensions value
  else if property = "age" then age? value
  else if property = "gcb" ∨ property = "graphemeclusterbreak" then
    lookup? graphemeClusterBreaks value
  else if property = "wb" ∨ property = "wordbreak" then lookup? wordBreaks value
  else if property = "sb" ∨ property = "sentencebreak" then lookup? sentenceBreaks value
  else none

/-- The decimal digits of all scripts. -/
def digits : CharSet := listed generalCategories "nd"

/-- The letters of all scripts. -/
def letters : CharSet := listed binaryProperties "alphabetic"

/-- The letters that a name may use. -/
def nameLetters : CharSet := letters.union addedLetters

/-- The letters that a name may use, and numbers of any kind. -/
def nameLettersAndNumbers : CharSet :=
  nameLetters.union (addedDigits.union (.ofRanges (["nd", "nl", "no"].flatMap fun part =>
    (listed generalCategories part).ranges)))

/-- The characters of words: letters, marks, digits, connecting punctuation and joiners. -/
def wordChars : CharSet :=
  letters.union (.ofRanges (
    (["mn", "mc", "me", "nd", "pc"].flatMap fun part => (listed generalCategories part).ranges) ++
      (listed binaryProperties "joinc").ranges))

end Unicode
end LineSieve
