import LineSieve.Rule.Basic
import LineSieve.Text.Lines
import LineSieve.Text.Utf8

/-!
# Sifting the content of a file

The content is read chunk by chunk.  Each chunk must be UTF-8; a byte order mark at the very start is
passed on and does not belong to the first line.  Every line goes through the rules, and a line that
is not deleted is written with the ending that it had.

`sift` says what is written, piece by piece, what happened to every line, and which fault ended
the reading.  The lines of the chunk with the fault have not been read.
-/

namespace LineSieve

/-- The mark at the start of a text that is not part of its first line. -/
def byteOrderMark : Char := Char.ofNat 0xFEFF

/-- What comes of sifting a content. -/
structure Sifting where
  /-- The pieces of text that are written, in order. -/
  written : List (List Char)
  /-- What happened to the lines, in order. -/
  actions : List LineAction
  /-- The fault at which reading stopped, with its index inside the chunk. -/
  fault : Option Utf8.Fault
  deriving Repr, DecidableEq

namespace Sifting

def empty : Sifting := ⟨[], [], none⟩

def counts (r : Sifting) : ActionCounts := ActionCounts.zero.recordAll r.actions

/-- Everything that is written. -/
def bytes (r : Sifting) : List UInt8 := Utf8.encode r.written.flatten

/-- One after the other; the second is reached only if the first met no fault. -/
def append (a b : Sifting) : Sifting :=
  match a.fault with
  | some _ => a
  | none => ⟨a.written ++ b.written, a.actions ++ b.actions, b.fault⟩

/-- What is written for a line, if anything is. -/
def pieceOf (rules : List Rule) (line : Line) : Option (List Char) :=
  (Rule.evaluate rules line.text).text.map (· ++ line.ending.text)

/-- Sift a text that has been read. -/
def ofText (rules : List Rule) (text : List Char) : Sifting :=
  let lines := Text.lines text
  ⟨lines.filterMap (pieceOf rules), lines.map fun line => (Rule.evaluate rules line.text).action,
    none⟩

/-- Sift the text at the start of a file. -/
def ofFirstText (rules : List Rule) (text : List Char) : Sifting :=
  match text with
  | [] => empty
  | c :: rest =>
    if c = byteOrderMark then append ⟨[[c]], [], none⟩ (ofText rules rest)
    else ofText rules (c :: rest)

/-- Sift one chunk. -/
def ofChunk (rules : List Rule) (atStart : Bool) (chunk : List UInt8) : Sifting :=
  match Utf8.decode chunk with
  | .error fault => ⟨[], [], some fault⟩
  | .ok text => if atStart then ofFirstText rules text else ofText rules text

/-- Sift chunks up to the first fault. -/
def ofChunks (rules : List Rule) : Bool → List (List UInt8) → Sifting
  | _, [] => empty
  | atStart, chunk :: rest =>
    append (ofChunk rules atStart chunk) (ofChunks rules false rest)

end Sifting

/-- What the rules make of the content of a file. -/
def sift (rules : List Rule) (content : List UInt8) : Sifting :=
  Sifting.ofChunks rules true (Text.chunks content)

end LineSieve
