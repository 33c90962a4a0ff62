/-!
# Lines

A line ends in `\r\n`, in `\n`, in a lone `\r`, or at the end of the text.  `lines` cuts a text into
lines with their endings, and `unlines` puts them together again.  `chunks` cuts bytes after every
`\n`, which is how a file is read.
-/

namespace LineSieve

/-- How a line ends. -/
inductive LineEnding
  | crlf
  | lf
  | cr
  /-- The line stands at the end of the text, without an ending of its own. -/
  | missing
  deriving Repr, DecidableEq, Inhabited

def LineEnding.text : LineEnding → List Char
  | crlf => ['\r', '\n']
  | lf => ['\n']
  | cr => ['\r']
  | missing => []

structure Line where
  text : List Char
  ending : LineEnding
  deriving Repr, DecidableEq, Inhabited

namespace Text

/-- Put a character in front of the first of some lines, or make a line of it. -/
def consChar (c : Char) : List Line → List Line
  | [] => [⟨[c], .missing⟩]
  | line :: rest => ⟨c :: line.text, line.ending⟩ :: rest

/-- The lines of a text. -/
def lines : List Char → List Line
  | [] => []
  | '\r' :: '\n' :: rest => ⟨[], .crlf⟩ :: lines rest
  | '\r' :: rest => ⟨[], .cr⟩ :: lines rest
  | '\n' :: rest => ⟨[], .lf⟩ :: lines rest
  | c :: rest => consChar c (lines rest)

/-- The text that some lines make up. -/
def unlines (lines : List Line) : List Char :=
  lines.flatMap fun line => line.text ++ line.ending.text

@[simp] theorem unlines_nil : unlines [] = [] := rfl

@[simp] theorem unlines_cons
    (line : Line) (rest : List Line) :
    unlines (line :: rest) = line.text ++ line.ending.text ++ unlines rest := by
  simp [unlines]

@[simp] theorem unlines_consChar
    (c : Char) (rest : List Line) :
    unlines (consChar c rest) = c :: unlines rest := by
  cases rest <;> simp [consChar, LineEnding.text]

/-- Cutting a text into lines loses nothing. -/
@[simp] theorem unlines_lines
    (text : List Char) :
    unlines (lines text) = text := by
  fun_induction lines text with
  | case1 => rfl
  | case2 rest ih => simp [LineEnding.text, ih]
  | case3 rest h ih => simp [LineEnding.text, ih]
  | case4 rest ih => simp [LineEnding.text, ih]
  | case5 c rest h₁ h₂ h₃ ih => simp [ih]

/-- The byte after which a file is cut while it is read. -/
def lineFeed : UInt8 := 10

/-- Bytes cut after every line feed. -/
def chunks : List UInt8 → List (List UInt8)
  | [] => []
  | b :: rest =>
    if b = lineFeed then [b] :: chunks rest
    else
      match chunks rest with
      | [] => [[b]]
      | chunk :: more => (b :: chunk) :: more

/-- Cutting bytes into chunks loses nothing. -/
@[simp] theorem flatten_chunks
    (bytes : List UInt8) :
    (chunks bytes).flatten = bytes := by
  fun_induction chunks bytes <;> simp_all

end Text
end LineSieve
