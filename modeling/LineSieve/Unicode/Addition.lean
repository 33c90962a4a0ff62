import LineSieve.Unicode.Packed

/-!
# Additions of the next version

The tables of properties describe one version of the standard.  The letters and digits that the next
version adds are listed here; names in an expression may use them already, although no property of the
tables holds for them.
-/

namespace LineSieve
namespace Unicode

/-- The added letters, with the marks and numbers that count as letters. -/
def addedLetters : CharSet :=
  unpack "88f 3cc 7f 9af1:2 2 1 1c 614e:1a 56b:3 32:2 c64:8 248:2c 50c4:19 2:19 11e:5 1801:8
    509:16 61:73 58cd:1f 1:16 8:2 d03a:6 1762:c 5502:10ca"

/-- The added decimal digits. -/
def addedDigits : CharSet :=
  unpack "11de0:a"

end Unicode
end LineSieve
