/-!
# UTF-8

`Utf8.encode` writes text as bytes and `Utf8.decode` reads it back.  A sequence of bytes is valid
when it is the shortest form of scalar values.  Where it is not, the fault names the index of the
first byte of the offending sequence and, unless the bytes just end too early, how many bytes of it
to blame: the longest beginning of a sequence that is valid so far, and at least one byte.
-/

namespace LineSieve
namespace Utf8

/-- Why bytes are no text. -/
structure Fault where
  /-- Index of the first byte that belongs to no character. -/
  index : Nat
  /-- How many bytes are invalid; absent if a sequence is incomplete at the end. -/
  length : Option Nat
  deriving Repr, DecidableEq

def Fault.message (fault : Fault) : String :=
  match fault.length with
  | some n =>
    "invalid utf-8 sequence of " ++ toString n ++ " bytes from index " ++ toString fault.index
  | none => "incomplete utf-8 byte sequence from index " ++ toString fault.index

/-- The fault as it is when more bytes stand in front. -/
def Fault.shift (fault : Fault) (offset : Nat) : Fault :=
  { fault with index := fault.index + offset }

/-- What a first byte says about its sequence: how many bytes follow, and between which bounds the
first of them lies. -/
structure Lead where
  following : Nat
  low : UInt8
  high : UInt8
  deriving Repr, DecidableEq

/-- The first byte of a sequence of two to four bytes. -/
def lead? (b : UInt8) : Option Lead :=
  if 0xC2 ≤ b ∧ b ≤ 0xDF then some ⟨1, 0x80, 0xBF⟩
  else if b = 0xE0 then some ⟨2, 0xA0, 0xBF⟩
  else if b = 0xED then some ⟨2, 0x80, 0x9F⟩
  else if 0xE1 ≤ b ∧ b ≤ 0xEF then some ⟨2, 0x80, 0xBF⟩
  else if b = 0xF0 then some ⟨3, 0x90, 0xBF⟩
  else if 0xF1 ≤ b ∧ b ≤ 0xF3 then some ⟨3, 0x80, 0xBF⟩
  else if b = 0xF4 then some ⟨3, 0x80, 0x8F⟩
  else none

def isContinuation (b : UInt8) : Bool := 0x80 ≤ b && b ≤ 0xBF

/-- The payload of a continuation byte. -/
def payload (b : UInt8) : Nat := b.toNat % 64

/-- The character of a sequence of two, three or four bytes. -/
def assemble2 (a b : UInt8) : Char := Char.ofNat (a.toNat % 32 * 64 + payload b)

def assemble3 (a b c : UInt8) : Char :=
  Char.ofNat ((a.toNat % 16 * 64 + payload b) * 64 + payload c)

def assemble4 (a b c d : UInt8) : Char :=
  Char.ofNat (((a.toNat % 8 * 64 + payload b) * 64 + payload c) * 64 + payload d)

/-- Read bytes, the first of which has the given index. -/
def decodeFrom (index : Nat) : List UInt8 → Except Fault (List Char)
  | [] => .ok []
  | a :: rest =>
    if a < 0x80 then (decodeFrom (index + 1) rest).map (Char.ofNat a.toNat :: ·)
    else
      match lead? a with
      | none => .error ⟨index, some 1⟩
      | some lead =>
        match rest with
        | [] => .error ⟨index, none⟩
        | b :: rest =>
          if b < lead.low || lead.high < b then .error ⟨index, some 1⟩
          else if lead.following = 1 then
            (decodeFrom (index + 2) rest).map (assemble2 a b :: ·)
          else
            match rest with
            | [] => .error ⟨index, none⟩
            | c :: rest =>
              if !isContinuation c then .error ⟨index, some 2⟩
              else if lead.following = 2 then
                (decodeFrom (index + 3) rest).map (assemble3 a b c :: ·)
              else
                match rest with
                | [] => .error ⟨index, none⟩
                | d :: rest =>
                  if !isContinuation d then .error ⟨index, some 3⟩
                  else (decodeFrom (index + 4) rest).map (assemble4 a b c d :: ·)

/-- The text that bytes write, or the first fault. -/
def decode (bytes : List UInt8) : Except Fault (List Char) := decodeFrom 0 bytes

/-- The bytes of a text. -/
def encode (text : List Char) : List UInt8 := text.flatMap String.utf8EncodeChar

@[simp] theorem encode_nil : encode [] = [] := rfl

@[simp] theorem encode_append
    (a b : List Char) :
    encode (a ++ b) = encode a ++ encode b := by
  simp [encode]

end Utf8
end LineSieve
