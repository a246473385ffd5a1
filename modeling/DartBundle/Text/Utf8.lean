/-!
This module contains the decoding of UTF-8. A byte sequence is a row of pieces: characters, and
longest beginnings of a character that are not continued as they have to be. Strict decoding
reports the first such piece, lenient decoding puts the replacement character for each.
-/

namespace DartBundle

namespace Utf8

inductive Piece
  | char (c : Char)
  /-- So many bytes begin a character, or could not, and the byte after them does not fit. -/
  | invalid (length : Nat)
  /-- So many bytes begin a character, and the sequence ends. -/
  | incomplete (length : Nat)
  deriving DecidableEq

structure Lead where
  following : Nat
  low : Nat
  high : Nat
  bits : Nat

def lead? (byte : UInt8) : Option Lead :=
  let b := byte.toNat
  -- the bounds leave out overlong forms, surrogates and what is beyond the last code point
  if b < 0x80 then some ⟨0, 0x80, 0xbf, b⟩
  else if b < 0xc2 then none
  else if b < 0xe0 then some ⟨1, 0x80, 0xbf, b - 0xc0⟩
  else if b = 0xe0 then some ⟨2, 0xa0, 0xbf, 0⟩
  else if b = 0xed then some ⟨2, 0x80, 0x9f, 0xd⟩
  else if b < 0xf0 then some ⟨2, 0x80, 0xbf, b - 0xe0⟩
  else if b = 0xf0 then some ⟨3, 0x90, 0xbf, 0⟩
  else if b < 0xf4 then some ⟨3, 0x80, 0xbf, b - 0xf0⟩
  else if b = 0xf4 then some ⟨3, 0x80, 0x8f, 4⟩
  else none

def follow : Nat → Nat → Nat → Nat → Nat → List UInt8 → Piece × List UInt8
  | 0, _, _, bits, _, rest => (.char (Char.ofNat bits), rest)
  | _ + 1, _, _, _, taken, [] => (.incomplete taken, [])
  | following + 1, low, high, bits, taken, byte :: rest =>
    if low ≤ byte.toNat ∧ byte.toNat ≤ high then
      follow following 0x80 0xbf (bits * 64 + (byte.toNat - 0x80)) (taken + 1) rest
    else
      (.invalid taken, byte :: rest)

def first (byte : UInt8) (rest : List UInt8) : Piece × List UInt8 :=
  match lead? byte with
  | none => (.invalid 1, rest)
  | some lead => follow lead.following lead.low lead.high lead.bits 1 rest

theorem follow_length_le (following low high bits taken : Nat) (rest : List UInt8) :
    (follow following low high bits taken rest).2.length ≤ rest.length := by
  fun_induction follow following low high bits taken rest with
  | case1 => simp
  | case2 => simp
  | case3 _ _ _ _ _ _ _ _ ih => exact Nat.le_trans ih (by simp)
  | case4 => simp

theorem first_length_le (byte : UInt8) (rest : List UInt8) :
    (first byte rest).2.length ≤ rest.length := by
  unfold first
  split
  · simp
  · exact follow_length_le ..

def pieces : List UInt8 → List Piece
  | [] => []
  | byte :: rest => (first byte rest).1 :: pieces (first byte rest).2
termination_by bytes => bytes.length
decreasing_by
  exact Nat.lt_succ_of_le (first_length_le byte rest)

structure Fault where
  index : Nat
  length : Option Nat
  deriving DecidableEq

def Fault.message (fault : Fault) : String :=
  match fault.length with
  | some length => s!"invalid utf-8 sequence of {length} bytes from index {fault.index}"
  | none => s!"incomplete utf-8 byte sequence from index {fault.index}"

def strict (index : Nat) : List Piece → Except Fault (List Char)
  | [] => .ok []
  | .char c :: rest => (strict (index + c.utf8Size) rest).map (c :: ·)
  | .invalid length :: _ => .error ⟨index, some length⟩
  | .incomplete _ :: _ => .error ⟨index, none⟩

def decode (bytes : ByteArray) : Except Fault String :=
  (strict 0 (pieces bytes.data.toList)).map String.ofList

/--
Decodes bytes with one replacement character for each piece that is no character.
-/
def decodeLenient (bytes : ByteArray) : String :=
  String.ofList <| (pieces bytes.data.toList).map fun
    | .char c => c
    | .invalid _ => '\uFFFD'
    | .incomplete _ => '\uFFFD'

end Utf8

end DartBundle
