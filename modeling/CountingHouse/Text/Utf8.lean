/-
CountingHouse.Text.Utf8 — characters as bytes and bytes as characters.

Encoding is total. Decoding cuts a byte sequence into pieces: each piece
is either one character or a longest run of bytes that begins a
character and cannot be completed. A strict reader refuses a sequence
with an incomplete piece; a forgiving one puts the replacement character
U+FFFD in its place, one for each such piece.
-/

namespace CountingHouse.Text

/-! ## Encoding -/

/-- The bytes of a text, character by character. -/
def encode (s : List Char) : List UInt8 :=
  s.flatMap String.utf8EncodeChar

/-! ## Decoding -/

/-- A character whose first bytes have been read: the value they carry,
the range the next byte has to lie in, and how many bytes follow that
one. -/
structure Partial where
  value : Nat
  low : UInt8
  high : UInt8
  more : Nat
  deriving DecidableEq, Repr

/-- What the first byte of a piece decides. -/
inductive Lead where
  /-- The byte is a character by itself. -/
  | single (c : Char)
  /-- The byte begins a character of several bytes. -/
  | opens (p : Partial)
  /-- No character begins with this byte. -/
  | stray
  deriving DecidableEq, Repr

/-- Classifies the first byte of a piece. The ranges of the second byte
leave out overlong forms, surrogates and code points past U+10FFFF. -/
def lead (b : UInt8) : Lead :=
  let v := b.toNat
  if v < 0x80 then .single (Char.ofNat v)
  else if v < 0xC2 then .stray
  else if v < 0xE0 then .opens ⟨v % 0x20, 0x80, 0xBF, 0⟩
  else if v = 0xE0 then .opens ⟨v % 0x10, 0xA0, 0xBF, 1⟩
  else if v = 0xED then .opens ⟨v % 0x10, 0x80, 0x9F, 1⟩
  else if v < 0xF0 then .opens ⟨v % 0x10, 0x80, 0xBF, 1⟩
  else if v = 0xF0 then .opens ⟨v % 0x08, 0x90, 0xBF, 2⟩
  else if v < 0xF4 then .opens ⟨v % 0x08, 0x80, 0xBF, 2⟩
  else if v = 0xF4 then .opens ⟨v % 0x08, 0x80, 0x8F, 2⟩
  else .stray

/-- One piece of a decoded sequence: a character, or `none` for bytes
that no character can be made of. -/
abbrev Piece := Option Char

/-- Reads a byte at the start of a piece. -/
def enter (b : UInt8) : List Piece × Option Partial :=
  match lead b with
  | .single c => ([some c], none)
  | .opens p => ([], some p)
  | .stray => ([none], none)

/-- Reads one byte: the pieces it completes, and the character it leaves
unfinished. A byte that cannot continue the unfinished character ends it
as a broken piece and is read again as the start of the next. -/
def feed : Option Partial → UInt8 → List Piece × Option Partial
  | none, b => enter b
  | some p, b =>
    if p.low ≤ b && b ≤ p.high then
      let value := p.value * 0x40 + b.toNat % 0x40
      match p.more with
      | 0 => ([some (Char.ofNat value)], none)
      | n + 1 => ([], some ⟨value, 0x80, 0xBF, n⟩)
    else
      let (out, next) := enter b
      (none :: out, next)

/-- The pieces of the bytes that follow an unfinished character. -/
def piecesFrom : Option Partial → List UInt8 → List Piece
  | none, [] => []
  | some _, [] => [none]
  | q, b :: s => (feed q b).1 ++ piecesFrom (feed q b).2 s

/-- The pieces of a byte sequence, in order. -/
def pieces (bytes : List UInt8) : List Piece :=
  piecesFrom none bytes

/-- Strict decoding: a text, or nothing when some bytes make no
character. -/
def decode? (bytes : List UInt8) : Option (List Char) :=
  (pieces bytes).mapM id

/-- The character that stands for bytes that make no character. -/
def replacement : Char := '\uFFFD'

/-- Forgiving decoding: each broken piece becomes `replacement`. -/
def decodeLossy (bytes : List UInt8) : List Char :=
  (pieces bytes).map (·.getD replacement)

/-- A truncated character, an overlong form and a surrogate. -/
example : decodeLossy [0xE2, 0x82, 0xE2, 0x82, 0xAC] = ['\uFFFD', '€'] := by decide
example : decodeLossy [0xC0, 0x80] = ['\uFFFD', '\uFFFD'] := by decide
example : decodeLossy [0xED, 0xA0, 0x80] = ['\uFFFD', '\uFFFD', '\uFFFD'] := by decide
example : decode? (encode ['é', '日', '😀']) = some ['é', '日', '😀'] := by decide

/-- The length of a text in bytes. -/
def byteLength (s : String) : Nat :=
  (encode s.toList).length

end CountingHouse.Text
