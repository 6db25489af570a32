/-
CountingHouse.Text.Blank — white space, and the two things a reader of
ledger and client text does with it: trimming both ends of a line and
splitting a line into words.

A blank is a character with the Unicode property `White_Space`; there
are twenty-five of them. Zero-width characters and the ASCII file
separators are not blank.
-/

namespace CountingHouse.Text

/-! ## The property -/

/-- Code points with the property `White_Space`, as inclusive ranges in
increasing order. -/
def blankRanges : List (Nat × Nat) :=
  [(0x9, 0xD), (0x20, 0x20), (0x85, 0x85), (0xA0, 0xA0), (0x1680, 0x1680),
   (0x2000, 0x200A), (0x2028, 0x2029), (0x202F, 0x202F), (0x205F, 0x205F),
   (0x3000, 0x3000)]

/-- Does the character separate words? -/
def isBlank (c : Char) : Bool :=
  blankRanges.any fun r => r.1 ≤ c.toNat && c.toNat ≤ r.2

/-- The blanks number twenty-five. -/
example : (blankRanges.map fun r => r.2 + 1 - r.1).sum = 25 := by decide

/-! ## Trimming -/

/-- Drops the blanks a line begins with. -/
def trimStart (s : List Char) : List Char :=
  s.dropWhile isBlank

/-- Drops the blanks a line ends with. -/
def trimEnd (s : List Char) : List Char :=
  (s.reverse.dropWhile isBlank).reverse

/-- Drops the blanks at both ends of a line. -/
def trim (s : List Char) : List Char :=
  trimEnd (trimStart s)

/-! ## Words -/

/-- The words of a line: its longest runs of characters that are not
blank, in order. No word is empty. -/
def words : List Char → List (List Char)
  | [] => []
  | c :: s =>
    if isBlank c then words s
    else
      match s with
      | [] => [[c]]
      | d :: _ =>
        if isBlank d then [c] :: words s
        else
          match words s with
          | [] => [[c]]
          | w :: ws => (c :: w) :: ws

end CountingHouse.Text
