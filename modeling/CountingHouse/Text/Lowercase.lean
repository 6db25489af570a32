/-
CountingHouse.Text.Lowercase — the lower-case form of a text.

Each character is mapped by itself, with two exceptions. A capital I
with a dot above becomes two characters. A capital sigma becomes the
final form at the end of a word and the ordinary form elsewhere: it is
final when a character with case stands before it and none stands after
it, characters that are passed over aside.
-/
import CountingHouse.Text.CaseTable

namespace CountingHouse.Text

/-! ## One character -/

/-- Is the code point in one of the ranges? -/
def inRanges (ranges : List (Nat × Nat)) (c : Char) : Bool :=
  ranges.any fun r => r.1 ≤ c.toNat && c.toNat ≤ r.2

/-- The lower-case form of a character that has one of one character;
any other character stays as it is. -/
def lowerOne (c : Char) : Char :=
  match lowerRuns.find? fun (first, last, step, _) =>
      first ≤ c.toNat && c.toNat ≤ last && (c.toNat - first) % step = 0 with
  | some (_, _, _, shift) => Char.ofNat (c.toNat + shift).toNat
  | none => c

/-! ## Words -/

/-- Does the nearest character that is not passed over have case? -/
def nextIsCased (s : List Char) : Bool :=
  match s.dropWhile (inRanges ignorableRanges) with
  | [] => false
  | c :: _ => inRanges casedRanges c

/-- Lower-cases the rest of a text; `before` holds the characters already
read, last one first. -/
def lowerAfter (before : List Char) : List Char → List Char
  | [] => []
  | c :: s =>
    let form :=
      if c = 'Σ' then
        if nextIsCased before && !nextIsCased s then ['ς'] else ['σ']
      else if c = 'İ' then ['i', '\u0307']
      else [lowerOne c]
    form ++ lowerAfter (c :: before) s

/-- The lower-case form of a text. -/
def lowercase (s : List Char) : List Char :=
  lowerAfter [] s

example : lowercase "WithDrawal".toList = "withdrawal".toList := by decide
example : lowercase "ΑΣ Β".toList = "ας β".toList := by decide +kernel
example : lowercase "ΑΣ'Β".toList = "ασ'β".toList := by decide +kernel

end CountingHouse.Text
