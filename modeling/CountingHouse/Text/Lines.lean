/-
CountingHouse.Text.Lines — a byte stream as lines.

A line ends with a line feed or with the end of the stream. The last
line counts only when it holds something, so a stream that ends with a
line feed has no empty line after it.
-/

namespace CountingHouse.Text

/-- The byte that ends a line. -/
def lineFeed : UInt8 := 0x0A

/-- The lines of a stream, without their line feeds. -/
def lines : List UInt8 → List (List UInt8)
  | [] => []
  | b :: s =>
    if b = lineFeed then [] :: lines s
    else
      match lines s with
      | [] => [[b]]
      | l :: ls => (b :: l) :: ls

/-- The first complete line of a stream and the bytes after its line
feed, or nothing when the stream holds no line feed. -/
def takeLine? : List UInt8 → Option (List UInt8 × List UInt8)
  | [] => none
  | b :: s =>
    if b = lineFeed then some ([], s)
    else (takeLine? s).map fun (line, rest) => (b :: line, rest)

example : lines [97, 10, 10, 98] = [[97], [], [98]] := by decide
example : lines [97, 10] = [[97]] := by decide
example : takeLine? [97, 10, 98] = some ([97], [98]) := by decide

end CountingHouse.Text
