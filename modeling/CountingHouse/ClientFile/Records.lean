/-
CountingHouse.ClientFile.Records — bytes as records of fields.

Fields are separated by single blanks and records by line ends: a line
feed, a carriage return, or both in this order. Lines without content
are no records. A field that begins with a quote runs to the next quote,
blanks and line ends included, and a doubled quote inside it stands for
one; what follows the closing quote is taken as it is. A quote anywhere
else in a field is an ordinary byte.

The scanner reads one byte at a time. Between two bytes it knows where
in a record it stands, the fields it has read and the field it is
reading.
-/
import CountingHouse.Text.Utf8

namespace CountingHouse.ClientFile

/-! ## Bytes that matter -/

/-- The byte between two fields. -/
def delimiter : UInt8 := 0x20

/-- The byte that opens and closes a quoted field. -/
def quoteMark : UInt8 := 0x22

/-- Does the byte end a line? -/
def endsLine (b : UInt8) : Bool :=
  b = 0x0A || b = 0x0D

/-! ## The scanner -/

/-- The bytes of a field. -/
abbrev Field := List UInt8

/-- The fields of a record. -/
abbrev RawRecord := List Field

/-- Where in a record the scanner stands. -/
inductive Position where
  /-- Before the first field of a record. -/
  | betweenRecords
  /-- After a blank, before the field it opens. -/
  | fieldStart
  /-- Inside a field, not inside quotes. -/
  | plain
  /-- Inside quotes. -/
  | quoted
  /-- After a quote that closes the field or is the first of two. -/
  | afterQuote
  deriving DecidableEq, Repr

/-- What the scanner knows between two bytes. -/
structure Scan where
  position : Position
  /-- The complete fields of the record. -/
  fields : List Field
  /-- The bytes of the field that is being read. -/
  field : Field
  deriving DecidableEq, Repr

namespace Scan

/-- The scanner before the first byte. -/
def start : Scan :=
  ⟨.betweenRecords, [], []⟩

/-- The record that ends here, the field being read included. -/
def closed (s : Scan) : RawRecord :=
  s.fields ++ [s.field]

/-- Adds a byte to the field. -/
def keep (s : Scan) (position : Position) (b : UInt8) : Scan :=
  { s with position, field := s.field ++ [b] }

/-- Reads a byte that is part of no quoted text: a blank ends the field,
a line end ends the record, any other byte is kept. -/
def outside (s : Scan) (b : UInt8) : List RawRecord × Scan :=
  if b = delimiter then ([], ⟨.fieldStart, s.closed, []⟩)
  else if endsLine b then ([s.closed], start)
  else ([], s.keep .plain b)

/-- Reads a byte at the beginning of a field. -/
def atFieldStart (s : Scan) (b : UInt8) : List RawRecord × Scan :=
  if b = quoteMark then ([], { s with position := .quoted }) else s.outside b

/-- Reads one byte: the record it completes, if it does, and what is
known after it. -/
def feed (s : Scan) (b : UInt8) : List RawRecord × Scan :=
  match s.position with
  | .betweenRecords => if endsLine b then ([], start) else s.atFieldStart b
  | .fieldStart => s.atFieldStart b
  | .plain => s.outside b
  | .quoted =>
    if b = quoteMark then ([], { s with position := .afterQuote }) else ([], s.keep .quoted b)
  | .afterQuote => if b = quoteMark then ([], s.keep .quoted b) else s.outside b

/-- The record that the end of the text completes, if it does. -/
def finish (s : Scan) : List RawRecord :=
  if s.position = .betweenRecords then [] else [s.closed]

end Scan

/-- Reads bytes: the records they complete, and what is known after them. -/
def scan (s : Scan) : List UInt8 → List RawRecord × Scan
  | [] => ([], s)
  | b :: rest =>
    let (first, s) := s.feed b
    let (more, s) := scan s rest
    (first ++ more, s)

/-- Drops the byte order mark a text may begin with. -/
def dropMark : List UInt8 → List UInt8
  | 0xEF :: 0xBB :: 0xBF :: rest => rest
  | bytes => bytes

/-- The records of a text. -/
def records (bytes : List UInt8) : List RawRecord :=
  let (complete, s) := scan .start (dropMark bytes)
  complete ++ s.finish

example : records (Text.encode "a \"b c\" d\r\n\ne ".toList) =
    [["a", "b c", "d"], ["e", ""]].map (·.map fun f => Text.encode f.toList) := by
  decide +kernel

end CountingHouse.ClientFile
