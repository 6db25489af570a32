/-
CountingHouse.Ledger.File — the ledger file of one bank.

The file is named after the bank and belongs to the server alone. It is
read once, when the bank opens, and from then on written anew as a whole:
the text is prepared first, then the file is emptied and written from
its beginning. When the file cannot take the whole text, what it took is
the beginning of the new text and nothing of the old one.
-/
import CountingHouse.Ledger.Document
import CountingHouse.Volume

namespace CountingHouse.Ledger

/-- The path of a bank's ledger in a directory. -/
def pathFor (directory bank : String) : String :=
  Path.join directory (bank ++ ".bankLog")

/-- The ledger of an open bank. -/
structure LedgerFile where
  path : String
  bank : String
  file : OpenFile
  deriving DecidableEq, Repr

/-- What one attempt to write the ledger meets with: the time it is made
at, and how large the file may become. -/
structure Conditions where
  stamp : String
  limit : Option Nat
  deriving DecidableEq, Repr

/-- Reads the ledger of a bank, or makes an empty one where none is. Every
failure but a missing file is an error. -/
def openFile (v : Volume) (directory bank : String) :
    Except LedgerError (LedgerFile × Table) × Volume :=
  let path := pathFor directory bank
  match v.openWritable path with
  | .ok place =>
    let bytes := v.contents place
    (.ok (⟨path, bank, ⟨place, bytes.length⟩⟩, (readBytes bytes).1), v)
  | .error fault =>
    if fault.kind = .notFound then
      match v.create path with
      | .ok (place, v) => (.ok (⟨path, bank, ⟨place, 0⟩⟩, .empty), v)
      | .error fault => (.error (.openFailed path fault), v)
    else (.error (.openFailed path fault), v)

/-- Replaces the contents of the file by the given table. -/
def LedgerFile.flush (l : LedgerFile) (t : Table) (c : Conditions) (v : Volume) :
    Except LedgerError Unit × LedgerFile × Volume :=
  let text := render t l.bank c.stamp
  let v := l.file.truncate v
  match l.file.rewind.write v c.limit text with
  | (.ok (), file, v) => (.ok (), { l with file }, v)
  | (.error fault, file, v) => (.error (.ioFailed fault), { l with file }, v)

end CountingHouse.Ledger
