/-
CountingHouse.Proofs.Ledger.File — what writing a ledger anew leaves in
its file.

The file is emptied and written from its beginning, so what was in it and
where an earlier attempt has left off does not matter. An attempt leaves
the beginning of the new text, and one that succeeds leaves all of it
(`contents_flush`). The file stays where the bank has found it, so whoever
opens the bank anew reads what was written last (`openFile_of_leads`).
-/
import CountingHouse.Ledger.File
import CountingHouse.Proofs.Volume

namespace CountingHouse

namespace OpenFile

/-- The bytes that a file takes. -/
def fitting (f : OpenFile) (limit : Option Nat) (bytes : List UInt8) : List UInt8 :=
  limit.elim bytes fun n => bytes.take (n - f.position)

theorem fitting_prefix (f : OpenFile) (limit : Option Nat) (bytes : List UInt8) :
    f.fitting limit bytes <+: bytes := by
  cases limit with
  | none => exact List.prefix_rfl
  | some n => exact List.take_prefix _ bytes

theorem write_eq (f : OpenFile) (v : Volume) (limit : Option Nat) (bytes : List UInt8) :
    f.write v limit bytes =
      (if (f.fitting limit bytes).length = bytes.length then .ok ()
        else .error (.system .fileTooLarge),
        { f with position := f.position + (f.fitting limit bytes).length },
        if (f.fitting limit bytes).isEmpty then v
        else v.put f.place
          (.file (overwrite (v.contents f.place) f.position (f.fitting limit bytes)))) := by
  by_cases h : (f.fitting limit bytes).length = bytes.length
  · rw [if_pos h]
    cases limit <;> exact if_pos h
  · rw [if_neg h]
    cases limit <;> exact if_neg h

/-- A file that has been emptied holds what was written from its
beginning. -/
theorem contents_write {f : OpenFile} {v : Volume} (hplace : f.place ≠ [])
    (hstart : f.position = 0) (hempty : v.contents f.place = []) (limit : Option Nat)
    (bytes : List UInt8) :
    (f.write v limit bytes).2.2.contents f.place = f.fitting limit bytes := by
  rw [write_eq, hstart, hempty]
  by_cases h : (f.fitting limit bytes).isEmpty = true
  · simp [hempty, List.isEmpty_iff.mp h]
  · simp [h, Volume.contents_put_self v hplace, overwrite]

end OpenFile

namespace Ledger.LedgerFile

/-- The bytes in the file of a ledger. -/
def contents (l : LedgerFile) (v : Volume) : List UInt8 :=
  v.contents l.file.place

variable (l : LedgerFile) (t : Table) (c : Conditions) (v : Volume)

theorem flush_eq :
    let written := l.file.rewind.write (l.file.truncate v) c.limit (render t l.bank c.stamp)
    l.flush t c v =
      (written.1.mapError .ioFailed, { l with file := written.2.1 }, written.2.2) := by
  unfold flush
  simp only
  cases l.file.rewind.write (l.file.truncate v) c.limit (render t l.bank c.stamp) with
  | mk result rest =>
    cases result with
    | ok done => rfl
    | error fault => rfl

theorem bank_flush : (l.flush t c v).2.1.bank = l.bank := by
  rw [flush_eq]

theorem place_flush : (l.flush t c v).2.1.file.place = l.file.place := by
  rw [flush_eq, OpenFile.write_eq]
  rfl

/-- **An attempt leaves the beginning of the new text**, and all of it when
it succeeds. -/
theorem contents_flush (h : l.file.place ≠ []) :
    (l.flush t c v).2.1.contents (l.flush t c v).2.2 <+: render t l.bank c.stamp ∧
      ((l.flush t c v).1 = .ok () →
        (l.flush t c v).2.1.contents (l.flush t c v).2.2 = render t l.bank c.stamp) := by
  have hcontents : (l.flush t c v).2.1.contents (l.flush t c v).2.2 =
      l.file.rewind.fitting c.limit (render t l.bank c.stamp) := by
    have hempty := v.contents_put_self h []
    rw [contents, place_flush, flush_eq]
    exact OpenFile.contents_write (f := l.file.rewind) h rfl hempty c.limit
      (render t l.bank c.stamp)
  rw [hcontents]
  refine ⟨OpenFile.fitting_prefix _ _ _, fun hok => ?_⟩
  rw [flush_eq, OpenFile.write_eq] at hok
  by_cases hwhole : (l.file.rewind.fitting c.limit (render t l.bank c.stamp)).length =
      (render t l.bank c.stamp).length
  · exact (OpenFile.fitting_prefix _ _ _).eq_of_length hwhole
  · simp only [if_neg hwhole] at hok
    cases hok

/-- A file that may become as large as it has to can be written. -/
theorem flush_of_unlimited (h : c.limit = none) : (l.flush t c v).1 = .ok () := by
  have hall : l.file.rewind.fitting none (render t l.bank c.stamp) = render t l.bank c.stamp := rfl
  rw [flush_eq, OpenFile.write_eq, h, hall, if_pos rfl]
  rfl

/-- The path of the ledger leads to its file as before. -/
theorem openWritable_flush {path : String} (h : v.openWritable path = .ok l.file.place) :
    (l.flush t c v).2.2.openWritable path = .ok l.file.place := by
  have hempty : (l.file.truncate v).openWritable path = .ok l.file.place :=
    Volume.openWritable_put h (Volume.not_directory_of_openWritable h) nofun
  rw [flush_eq, OpenFile.write_eq]
  simp only
  split
  · exact hempty
  · exact Volume.openWritable_put hempty (Volume.not_directory_of_openWritable hempty) nofun

end Ledger.LedgerFile

namespace Ledger

/-- Opening a bank reads the file that its path leads to. -/
theorem openFile_of_leads {v : Volume} {directory bank : String} {place : Place}
    (h : v.openWritable (pathFor directory bank) = .ok place) :
    openFile v directory bank =
      (.ok (⟨pathFor directory bank, bank, ⟨place, (v.contents place).length⟩⟩,
        (readBytes (v.contents place)).1), v) := by
  simp only [openFile, h]

/-- However a bank was opened, its path leads to its file, and the table
is what this file is read as. -/
theorem leads_of_openFile {v v' : Volume} {directory bank : String} {l : LedgerFile} {t : Table}
    (h : openFile v directory bank = (.ok (l, t), v')) :
    l.bank = bank ∧ v'.openWritable (pathFor directory bank) = .ok l.file.place ∧
      t = (readBytes (l.contents v')).1 := by
  unfold openFile at h
  simp only at h
  split at h
  · next place hopen =>
    obtain ⟨hresult, rfl⟩ := Prod.mk.inj h
    obtain ⟨rfl, rfl⟩ := Prod.mk.inj (Except.ok.inj hresult)
    exact ⟨rfl, hopen, rfl⟩
  · next fault hmissing =>
    split at h
    · next hkind =>
      split at h
      · next place made hcreate =>
        obtain ⟨hresult, rfl⟩ := Prod.mk.inj h
        obtain ⟨rfl, rfl⟩ := Prod.mk.inj (Except.ok.inj hresult)
        obtain ⟨hleads, hcontents⟩ := Volume.openWritable_create hmissing hkind hcreate
        refine ⟨rfl, hleads, ?_⟩
        rw [LedgerFile.contents, hcontents]
        rfl
      · cases h
    · cases h

end Ledger

end CountingHouse
