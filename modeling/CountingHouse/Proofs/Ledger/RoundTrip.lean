/-
CountingHouse.Proofs.Ledger.RoundTrip — a ledger that is written and
read again holds the same accounts.

`read_write` is stated for every table a bank can have. What it needs of
the table is `Table.Sound`: no id stands twice, so no line is taken for a
duplicate, and each history is within its bound and under its own id, so
nothing of it is left out or filed elsewhere. What it needs of the bank's
name is something else than blanks, without which the header would not be
recognized, and that neither the name nor the time breaks the line they
stand on.

Only the count of transactions is not kept (`Table.reloaded`), and a
count is not written. So the text no longer changes once it has been
written by the bank.
-/
import CountingHouse.Proofs.Ledger.Document
import CountingHouse.Proofs.Ledger.Reachable
import CountingHouse.Proofs.Stream

namespace CountingHouse

/-- The table as the ledger remembers it. -/
def Table.reloaded (t : Table) : Table :=
  { t with accounts := t.accounts.map Account.reloaded }

namespace Table

theorem toList_reloaded (t : Table) : t.reloaded.toList = t.toList.map Account.reloaded := by
  simp [reloaded, toList]

theorem ids_reloaded (t : Table) : t.reloaded.ids = t.ids := by
  rw [ids, toList_reloaded, List.map_map]
  rfl

theorem WellFormed.reloaded {t : Table} (h : t.WellFormed) : t.reloaded.WellFormed :=
  ⟨by rw [ids_reloaded]; exact h.distinct, by rw [ids_reloaded]; exact h.indexed⟩

/-- The accounts determine a well-formed table. -/
theorem WellFormed.ext {t u : Table} (ht : t.WellFormed) (hu : u.WellFormed)
    (h : t.toList = u.toList) : t = u :=
  ext_toList h (by rw [ht.indexed, hu.indexed, ids, ids, h])

end Table

namespace Ledger

/-! ## Writing -/

/-- A ledger is sent line by line, but it is taken as its bytes would be. -/
theorem writeEach_linesOf (t : Table) (bank stamp : String) (sink : Sink) :
    sink.writeEach ((linesOf t bank stamp).map lineBytes) = sink.write (render t bank stamp) := by
  rw [Sink.writeEach_eq_write, render, List.flatMap_def]

/-- Nothing keeps a ledger from being written whole. -/
theorem write_unbounded (t : Table) (bank stamp : String) :
    write t bank stamp .unbounded =
      (.ok (), { Sink.unbounded with taken := render t bank stamp }) := by
  rw [write, writeEach_linesOf]
  rfl

/-- What is written says nothing of the counts. -/
theorem linesOf_reloaded (t : Table) (bank stamp : String) :
    linesOf t.reloaded bank stamp = linesOf t bank stamp := by
  rw [linesOf, linesOf, Table.toList_reloaded, List.map_map]
  rfl

theorem render_reloaded (t : Table) (bank stamp : String) :
    render t.reloaded bank stamp = render t bank stamp := by
  rw [render, render, linesOf_reloaded]

theorem write_reloaded (t : Table) (bank stamp : String) (sink : Sink) :
    write t.reloaded bank stamp sink = write t bank stamp sink := by
  rw [write, write, linesOf_reloaded]

/-! ## The lines that are written -/

theorem newline_not_mem_formatAccount (a : Account) : '\n' ∉ formatAccount a := by
  have hblank : ∀ {w : List Char}, Text.IsWord w → '\n' ∉ w := by
    intro w hw hmem
    exact absurd (hw.notBlank _ hmem) (by decide)
  have htail : '\n' ∉ Text.spaced (tailOf a) := by
    intro h
    obtain ⟨w, hw, hmem⟩ := List.mem_flatMap.mp h
    rcases List.mem_cons.mp hmem with h | hmem
    · exact absurd h (by decide)
    · exact hblank (isWord_of_mem_tailOf hw) hmem
  have hmark : '\n' ∉ (if a.isDeleted then ['#', ' '] else []) := by
    split <;> decide
  rw [formatAccount_eq, bodyOf]
  simp only [List.mem_append, not_or]
  exact ⟨hmark, hblank a.bankId.isWord, htail⟩

theorem newline_not_mem_header {bank stamp : String} (hbank : '\n' ∉ bank.toList)
    (hstamp : '\n' ∉ stamp.toList) : '\n' ∉ header bank stamp := by
  have hmark : '\n' ∉ headerMark := by decide
  simp [header, hbank, hstamp, hmark]

theorem lines_render (t : Table) {bank stamp : String} (hbank : '\n' ∉ bank.toList)
    (hstamp : '\n' ∉ stamp.toList) :
    Text.lines (render t bank stamp) =
      Text.encode (header bank stamp) ::
        (t.toList.map fun a => Text.encode (formatAccount a)) ++ [Text.encode footer] := by
  have hlines : ∀ s ∈ linesOf t bank stamp, '\n' ∉ s := by
    intro s hs
    simp only [linesOf, List.cons_append, List.mem_cons, List.mem_append, List.mem_map,
      List.not_mem_nil, or_false] at hs
    rcases hs with rfl | ⟨a, _, rfl⟩ | rfl
    · exact newline_not_mem_header hbank hstamp
    · exact newline_not_mem_formatAccount a
    · decide
  rw [render, show lineBytes = fun s => Text.encode s ++ [Text.lineFeed] from rfl,
    Text.lines_flatMap hlines]
  simp [linesOf, Function.comp_def]

/-! ## Reading them -/

/-- A line that is passed over leaves the table as it is. -/
theorem takeLine_skipped {line : List UInt8} (h : judge line = .skipped) (t : Table)
    (number : Nat) : (takeLine t number line).1 = t := by
  rw [takeLine, h]

theorem Entry.bankId_account (e : Entry) : e.account.bankId = e.id := by
  rw [Entry.account, Account.restored_eq]

/-- A line that describes an account with a new id adds the account. -/
theorem takeLine_entry {line : List UInt8} {e : Entry} (h : judge line = .entry e) {t : Table}
    (hnew : t.find? e.id = none) (number : Nat) :
    (takeLine t number line).1 = t.add e.account := by
  have hinsert : t.insertLoaded e.account = (some t.size, t.add e.account) := by
    rw [Table.insertLoaded, e.bankId_account, hnew]
  rw [takeLine, h]
  simp only [hinsert]

/-- A line that describes an account whose id is taken changes nothing. -/
theorem takeLine_entry_of_taken {line : List UInt8} {e : Entry} (h : judge line = .entry e)
    {t : Table} {i : Nat} (htaken : t.find? e.id = some i) (number : Nat) :
    (takeLine t number line).1 = t := by
  have hinsert : t.insertLoaded e.account = (none, t) := by
    rw [Table.insertLoaded, e.bankId_account, htaken]
  rw [takeLine, h]
  simp only [hinsert]

/-- The line of an account with a new id adds the account. -/
theorem takeLine_formatAccount {t : Table} {a : Account} (ha : a.Filed)
    (hnew : t.find? a.bankId = none) (number : Nat) :
    (takeLine t number (Text.encode (formatAccount a))).1 = t.add a.reloaded := by
  rw [takeLine_entry (judge_formatAccount ha) hnew, Entry.account, ha.restored_eq]

/-- The lines of accounts add those whose ids are new, in order. -/
theorem takeLines_formatAccount {t : Table} (ht : t.WellFormed) {accounts : List Account}
    (hfiled : ∀ a ∈ accounts, a.Filed) (hdistinct : (accounts.map Account.bankId).Nodup)
    (number : Nat) (rest : List (List UInt8)) :
    ∃ u number', u.WellFormed ∧
      u.toList = t.toList ++ (accounts.filter (·.bankId ∉ t.ids)).map Account.reloaded ∧
      (takeLines t number
        ((accounts.map fun a => Text.encode (formatAccount a)) ++ rest)).1 =
        (takeLines u number' rest).1 := by
  induction accounts generalizing t number with
  | nil => exact ⟨t, number, ht, by simp, rfl⟩
  | cons a accounts ih =>
    have ha : a.Filed := hfiled a List.mem_cons_self
    have hrest := fun b hb => hfiled b (List.mem_cons_of_mem a hb)
    obtain ⟨hother, hdistinct⟩ := List.nodup_cons.mp hdistinct
    cases hfind : t.find? a.bankId with
    | none =>
      have hnew : a.bankId ∉ t.ids := ht.find?_eq_none_iff.mp hfind
      obtain ⟨u, number', hu, hlist, hread⟩ :=
        ih (ht.add (a := a.reloaded) hfind) hrest hdistinct (number + 1)
      -- no other account on the list has the id that is now taken
      have hfilter : accounts.filter (·.bankId ∉ (t.add a.reloaded).ids) =
          accounts.filter (·.bankId ∉ t.ids) := by
        refine List.filter_congr fun b hb => ?_
        have hne : b.bankId ≠ a.bankId := fun heq =>
          hother (heq ▸ List.mem_map_of_mem hb)
        have hid : a.reloaded.bankId = a.bankId := rfl
        simp [Table.ids_add, hid, hne]
      refine ⟨u, number', hu, ?_, ?_⟩
      · rw [hlist, hfilter, Table.toList_add, List.filter_cons_of_pos (by simpa using hnew),
          List.append_assoc]
        rfl
      · rw [List.map_cons, List.cons_append, takeLines_cons,
          takeLine_formatAccount ha hfind, hread]
    | some i =>
      have htaken : a.bankId ∈ t.ids := ht.mem_ids_of_find? hfind
      obtain ⟨u, number', hu, hlist, hread⟩ := ih ht hrest hdistinct (number + 1)
      refine ⟨u, number', hu, ?_, ?_⟩
      · rw [hlist, List.filter_cons_of_neg (by simpa using htaken)]
      · rw [List.map_cons, List.cons_append, takeLines_cons,
          takeLine_entry_of_taken (judge_formatAccount ha) hfind, hread]

/-- What a ledger is read as, depending on what its header is read as. -/
theorem toList_readBytes_render {t : Table} (ht : t.Sound) {bank stamp : String}
    (hbank : '\n' ∉ bank.toList) (hstamp : '\n' ∉ stamp.toList) {v : Table} (hv : v.WellFormed)
    (hheader : (takeLine .empty 1 (Text.encode (header bank stamp))).1 = v) :
    (readBytes (render t bank stamp)).1.toList =
      v.toList ++ (t.toList.filter (·.bankId ∉ v.ids)).map Account.reloaded := by
  obtain ⟨u, number, _, hlist, hrest⟩ :=
    takeLines_formatAccount hv ht.filed ht.distinct 2 [Text.encode footer]
  rw [readBytes, lines_render t hbank hstamp, List.cons_append, takeLines_cons, hheader, hrest,
    takeLines_cons, takeLine_skipped judge_footer]
  exact hlist

/-- Reading what was written of a sound table gives its accounts. -/
theorem readBytes_render {t : Table} (ht : t.Sound) {bank stamp : String}
    (hname : ∃ c ∈ bank.toList, Text.isBlank c = false) (hbank : '\n' ∉ bank.toList)
    (hstamp : '\n' ∉ stamp.toList) :
    (readBytes (render t bank stamp)).1 = t.reloaded := by
  have hlist := toList_readBytes_render ht hbank hstamp .empty
    (takeLine_skipped (judge_header hname stamp) .empty 1)
  have hall : t.toList.filter (·.bankId ∉ Table.empty.ids) = t.toList :=
    List.filter_eq_self.mpr fun _ _ => rfl
  rw [hall] at hlist
  refine Table.WellFormed.ext (sound_readBytes _).toWellFormed ht.toWellFormed.reloaded ?_
  rw [Table.toList_reloaded]
  exact hlist

/-! ## Both together -/

/-- What becomes of a ledger that a bank reads and writes anew. -/
def rewritten (bank stamp : String) (file : List UInt8) : Except LedgerError (List UInt8) :=
  match read (.ofBytes file) with
  | .error e => .error e
  | .ok (t, _) => .ok (write t bank stamp .unbounded).2.taken

theorem rewritten_eq (bank stamp : String) (file : List UInt8) :
    rewritten bank stamp file = .ok (render (readBytes file).1 bank stamp) := by
  rw [rewritten, show read (.ofBytes file) = .ok (readBytes file) from rfl]
  simp only [write_unbounded]

/-- **A written ledger is read back**: the same accounts in the same
order, with their ids, credits and histories. Writing them anew gives the
same bytes, so a ledger of whatever origin has its final form once it has
been read and written. -/
theorem read_write {t : Table} (ht : Reachable t) {bank stamp : String}
    (hname : ∃ c ∈ bank.toList, Text.isBlank c = false) (hbank : '\n' ∉ bank.toList)
    (hstamp : '\n' ∉ stamp.toList) :
    (∃ bytes notices,
      write t bank stamp .unbounded = (.ok (), { Sink.unbounded with taken := bytes }) ∧
      read (.ofBytes bytes) = .ok (t.reloaded, notices) ∧
      write t.reloaded bank stamp .unbounded =
        (.ok (), { Sink.unbounded with taken := bytes })) ∧
    ∀ file, ∃ once, rewritten bank stamp file = .ok once ∧
      rewritten bank stamp once = .ok once := by
  refine ⟨⟨render t bank stamp, (readBytes (render t bank stamp)).2, ?_, ?_, ?_⟩, ?_⟩
  · exact write_unbounded t bank stamp
  · rw [← readBytes_render ht.sound hname hbank hstamp]
    rfl
  · rw [write_unbounded, render_reloaded]
  · intro file
    refine ⟨render (readBytes file).1 bank stamp, rewritten_eq bank stamp file, ?_⟩
    rw [rewritten_eq, readBytes_render (sound_readBytes file) hname hbank hstamp,
      render_reloaded]

/-- A new account with five credits, in the ledger of a bank whose name
has a blank in it. -/
theorem read_write_one_deposit :
    let t := ((Table.empty.getOrCreate "N").2.apply 0 ⟨⟨"N", by decide⟩, .deposit, 5⟩).2
    (∃ bytes notices,
      write t "Ada Bank" "09:30 March 02 2025" .unbounded =
        (.ok (), { Sink.unbounded with taken := bytes }) ∧
      read (.ofBytes bytes) = .ok (t.reloaded, notices) ∧
      write t.reloaded "Ada Bank" "09:30 March 02 2025" .unbounded =
        (.ok (), { Sink.unbounded with taken := bytes })) ∧
    ∀ file, ∃ once, rewritten "Ada Bank" "09:30 March 02 2025" file = .ok once ∧
      rewritten "Ada Bank" "09:30 March 02 2025" once = .ok once :=
  read_write (.apply (.getOrCreate .empty "N") 0 ⟨⟨"N", by decide⟩, .deposit, 5⟩)
    ⟨'A', by decide, by decide⟩ (by decide) (by decide)

end Ledger

end CountingHouse
