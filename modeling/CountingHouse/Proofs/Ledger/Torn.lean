/-
CountingHouse.Proofs.Ledger.Torn — a ledger that is cut off loses what is
behind the cut and nothing else.

When a disk is full the first bytes of a ledger are in the file and the
others are not (`write_limited`). The lines before the cut are whole and
are read as ever, and the next line is read as what is left of it. A
header or a footer then adds no account, and the line of an account adds
that account or none. `Remains` says so of the lines behind any point, and
`read_torn` of a ledger.
-/
import CountingHouse.Proofs.Ledger.RoundTrip
import CountingHouse.Proofs.Ledger.TornLine

namespace CountingHouse.Ledger

/-! ## Writing where there is little room -/

theorem write_limited (t : Table) (bank stamp : String) {sink : Sink} {n : Nat}
    (hempty : sink.taken = []) (hroom : sink.room = some n) :
    (write t bank stamp sink).2.taken = (render t bank stamp).take n ∧
      ((write t bank stamp sink).1 = .ok () ↔
        (render t bank stamp).length ≤ n ∧ sink.flushFault = none) := by
  have htaken : sink.accepted (render t bank stamp) = (render t bank stamp).take n := by
    rw [Sink.accepted, hroom]
  rw [write, writeEach_linesOf, Sink.write_eq, htaken]
  by_cases hfits : (render t bank stamp).length ≤ n
  · simp [hfits, hempty, htaken, Sink.flush_eq_ok_iff]
  · simp [hfits, hempty, htaken]

/-! ## Reading what is there -/

/-- The lines of accounts. -/
def accountLines (accounts : List Account) : List UInt8 :=
  accounts.flatMap fun a => lineBytes (formatAccount a)

theorem accountLines_cons (a : Account) (accounts : List Account) :
    accountLines (a :: accounts) = lineBytes (formatAccount a) ++ accountLines accounts := rfl

theorem render_eq (t : Table) (bank stamp : String) :
    render t bank stamp =
      lineBytes (header bank stamp) ++ (accountLines t.toList ++ lineBytes footer) := by
  simp [render, linesOf, accountLines, List.flatMap_map]

/-- What is left of accounts when only the first `n` bytes are there of a
text in which their lines begin behind `start` bytes. The accounts that are
read are the first `k`, and then what is found in the line that is cut
off. -/
structure Remains (accounts : List Account) (start n : Nat) (read : List Account) (k : Nat)
    (further : List Account) : Prop where
  /-- The lines of the first `k` accounts, and no others, lie wholly within
  these bytes. -/
  within : ∀ i, i < k ↔
    i < accounts.length ∧ start + (accountLines (accounts.take (i + 1))).length ≤ n
  read : read = (accounts.take k).map Account.reloaded ++ further
  /-- At most one account more is found, and it has the next id. -/
  one : further = [] ∨ ∃ a ∈ accounts[k]?, ∃ b, b.bankId = a.bankId ∧ further = [b]
  /-- It is the next account if all of its line but the line feed is
  there. -/
  whole : ∀ a ∈ accounts[k]?, start + (accountLines (accounts.take k)).length +
    (Text.encode (formatAccount a)).length ≤ n → further = [a.reloaded]

namespace Remains

theorem nil (start n : Nat) : Remains [] start n [] 0 [] where
  within := by simp
  read := rfl
  one := .inl rfl
  whole := nofun

/-- Nothing is left when the text ends before the lines begin. -/
theorem of_lt {start n : Nat} (h : n < start) (accounts : List Account) :
    Remains accounts start n [] 0 [] where
  within := by
    intro i
    constructor
    · exact fun hi => absurd hi (Nat.not_lt_zero i)
    · rintro ⟨_, hlength⟩
      omega
  read := rfl
  one := .inl rfl
  whole := by
    intro a _ hlength
    omega

variable {a : Account} {accounts read further : List Account} {start n k : Nat}

theorem cons (h : Remains accounts (start + (lineBytes (formatAccount a)).length) n read k further)
    (hfits : start + (lineBytes (formatAccount a)).length ≤ n) :
    Remains (a :: accounts) start n (a.reloaded :: read) (k + 1) further where
  within := by
    intro i
    cases i with
    | zero => simp [accountLines, hfits]
    | succ i =>
      have hi := h.within i
      rw [List.take_succ_cons, accountLines_cons, List.length_append, List.length_cons]
      omega
  read := by rw [h.read, List.take_succ_cons, List.map_cons, List.cons_append]
  one := h.one
  whole := by
    intro b hb hlength
    refine h.whole b hb ?_
    rw [List.take_succ_cons, accountLines_cons, List.length_append] at hlength
    omega

/-- The first line is cut off. -/
theorem of_torn (hcut : n < start + (lineBytes (formatAccount a)).length)
    (hone : further = [] ∨ ∃ b, b.bankId = a.bankId ∧ further = [b])
    (hwhole : start + (Text.encode (formatAccount a)).length ≤ n → further = [a.reloaded]) :
    Remains (a :: accounts) start n further 0 further where
  within := by
    intro i
    constructor
    · exact fun hi => absurd hi (Nat.not_lt_zero i)
    · rintro ⟨_, hlength⟩
      rw [List.take_succ_cons, accountLines_cons, List.length_append] at hlength
      omega
  read := rfl
  one := by
    rcases hone with h | ⟨b, hid, h⟩
    · exact .inl h
    · exact .inr ⟨a, rfl, b, hid, h⟩
  whole := by
    intro b hb hlength
    obtain rfl : a = b := Option.some.inj hb
    exact hwhole hlength

end Remains

theorem takeLine_of_no_entry {line : List UInt8} (h : ∀ e, judge line ≠ .entry e) (u : Table)
    (number : Nat) : (takeLine u number line).1 = u := by
  rcases takeLine_cases u number line with ⟨e, he, _⟩ | hsame
  · exact absurd he (h e)
  · exact hsame

/-- The line of a new account, cut off anywhere, adds that account or
none. -/
theorem takeLine_torn_account {u : Table} {a : Account} (ha : a.Filed)
    (hnew : u.find? a.bankId = none) (number m : Nat) :
    ∃ further,
      (takeLine u number ((Text.encode (formatAccount a)).take m)).1.toList =
        u.toList ++ further ∧
      (further = [] ∨ ∃ b, b.bankId = a.bankId ∧ further = [b]) ∧
      ((Text.encode (formatAccount a)).length ≤ m → further = [a.reloaded]) := by
  by_cases hwhole : (Text.encode (formatAccount a)).length ≤ m
  · refine ⟨[a.reloaded], ?_, .inr ⟨a.reloaded, rfl, rfl⟩, fun _ => rfl⟩
    rw [List.take_of_length_le hwhole, takeLine_formatAccount ha hnew, Table.toList_add]
  · have htorn := Text.isTorn_decodeLossy_take (formatAccount a) m
    by_cases hentry : ∃ e, judge ((Text.encode (formatAccount a)).take m) = .entry e
    · obtain ⟨e, he⟩ := hentry
      have hid : e.id = a.bankId := id_of_torn_account htorn he
      refine ⟨[e.account], ?_, .inr ⟨e.account, ?_, rfl⟩, fun h => absurd h hwhole⟩
      · rw [takeLine_entry he (by rw [hid]; exact hnew), Table.toList_add]
      · rw [e.bankId_account, hid]
    · refine ⟨[], ?_, .inl rfl, fun h => absurd h hwhole⟩
      rw [takeLine_of_no_entry (not_exists.mp hentry), List.append_nil]

/-- Bytes without a line feed are taken as one line. -/
theorem takeLines_lines {line : List UInt8} (h : Text.lineFeed ∉ line) (u : Table)
    (number : Nat) : (takeLines u number (Text.lines line)).1 = (takeLine u number line).1 := by
  rw [Text.lines_of_not_mem h]
  split
  · next hempty =>
    subst hempty
    rfl
  · rfl

/-- A text that is cut off has its first line whole, or it is cut off
within that line. -/
theorem takeLines_take {line : List Char} (h : '\n' ∉ line) (u : Table) (number : Nat)
    (rest : List UInt8) (n : Nat) :
    (takeLines u number (Text.lines ((lineBytes line ++ rest).take n))).1 =
      if (lineBytes line).length ≤ n then
        (takeLines (takeLine u number (Text.encode line)).1 (number + 1)
          (Text.lines (rest.take (n - (lineBytes line).length)))).1
      else (takeLine u number ((Text.encode line).take n)).1 := by
  have hline := Text.lineFeed_not_mem_encode h
  have hlength : (lineBytes line).length = (Text.encode line).length + 1 := by
    simp [lineBytes]
  rw [hlength, lineBytes, List.append_assoc, List.singleton_append, Text.lines_take hline]
  by_cases hwhole : (Text.encode line).length < n
  · rw [if_pos hwhole, if_pos (Nat.succ_le_of_lt hwhole), takeLines_cons]
  · rw [if_neg hwhole, if_neg (by omega),
      takeLines_lines fun hmem => hline (List.mem_of_mem_take hmem)]

/-- A line without an account, whole or cut off, leaves the table as it
is. -/
theorem takeLines_of_no_entry {line : List Char} (h : '\n' ∉ line)
    (hno : ∀ m e, judge ((Text.encode line).take m) ≠ .entry e) (u : Table) (number n : Nat) :
    (takeLines u number (Text.lines ((lineBytes line).take n))).1 = u := by
  have hwhole : ∀ e, judge (Text.encode line) ≠ .entry e := by
    have h := hno (Text.encode line).length
    rwa [List.take_length] at h
  have hread := takeLines_take h u number [] n
  rw [List.append_nil, List.take_nil, takeLine_of_no_entry hwhole,
    takeLine_of_no_entry (hno n)] at hread
  rw [hread]
  split <;> rfl

/-- **What is read of accounts whose lines are cut off.** -/
theorem remains_accounts {u : Table} (hu : u.WellFormed) {accounts : List Account}
    (hfiled : ∀ a ∈ accounts, a.Filed) (hnew : (u.ids ++ accounts.map Account.bankId).Nodup)
    (number : Nat) {start n : Nat} (hstart : start ≤ n) :
    ∃ read k further, Remains accounts start n read k further ∧
      (takeLines u number
        (Text.lines ((accountLines accounts ++ lineBytes footer).take (n - start)))).1.toList =
        u.toList ++ read := by
  induction accounts generalizing u number start with
  | nil =>
    refine ⟨[], 0, [], .nil start n, ?_⟩
    have hline : '\n' ∉ footer := by decide
    have hfooter := takeLines_of_no_entry hline
      (fun m e => judgeTrimmed_torn_footer (Text.isTorn_decodeLossy_take footer m) e)
      u number (n - start)
    rw [show accountLines [] = [] from rfl, List.nil_append, hfooter, List.append_nil]
  | cons a accounts ih =>
    have ha : a.Filed := hfiled a List.mem_cons_self
    have hfree : u.find? a.bankId = none := by
      rw [hu.find?_eq_none_iff]
      intro hmem
      exact (List.nodup_append.mp hnew).2.2 _ hmem _ List.mem_cons_self rfl
    rw [accountLines_cons, List.append_assoc, takeLines_take (newline_not_mem_formatAccount a)]
    by_cases hfits : (lineBytes (formatAccount a)).length ≤ n - start
    · -- the line is whole, and its account is added
      have hids : (u.add a.reloaded).ids ++ accounts.map Account.bankId =
          u.ids ++ (a :: accounts).map Account.bankId := by
        rw [Table.ids_add, List.append_assoc]
        rfl
      have hend : start + (lineBytes (formatAccount a)).length ≤ n := by omega
      obtain ⟨read, k, further, hremains, hread⟩ := ih (hu.add (a := a.reloaded) hfree)
        (fun b hb => hfiled b (List.mem_cons_of_mem a hb)) (by rw [hids]; exact hnew)
        (number + 1) hend
      refine ⟨a.reloaded :: read, k + 1, further, hremains.cons hend, ?_⟩
      rw [if_pos hfits, takeLine_formatAccount ha hfree, Nat.sub_sub, hread, Table.toList_add,
        List.append_assoc]
      rfl
    · obtain ⟨further, hread, hone, hwhole⟩ :=
        takeLine_torn_account ha hfree number (n - start)
      refine ⟨further, 0, further, .of_torn (by omega) hone fun h => hwhole (by omega), ?_⟩
      rw [if_neg hfits, hread]

/-- **What is read of a ledger that is cut off.** -/
theorem remains_readBytes {t : Table} (ht : t.Sound) {bank stamp : String}
    (hbank : Text.IsWord bank.toList) (hstamp : '\n' ∉ stamp.toList) (n : Nat) :
    ∃ k further, Remains t.toList (lineBytes (header bank stamp)).length n
      (readBytes ((render t bank stamp).take n)).1.toList k further := by
  have hline : '\n' ∉ bank.toList := fun hmem =>
    absurd (hbank.notBlank _ hmem) (by decide)
  have hheader : ∀ m e, judge ((Text.encode (header bank stamp)).take m) ≠ .entry e :=
    fun m e => judgeTrimmed_torn_header hbank (Text.isTorn_decodeLossy_take _ m) e
  have hwhole : ∀ e, judge (Text.encode (header bank stamp)) ≠ .entry e := by
    have h := hheader (Text.encode (header bank stamp)).length
    rwa [List.take_length] at h
  rw [readBytes, render_eq, takeLines_take (newline_not_mem_header hline hstamp)]
  by_cases hfits : (lineBytes (header bank stamp)).length ≤ n
  · obtain ⟨read, k, further, hremains, hread⟩ :=
      remains_accounts .empty ht.filed ht.distinct 2 hfits
    refine ⟨k, further, ?_⟩
    rw [if_pos hfits, takeLine_of_no_entry hwhole, hread]
    exact hremains
  · refine ⟨0, [], ?_⟩
    rw [if_neg hfits, takeLine_of_no_entry (hheader n)]
    exact .of_lt (Nat.lt_of_not_le hfits) _

/-- **A ledger that is cut off loses what is behind the cut.** A sink with
room for `n` bytes takes just the first `n`, and writing succeeds only if
these are all. Reading them gives the accounts whose lines are whole, in
order and as they were, and at most one more, with the id of the next
account. -/
theorem read_torn {t : Table} (ht : Reachable t) {bank stamp : String}
    (hbank : Text.IsWord bank.toList) (hstamp : '\n' ∉ stamp.toList) (n : Nat) :
    (∀ sink : Sink, sink.taken = [] → sink.room = some n →
      (write t bank stamp sink).2.taken = (render t bank stamp).take n ∧
        ((write t bank stamp sink).1 = .ok () ↔
          (render t bank stamp).length ≤ n ∧ sink.flushFault = none)) ∧
      ∃ u notices k further,
        read (.ofBytes ((render t bank stamp).take n)) = .ok (u, notices) ∧
          Remains t.toList (lineBytes (header bank stamp)).length n u.toList k further := by
  refine ⟨fun sink hempty hroom => write_limited t bank stamp hempty hroom, ?_⟩
  obtain ⟨k, further, hremains⟩ := remains_readBytes ht.sound hbank hstamp n
  exact ⟨_, _, k, further, rfl, hremains⟩

/-- The line of an account with five credits is cut off in front of them. -/
theorem read_torn_one_deposit :
    let t := ((Table.empty.getOrCreate "N").2.apply 0 ⟨⟨"N", by decide⟩, .deposit, 5⟩).2
    (Text.IsWord "AdaBank".toList ∧ '\n' ∉ "09:30 March 02 2025".toList) ∧
      (∀ sink : Sink, sink.taken = [] → sink.room = some 60 →
        (write t "AdaBank" "09:30 March 02 2025" sink).2.taken =
            (render t "AdaBank" "09:30 March 02 2025").take 60 ∧
          ((write t "AdaBank" "09:30 March 02 2025" sink).1 = .ok () ↔
            (render t "AdaBank" "09:30 March 02 2025").length ≤ 60 ∧ sink.flushFault = none)) ∧
      ∃ u notices k further,
        read (.ofBytes ((render t "AdaBank" "09:30 March 02 2025").take 60)) = .ok (u, notices) ∧
          Remains t.toList (lineBytes (header "AdaBank" "09:30 March 02 2025")).length 60 u.toList
            k further :=
  ⟨⟨Text.isWord_of_all (by decide), by decide⟩,
    read_torn (.apply (.getOrCreate .empty "N") 0 ⟨⟨"N", by decide⟩, .deposit, 5⟩)
      (Text.isWord_of_all (by decide)) (by decide) 60⟩

end CountingHouse.Ledger
