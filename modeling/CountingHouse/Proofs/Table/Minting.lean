/-
CountingHouse.Proofs.Table.Minting — a new account gets the least free
number, and no name is given out twice.

The search for a name begins behind the number of accounts. Different
numbers make different names (`numberedText_injective`), so the accounts
cannot have taken all names of a stretch with one number more than there
are accounts (`exists_free`). The least number that is free is therefore
found within that stretch, and `freeIdFrom_eq` says how many attempts it
takes: as many as there are numbers up to it, and no number of attempts
beyond that changes what is found. Numbers below 10^12 make names that are
short enough, so the search never ends with an error.

A name is free when it is given out, and the ids of a table only grow. So
names differ that are given out at different times (`issued_nodup`),
whatever accounts are loaded in between.
-/
import CountingHouse.Proofs.Ledger.Reachable
import CountingHouse.Proofs.Table.Requests
import Mathlib.Data.List.Nodup
import Mathlib.Data.Nat.Digits.Defs
import Mathlib.Order.Bounds.Defs

namespace CountingHouse

/-! ## Numbered names -/

namespace BankId

/-- The text of the name with a number. -/
def numberedText (n : Nat) : String :=
  "BankID_" ++ toString n

theorem toList_numberedText (n : Nat) :
    (numberedText n).toList = "BankID_".toList ++ Text.natural n := by
  rw [numberedText, String.toList_append]
  exact congrArg ("BankID_".toList ++ ·) String.toList_ofList

theorem numberedText_injective : Function.Injective numberedText := by
  intro m n h
  have hchars := congrArg String.toList h
  rw [toList_numberedText, toList_numberedText] at hchars
  have hread := congrArg Text.digits? (List.append_cancel_left hchars)
  simpa [Text.digits?_natural] using hread

theorem length_encode_of_ascii {s : List Char} (h : ∀ c ∈ s, c.val ≤ 127) :
    (Text.encode s).length = s.length := by
  induction s with
  | nil => rfl
  | cons c s ih =>
    have hc : c.utf8Size = 1 := Char.utf8Size_eq_one_iff.mpr (h c List.mem_cons_self)
    have hs := ih fun d hd => h d (List.mem_cons_of_mem c hd)
    simp only [Text.encode, List.flatMap_cons, List.length_append, String.length_utf8EncodeChar,
      hc, List.length_cons] at hs ⊢
    omega

/-- A number of at most twelve digits makes a name. -/
theorem isUsableId_numberedText {n : Nat} (h : n < 10 ^ 12) :
    isUsableId (numberedText n) = true := by
  have hchars : ∀ c ∈ (numberedText n).toList, c.val ≤ 127 ∧ Text.isBlank c = false := by
    intro c hc
    rw [toList_numberedText] at hc
    rcases List.mem_append.mp hc with hc | hc
    · have hstem : ("BankID_".toList.all fun c => c.val ≤ 127 && !Text.isBlank c) = true := by
        decide
      have hcheck := List.all_eq_true.mp hstem c hc
      simpa using hcheck
    · have hdigit := Text.isDigit_of_mem_natural hc
      refine ⟨?_, Text.isBlank_of_isDigit hdigit⟩
      simp only [Char.isDigit, Bool.and_eq_true, decide_eq_true_eq, ge_iff_le] at hdigit
      exact UInt32.le_trans hdigit.2 (by decide)
  have hdigits : (Text.natural n).length ≤ 12 := Nat.toDigits_length 10 n 12 (by decide) h
  rw [usable_iff, Text.byteLength, length_encode_of_ascii fun c hc => (hchars c hc).1]
  refine ⟨?_, ?_, ?_, fun c hc => (hchars c hc).2⟩
  · simp [toList_numberedText]
  · have hstem : "BankID_".toList.length = 7 := by decide
    rw [toList_numberedText, List.length_append, hstem, maxIdBytes]
    omega
  · simp [toList_numberedText]

theorem exists_numbered {n : Nat} (h : n < 10 ^ 12) :
    ∃ id, numbered n = .ok id ∧ id.text = numberedText n :=
  ⟨⟨numberedText n, isUsableId_numberedText h⟩, dif_pos (isUsableId_numberedText h), rfl⟩

end BankId

namespace Table

open BankId

/-! ## The search -/

/-- A number whose name no account has. -/
def IsFree (t : Table) (n : Nat) : Prop :=
  ∀ id ∈ t.ids, id.text ≠ numberedText n

/-- Among one number more than there are accounts one is free. -/
theorem exists_free (t : Table) (start : Nat) :
    ∃ n, start ≤ n ∧ n ≤ start + t.size ∧ t.IsFree n := by
  by_contra hnone
  have hsubset : (List.range' start (t.size + 1)).map numberedText ⊆
      t.ids.map BankId.text := by
    intro text htext
    obtain ⟨n, hn, rfl⟩ := List.mem_map.mp htext
    rw [List.mem_range'_1] at hn
    have htaken : ¬ t.IsFree n := fun hfree => hnone ⟨n, hn.1, by omega, hfree⟩
    simp only [IsFree, not_forall, not_not] at htaken
    obtain ⟨id, hid, heq⟩ := htaken
    exact List.mem_map.mpr ⟨id, hid, heq⟩
  have hdistinct : ((List.range' start (t.size + 1)).map numberedText).Nodup :=
    List.Nodup.map numberedText_injective List.nodup_range'
  have hlength := hdistinct.length_le_of_subset hsubset
  rw [List.length_map, List.length_range', List.length_map, length_ids] at hlength
  omega

theorem WellFormed.find?_eq_none_iff_isFree {t : Table} (h : t.WellFormed) {n : Nat}
    {id : BankId} (hid : id.text = numberedText n) : t.find? id = none ↔ t.IsFree n := by
  rw [h.find?_eq_none_iff, IsFree, ← hid]
  constructor
  · intro hmem taken htaken heq
    exact hmem (eq_of_text_eq heq ▸ htaken)
  · intro hfree hmem
    exact hfree id hmem rfl

/-- How the search for a name ends, and after how many attempts: at the
least free number, once it has come that far. -/
theorem freeIdFrom_eq {t : Table} (ht : t.WellFormed) {n m : Nat} {id : BankId}
    (htaken : ∀ j, n ≤ j → j < m → ¬ t.IsFree j) (hfree : t.IsFree m) (hm : m < 10 ^ 12)
    (hid : numbered m = .ok id) (hnm : n ≤ m) (attempts : Nat) :
    t.freeIdFrom attempts n =
      if m < n + attempts then .ok id else .error .capacityExhausted := by
  induction attempts generalizing n with
  | zero =>
    rw [if_neg (by omega)]
    rfl
  | succ attempts ih =>
    obtain ⟨candidate, hcandidate, htext⟩ := exists_numbered (n := n) (by omega)
    have hfind := ht.find?_eq_none_iff_isFree htext
    rw [freeIdFrom_succ, hcandidate]
    simp only
    rcases Nat.eq_or_lt_of_le hnm with rfl | hlt
    · have hsame : candidate = id := Except.ok.inj (hcandidate.symm.trans hid)
      have hnone : ¬ (t.find? candidate).isSome = true := by simp [hfind.mpr hfree]
      rw [if_neg hnone, if_pos (by omega), hsame]
    · have hsome : (t.find? candidate).isSome = true := by
        rw [Option.isSome_iff_ne_none]
        exact fun hnone => htaken n (Nat.le_refl n) hlt (hfind.mp hnone)
      rw [if_pos hsome, ih (fun j hj => htaken j (by omega)) (by omega)]
      simp only [Nat.add_assoc, Nat.add_comm 1]

/-! ## A new account -/

/-- The id of the account that a request has opened. -/
def issued? (t : Table) : Request → Option BankId
  | .getOrCreate token =>
    if token = newAccountToken then
      (t.getOrCreate token).1.toOption.bind fun i =>
        ((t.getOrCreate token).2.get? i).map Account.bankId
    else none
  | .insertLoaded _ => none
  | .apply _ _ => none

/-- How a table opens an account under the number `m`. -/
structure Mints (t : Table) (m : Nat) (id : BankId) : Prop where
  /-- The number is the least free one behind the number of accounts. -/
  least : IsLeast {n | t.size + 1 ≤ n ∧ t.IsFree n} m
  bounded : m ≤ 2 * t.size + 1
  name : numbered m = .ok id ∧ id.text = numberedText m
  /-- Every number that is tried makes a name. -/
  usable : ∀ n, t.size + 1 ≤ n → n ≤ m → ∃ candidate, numbered n = .ok candidate
  /-- The search takes so many attempts, and more make no difference. -/
  attempts : ∀ attempts, t.freeIdFrom attempts (t.size + 1) =
    if m - t.size ≤ attempts then .ok id else .error .capacityExhausted
  few : m - t.size ≤ t.size + 1
  /-- One account is added, without credits and history. -/
  found : (t.getOrCreate newAccountToken).1 = .ok t.size
  added : (t.getOrCreate newAccountToken).2.toList = t.toList ++ [⟨id, 0, [], 0⟩]
  /-- The name is given out. -/
  issued : t.issued? (.getOrCreate newAccountToken) = some id

theorem exists_isLeast (t : Table) :
    ∃ m, IsLeast {n | t.size + 1 ≤ n ∧ t.IsFree n} m ∧ m ≤ 2 * t.size + 1 := by
  classical
  obtain ⟨k, hstart, hend, hfree⟩ := t.exists_free (t.size + 1)
  have hexists : ∃ n, t.size + 1 ≤ n ∧ t.IsFree n := ⟨k, hstart, hfree⟩
  have hle : Nat.find hexists ≤ k := Nat.find_min' hexists ⟨hstart, hfree⟩
  refine ⟨Nat.find hexists, ⟨Nat.find_spec hexists, ?_⟩, by omega⟩
  intro n hn
  exact Nat.find_min' hexists hn

/-- The search that a table begins behind the number of its accounts. -/
theorem WellFormed.freeIdFrom_of_isLeast {t : Table} (ht : t.WellFormed) {m : Nat} {id : BankId}
    (hleast : IsLeast {n | t.size + 1 ≤ n ∧ t.IsFree n} m) (hm : m < 10 ^ 12)
    (hid : numbered m = .ok id) (attempts : Nat) :
    t.freeIdFrom attempts (t.size + 1) =
      if m - t.size ≤ attempts then .ok id else .error .capacityExhausted := by
  obtain ⟨⟨hstart, hfree⟩, hbelow⟩ := hleast
  have htaken : ∀ j, t.size + 1 ≤ j → j < m → ¬ t.IsFree j :=
    fun j hj hlt hfree => Nat.not_le_of_lt hlt (hbelow ⟨hj, hfree⟩)
  have hiff : m < t.size + 1 + attempts ↔ m - t.size ≤ attempts := by omega
  simp only [freeIdFrom_eq ht htaken hfree hm hid hstart, hiff]

theorem WellFormed.mints {t : Table} (ht : t.WellFormed) (hroom : 2 * t.size + 1 < 10 ^ 12) :
    ∃ m id, t.Mints m id := by
  obtain ⟨m, hleast, hbounded⟩ := t.exists_isLeast
  have hm : m < 10 ^ 12 := by omega
  have hstart : t.size + 1 ≤ m := hleast.1.1
  obtain ⟨id, hid, htext⟩ := exists_numbered hm
  have hindex : t.index.length = t.size := by
    rw [ht.indexed, List.length_reverse, List.length_zipIdx, length_ids]
  have hfree : t.freeId = .ok id := by
    rw [freeId, ht.freeIdFrom_of_isLeast hleast hm hid, hindex, if_pos (by omega)]
  have hget : t.getOrCreate newAccountToken = (.ok t.size, t.add (.opened id)) := by
    rw [Table.getOrCreate, if_pos rfl, hfree]
  have husable : ∀ n, t.size + 1 ≤ n → n ≤ m → ∃ candidate, numbered n = .ok candidate := by
    intro n _ hn
    obtain ⟨candidate, hcandidate, _⟩ := exists_numbered (Nat.lt_of_le_of_lt hn hm)
    exact ⟨candidate, hcandidate⟩
  refine ⟨m, id, ?_⟩
  exact
    { least := hleast
      bounded := hbounded
      name := ⟨hid, htext⟩
      usable := husable
      attempts := ht.freeIdFrom_of_isLeast hleast hm hid
      few := by omega
      found := by rw [hget]
      added := by simp [hget, Account.opened]
      issued := by simp [issued?, hget, Except.toOption, get?_add_size, Account.opened] }

/-! ## The names that are given out -/

/-- The ids of the accounts that requests have opened, in order. -/
def issued (t : Table) : List Request → List BankId
  | [] => []
  | r :: rest => (t.issued? r).toList ++ (t.serve r).2.issued rest

/-- An id is free when it is given out, and is taken from then on. -/
theorem of_issued? {t : Table} {r : Request} {id : BankId} (h : t.issued? r = some id) :
    t.find? id = none ∧ id ∈ (t.serve r).2.ids := by
  cases r with
  | getOrCreate token =>
    rw [issued?] at h
    split at h
    · next hnew =>
      rcases getOrCreate_cases t token with
        ⟨_, fresh, hfree, heq⟩ | ⟨hnamed, _⟩ | ⟨e, heq⟩
      · simp only [heq, Except.toOption, Option.bind_some, get?_add_size, Option.map_some,
          Option.some.injEq] at h
        subst h
        refine ⟨hfree, ?_⟩
        simp [serve, heq, ids_add]
      · exact absurd hnew hnamed
      · simp [heq, Except.toOption] at h
    · cases h
  | insertLoaded a => cases h
  | apply position x => cases h

theorem WellFormed.not_mem_of_mem_issued {t : Table} (h : t.WellFormed) {requests : List Request} :
    ∀ id ∈ t.issued requests, id ∉ t.ids := by
  induction requests generalizing t with
  | nil =>
    intro id hid
    cases hid
  | cons r rest ih =>
    intro id hid hmem
    rcases List.mem_append.mp hid with hid | hid
    · have hfree := (of_issued? (Option.mem_toList.mp hid)).1
      exact h.find?_eq_none_iff.mp hfree hmem
    · exact ih (h.serve r) id hid ((prefix_ids_serve t r).subset hmem)

theorem WellFormed.issued_nodup {t : Table} (h : t.WellFormed) (requests : List Request) :
    (t.issued requests).Nodup := by
  induction requests generalizing t with
  | nil => exact List.nodup_nil
  | cons r rest ih =>
    rw [issued, List.nodup_append]
    refine ⟨?_, ih (h.serve r), ?_⟩
    · cases t.issued? r <;> simp
    · intro id hid later hlater heq
      have htaken := (of_issued? (Option.mem_toList.mp hid)).2
      exact (h.serve r).not_mem_of_mem_issued later hlater (heq ▸ htaken)

/-- **A new account gets the least free number.** While there is room for
twice as many accounts, a client that asks for a new account gets one. Its
number is the least one behind the number of accounts that is free, and it
is found in as many attempts as there are accounts and one. Whatever a
table is asked for, no id is given out twice, and none is given out that an
account has, whether opened or loaded. -/
theorem getOrCreate_least {t : Table} (ht : Ledger.Reachable t)
    (hroom : 2 * t.size + 1 < 10 ^ 12) :
    (∃ m id, t.Mints m id) ∧
      ∀ requests, (t.issued requests).Nodup ∧
        ∀ r, ∀ id ∈ (t.run requests).issued? r, id ∉ (t.run requests).ids := by
  have h := ht.sound.toWellFormed
  refine ⟨h.mints hroom, fun requests => ⟨h.issued_nodup requests, ?_⟩⟩
  intro r id hid
  exact (h.run requests).find?_eq_none_iff.mp (of_issued? hid).1

/-- The name after the number of accounts has been loaded, and another one
that looks like the next. -/
theorem getOrCreate_least_loaded :
    let t := ((Table.empty.insertLoaded (.opened ⟨"BankID_3", by decide⟩)).2.insertLoaded
      (.opened ⟨"BankID_04", by decide⟩)).2
    2 * t.size + 1 < 10 ^ 12 ∧
      (∃ m id, t.Mints m id) ∧
      ∀ requests, (t.issued requests).Nodup ∧
        ∀ r, ∀ id ∈ (t.run requests).issued? r, id ∉ (t.run requests).ids :=
  ⟨by decide, getOrCreate_least
    (.insertLoaded (.insertLoaded .empty (.opened _)) (.opened _)) (by decide)⟩

end Table

end CountingHouse
