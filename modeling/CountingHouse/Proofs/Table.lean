/-
CountingHouse.Proofs.Table — the index of a table agrees with its
accounts.

`WellFormed` says that no id occurs twice and that the index is nothing
but the ids with their positions, so that looking up an id finds its place
(`find?_eq_some_iff`). Adding an account under a new id keeps it, and so do
all operations, because none of them changes an id or the place of an
account; what each of them can do is said once (`getOrCreate_cases`,
`insertLoaded_cases`, `apply_cases`). `Sound` adds that every account files
its history under its own id.
-/
import CountingHouse.Proofs.Account
import CountingHouse.Proofs.BankId
import CountingHouse.Table

namespace CountingHouse.Table

/-! ## The index -/

/-- The ids of the accounts, by position. -/
def ids (t : Table) : List BankId :=
  t.toList.map Account.bankId

/-- Every id stands once and the index lists the ids with their
positions, the newest first. -/
structure WellFormed (t : Table) : Prop where
  distinct : t.ids.Nodup
  indexed : t.index = t.ids.zipIdx.reverse

@[simp] theorem toList_add (t : Table) (a : Account) : (t.add a).toList = t.toList ++ [a] := by
  simp [add, toList]

theorem ids_add (t : Table) (a : Account) : (t.add a).ids = t.ids ++ [a.bankId] := by
  simp [ids]

theorem length_toList (t : Table) : t.toList.length = t.size := by
  simp [toList, size]

theorem length_ids (t : Table) : t.ids.length = t.size := by
  rw [ids, List.length_map, length_toList]

@[simp] theorem size_add (t : Table) (a : Account) : (t.add a).size = t.size + 1 := by
  simp [add, size]

/-- Two tables with the same accounts and the same index are equal. -/
theorem ext_toList {t u : Table} (h : t.toList = u.toList) (hi : t.index = u.index) : t = u := by
  obtain ⟨⟨as⟩, i⟩ := t
  obtain ⟨⟨bs⟩, j⟩ := u
  cases h
  cases hi
  rfl

theorem WellFormed.empty : empty.WellFormed :=
  ⟨List.nodup_nil, rfl⟩

theorem get?_eq (t : Table) (i : Nat) : t.get? i = t.toList[i]? := by
  simp [get?, toList]

theorem get?_eq_none_iff {t : Table} {i : Nat} : t.get? i = none ↔ t.size ≤ i := by
  rw [get?_eq, List.getElem?_eq_none_iff, length_toList]

theorem get?_add_of_lt {t : Table} {i : Nat} (h : i < t.size) (a : Account) :
    (t.add a).get? i = t.get? i := by
  rw [← length_toList] at h
  rw [get?_eq, get?_eq, toList_add, List.getElem?_append_left h]

/-- An added account stands behind all others. -/
theorem get?_add_size (t : Table) (a : Account) : (t.add a).get? t.size = some a := by
  rw [get?_eq, toList_add, ← length_toList, List.getElem?_concat_length]

theorem getElem?_ids (t : Table) (i : Nat) : t.ids[i]? = (t.get? i).map Account.bankId := by
  rw [ids, List.getElem?_map, get?_eq]

theorem WellFormed.mem_index_iff {t : Table} (h : t.WellFormed) {id : BankId} {i : Nat} :
    (id, i) ∈ t.index ↔ t.ids[i]? = some id := by
  rw [h.indexed, List.mem_reverse, List.mem_zipIdx_iff_getElem?]

theorem WellFormed.find?_eq_none_iff {t : Table} (h : t.WellFormed) {id : BankId} :
    t.find? id = none ↔ id ∉ t.ids := by
  rw [find?, List.lookup_eq_none_iff]
  constructor
  · intro hno hmem
    obtain ⟨i, hget⟩ := List.mem_iff_getElem?.mp hmem
    have hne := hno _ (h.mem_index_iff.mpr hget)
    exact bne_iff_ne.mp hne rfl
  · rintro hno ⟨id', i⟩ hpair
    have hmem : id' ∈ t.ids := List.mem_of_getElem? (h.mem_index_iff.mp hpair)
    simp only [bne_iff_ne, ne_eq]
    rintro rfl
    exact hno hmem

/-- Looking up an id finds the position where it stands. -/
theorem WellFormed.find?_eq_some_iff {t : Table} (h : t.WellFormed) {id : BankId} {i : Nat} :
    t.find? id = some i ↔ t.ids[i]? = some id := by
  have hfound : ∀ {j}, t.find? id = some j → t.ids[j]? = some id := by
    intro j hfind
    obtain ⟨newer, older, hindex, _⟩ := List.lookup_eq_some_iff.mp hfind
    exact h.mem_index_iff.mp (by rw [hindex]; simp)
  refine ⟨hfound, fun hid => ?_⟩
  cases hfind : t.find? id with
  | none => exact absurd (List.mem_of_getElem? hid) (h.find?_eq_none_iff.mp hfind)
  | some j =>
    obtain ⟨hi, _⟩ := List.getElem?_eq_some_iff.mp hid
    rw [(List.getElem?_inj hi h.distinct).mp (hid.trans (hfound hfind).symm)]

theorem WellFormed.mem_ids_of_find? {t : Table} (h : t.WellFormed) {id : BankId} {i : Nat}
    (hfound : t.find? id = some i) : id ∈ t.ids :=
  List.mem_of_getElem? (h.find?_eq_some_iff.mp hfound)

/-- An account with a new id can be added. -/
theorem WellFormed.add {t : Table} (h : t.WellFormed) {a : Account}
    (hnew : t.find? a.bankId = none) : (t.add a).WellFormed := by
  have hmem : a.bankId ∉ t.ids := h.find?_eq_none_iff.mp hnew
  refine ⟨?_, ?_⟩
  · rw [ids_add, List.nodup_append]
    refine ⟨h.distinct, by simp, fun x hx y hy => ?_⟩
    rw [List.mem_singleton.mp hy]
    rintro rfl
    exact hmem hx
  · rw [ids_add, List.zipIdx_append, List.reverse_append, ← h.indexed, length_ids]
    simp [Table.add]

/-! ## The operations -/

-- Left open, the name would be computed digit by digit to compare the
-- two sides.
attribute [local irreducible] BankId.numbered in
theorem freeIdFrom_succ (t : Table) (attempts n : Nat) :
    t.freeIdFrom (attempts + 1) n =
      match BankId.numbered n with
      | .error e => .error e
      | .ok id => if (t.find? id).isSome then t.freeIdFrom attempts (n + 1) else .ok id := rfl

/-- The names tried for a new account are given out only when they are
free. -/
theorem find?_freeIdFrom {t : Table} {attempts n : Nat} {id : BankId}
    (h : t.freeIdFrom attempts n = .ok id) : t.find? id = none := by
  induction attempts generalizing n with
  | zero => cases h
  | succ attempts ih =>
    rw [freeIdFrom_succ] at h
    split at h
    · cases h
    · split at h
      · exact ih h
      · next hfree =>
        cases h
        simpa using hfree

/-- What looking up a token can do to a table: the token that asks for a
new account opens one under a free name, any other token finds the account
it names, and where that fails nothing changes. -/
theorem getOrCreate_cases (t : Table) (token : String) :
    (token = BankId.newAccountToken ∧ ∃ id, t.find? id = none ∧
      t.getOrCreate token = (.ok t.size, t.add (.opened id))) ∨
    (token ≠ BankId.newAccountToken ∧ ∃ id i, id.text = token ∧ t.find? id = some i ∧
      t.getOrCreate token = (.ok i, t)) ∨
    ∃ e, t.getOrCreate token = (.error e, t) := by
  rw [getOrCreate]
  split
  · next hnew =>
    cases h : t.freeId with
    | error e => exact .inr (.inr ⟨e, rfl⟩)
    | ok id => exact .inl ⟨hnew, id, find?_freeIdFrom h, rfl⟩
  · next hnamed =>
    cases h : BankId.ofString token with
    | error e => exact .inr (.inr ⟨e, rfl⟩)
    | ok id =>
      have htext : id.text = token := BankId.text_of_ofString h
      cases hfind : t.find? id with
      | none => exact .inr (.inr ⟨.unknownAccount id, by simp only [hfind]⟩)
      | some i => exact .inr (.inl ⟨hnamed, id, i, htext, hfind, by simp only [hfind]⟩)

theorem snd_getOrCreate_of_error {t : Table} {token : String} {e : AccountError}
    (h : (t.getOrCreate token).1 = .error e) : (t.getOrCreate token).2 = t := by
  rcases getOrCreate_cases t token with
    ⟨_, id, _, heq⟩ | ⟨_, id, i, _, _, heq⟩ | ⟨e', heq⟩ <;> rw [heq] at h ⊢
  cases h

/-- Whatever the token, the accounts stay and at most a new one follows. -/
theorem snd_getOrCreate_cases (t : Table) (token : String) :
    (∃ id, t.find? id = none ∧ (t.getOrCreate token).2 = t.add (.opened id)) ∨
    (t.getOrCreate token).2 = t := by
  rcases getOrCreate_cases t token with
    ⟨_, id, hfree, heq⟩ | ⟨_, id, i, _, _, heq⟩ | ⟨e, heq⟩ <;> rw [heq]
  · exact .inl ⟨id, hfree, rfl⟩
  · exact .inr rfl
  · exact .inr rfl

theorem prefix_ids_getOrCreate (t : Table) (token : String) :
    t.ids <+: (t.getOrCreate token).2.ids := by
  rcases snd_getOrCreate_cases t token with ⟨id, _, heq⟩ | heq <;> simp [heq, ids_add]

/-- What adding a loaded account can do to a table. -/
theorem insertLoaded_cases (t : Table) (a : Account) :
    (t.find? a.bankId = none ∧ t.insertLoaded a = (some t.size, t.add a)) ∨
    ((∃ i, t.find? a.bankId = some i) ∧ t.insertLoaded a = (none, t)) := by
  rw [insertLoaded]
  cases h : t.find? a.bankId with
  | none => exact .inl ⟨rfl, rfl⟩
  | some i => exact .inr ⟨⟨i, rfl⟩, rfl⟩

/-- What a transaction can do to a table: the account at the position
changes in place, or there is none and nothing changes. -/
theorem apply_cases (t : Table) (i : Nat) (x : Transaction) :
    (∃ a, t.toList[i]? = some a ∧ (t.apply i x).1 = (a.apply x).1 ∧
      (t.apply i x).2.toList = t.toList.set i (a.apply x).2 ∧
      (t.apply i x).2.index = t.index) ∨
    (t.toList[i]? = none ∧ t.apply i x = (.failure, t)) := by
  rw [apply, get?_eq]
  cases h : t.toList[i]? with
  | none => exact .inr ⟨rfl, rfl⟩
  | some a => exact .inl ⟨a, rfl, rfl, by simp [toList], rfl⟩

theorem ids_apply (t : Table) (i : Nat) (x : Transaction) : (t.apply i x).2.ids = t.ids := by
  rcases apply_cases t i x with ⟨a, hget, _, hlist, _⟩ | ⟨_, h⟩
  · have hid : (t.toList.map Account.bankId)[i]? = some a.bankId := by
      rw [List.getElem?_map, hget, Option.map_some]
    obtain ⟨hi, hid⟩ := List.getElem?_eq_some_iff.mp hid
    rw [ids, ids, hlist, List.map_set, Account.apply_bankId, ← hid]
    exact List.set_getElem_self hi
  · rw [h]

theorem index_apply (t : Table) (i : Nat) (x : Transaction) :
    (t.apply i x).2.index = t.index := by
  rcases apply_cases t i x with ⟨_, _, _, _, hindex⟩ | ⟨_, heq⟩
  · exact hindex
  · rw [heq]

theorem size_apply (t : Table) (i : Nat) (x : Transaction) : (t.apply i x).2.size = t.size := by
  rw [← length_ids, ids_apply, length_ids]

/-- A transaction leaves all other accounts as they are. -/
theorem get?_apply_of_ne {i j : Nat} (h : i ≠ j) (t : Table) (x : Transaction) :
    (t.apply i x).2.get? j = t.get? j := by
  rcases apply_cases t i x with ⟨a, _, _, hlist, _⟩ | ⟨_, heq⟩
  · rw [get?_eq, get?_eq, hlist, List.getElem?_set_ne h]
  · rw [heq]

/-- A transaction that is refused changes nothing. -/
theorem apply_of_refused {t : Table} {i : Nat} {x : Transaction}
    (h : (t.apply i x).1.isAccepted = false) : (t.apply i x).2 = t := by
  rcases apply_cases t i x with ⟨a, hget, hresponse, hlist, hindex⟩ | ⟨_, heq⟩
  · refine ext_toList ?_ hindex
    obtain ⟨hi, rfl⟩ := List.getElem?_eq_some_iff.mp hget
    rw [hlist, Account.apply_of_refused (hresponse ▸ h)]
    exact List.set_getElem_self hi
  · rw [heq]

theorem WellFormed.insertLoaded {t : Table} (h : t.WellFormed) (a : Account) :
    (t.insertLoaded a).2.WellFormed := by
  rcases insertLoaded_cases t a with ⟨hnew, heq⟩ | ⟨_, heq⟩ <;> rw [heq]
  · exact h.add hnew
  · exact h

theorem WellFormed.getOrCreate {t : Table} (h : t.WellFormed) (token : String) :
    (t.getOrCreate token).2.WellFormed := by
  rcases snd_getOrCreate_cases t token with ⟨id, hfree, heq⟩ | heq <;> rw [heq]
  · exact h.add hfree
  · exact h

theorem WellFormed.apply {t : Table} (h : t.WellFormed) (i : Nat) (x : Transaction) :
    (t.apply i x).2.WellFormed :=
  ⟨by rw [ids_apply]; exact h.distinct, by rw [index_apply, ids_apply]; exact h.indexed⟩

/-! ## Sound tables -/

/-- The index is right and every history is filed under its own id. -/
structure Sound (t : Table) : Prop extends WellFormed t where
  filed : ∀ a ∈ t.toList, a.Filed

theorem Sound.empty : empty.Sound :=
  ⟨.empty, fun _ ha => absurd ha List.not_mem_nil⟩

theorem Sound.add {t : Table} (h : t.Sound) {a : Account} (hnew : t.find? a.bankId = none)
    (ha : a.Filed) : (t.add a).Sound := by
  refine ⟨h.toWellFormed.add hnew, fun b hb => ?_⟩
  rw [toList_add] at hb
  rcases List.mem_append.mp hb with hb | hb
  · exact h.filed b hb
  · exact List.mem_singleton.mp hb ▸ ha

theorem Sound.insertLoaded {t : Table} (h : t.Sound) {a : Account} (ha : a.Filed) :
    (t.insertLoaded a).2.Sound := by
  rcases insertLoaded_cases t a with ⟨hnew, heq⟩ | ⟨_, heq⟩ <;> rw [heq]
  · exact h.add hnew ha
  · exact h

theorem Sound.getOrCreate {t : Table} (h : t.Sound) (token : String) :
    (t.getOrCreate token).2.Sound := by
  rcases snd_getOrCreate_cases t token with ⟨id, hfree, heq⟩ | heq <;> rw [heq]
  · exact h.add hfree (.opened id)
  · exact h

theorem Sound.apply {t : Table} (h : t.Sound) (i : Nat) (x : Transaction) :
    (t.apply i x).2.Sound := by
  refine ⟨h.toWellFormed.apply i x, fun b hb => ?_⟩
  rcases apply_cases t i x with ⟨a, hget, _, hlist, _⟩ | ⟨_, heq⟩
  · rw [hlist] at hb
    rcases List.mem_or_eq_of_mem_set hb with hb | rfl
    · exact h.filed b hb
    · exact (h.filed a (List.mem_of_getElem? hget)).apply x
  · rw [heq] at hb
    exact h.filed b hb

end CountingHouse.Table
