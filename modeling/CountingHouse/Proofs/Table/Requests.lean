/-
CountingHouse.Proofs.Table.Requests — a table over its whole life.

A table is asked to look up tokens, to take over loaded accounts and to
carry out transactions, in any order and with any arguments. After every
such run its two halves agree: the index is the ids with their positions
and nothing else. `Keeps` says what a request leaves as it was. Positions
are kept because the ids before a request are the first ids after it
(`prefix_ids_serve`), so a position that was given out once can be used
for ever.
-/
import CountingHouse.Proofs.Table

namespace CountingHouse.Table

/-! ## Requests -/

/-- What a table can be asked for. -/
inductive Request where
  | getOrCreate (token : String)
  | insertLoaded (a : Account)
  | apply (position : Nat) (x : Transaction)

/-- What it replies. -/
inductive Reply where
  | found (result : Except AccountError Nat)
  | loaded (position : Option Nat)
  | answered (response : Response)

/-- Has the table refused to do what it was asked for? -/
def Reply.isRefusal : Reply → Bool
  | .found result => !result.isOk
  | .loaded position => position.isNone
  | .answered response => !response.isAccepted

/-- Serves one request. -/
def serve (t : Table) : Request → Reply × Table
  | .getOrCreate token => (.found (t.getOrCreate token).1, (t.getOrCreate token).2)
  | .insertLoaded a => (.loaded (t.insertLoaded a).1, (t.insertLoaded a).2)
  | .apply position x => (.answered (t.apply position x).1, (t.apply position x).2)

/-- The table after requests that are served in order. -/
def run (t : Table) : List Request → Table
  | [] => t
  | r :: rest => (t.serve r).2.run rest

namespace Request

/-- A request that adds an account: a new account that was granted, or a
loaded one whose id is not taken. -/
def Adds (t : Table) : Request → Prop
  | .getOrCreate token => token = BankId.newAccountToken ∧ (t.getOrCreate token).1.isOk = true
  | .insertLoaded a => a.bankId ∉ t.ids
  | .apply _ _ => False

/-- A request that is in vain: a token that does not ask for a new account
and names none that there is, an account whose id is taken, a position
that was never given out. -/
def IsVain (t : Table) : Request → Prop
  | .getOrCreate token => token ≠ BankId.newAccountToken ∧ ∀ id ∈ t.ids, id.text ≠ token
  | .insertLoaded a => a.bankId ∈ t.ids
  | .apply position _ => t.size ≤ position

end Request

/-! ## One request -/

theorem WellFormed.serve {t : Table} (h : t.WellFormed) (r : Request) :
    (t.serve r).2.WellFormed := by
  cases r with
  | getOrCreate token => exact h.getOrCreate token
  | insertLoaded a => exact h.insertLoaded a
  | apply position x => exact h.apply position x

theorem prefix_ids_serve (t : Table) (r : Request) : t.ids <+: (t.serve r).2.ids := by
  cases r with
  | getOrCreate token => exact t.prefix_ids_getOrCreate token
  | insertLoaded a =>
    rcases insertLoaded_cases t a with ⟨_, heq⟩ | ⟨_, heq⟩ <;> simp [Table.serve, heq, ids_add]
  | apply position x => simp [Table.serve, ids_apply]

theorem size_serve_of_adds {t : Table} (h : t.WellFormed) {r : Request} (hadds : r.Adds t) :
    (t.serve r).2.size = t.size + 1 := by
  cases r with
  | getOrCreate token =>
    obtain ⟨hnew, hok⟩ := hadds
    rcases getOrCreate_cases t token with
      ⟨_, id, _, heq⟩ | ⟨hnamed, _⟩ | ⟨e, heq⟩
    · simp [Table.serve, heq]
    · exact absurd hnew hnamed
    · rw [heq] at hok
      cases hok
  | insertLoaded a =>
    rcases insertLoaded_cases t a with ⟨_, heq⟩ | ⟨⟨i, hfound⟩, _⟩
    · simp [Table.serve, heq]
    · exact absurd (h.mem_ids_of_find? hfound) hadds
  | apply position x => exact hadds.elim

theorem size_serve_of_not_adds {t : Table} (h : t.WellFormed) {r : Request}
    (hadds : ¬ r.Adds t) : (t.serve r).2.size = t.size := by
  cases r with
  | getOrCreate token =>
    rcases getOrCreate_cases t token with
      ⟨hnew, id, _, heq⟩ | ⟨_, id, i, _, _, heq⟩ | ⟨e, heq⟩
    · exact absurd ⟨hnew, by rw [heq]; rfl⟩ hadds
    · simp [Table.serve, heq]
    · simp [Table.serve, heq]
  | insertLoaded a =>
    rcases insertLoaded_cases t a with ⟨hfree, _⟩ | ⟨_, heq⟩
    · exact absurd (h.find?_eq_none_iff.mp hfree) hadds
    · simp [Table.serve, heq]
  | apply position x => exact size_apply t position x

/-- Nothing is granted that is asked for in vain. -/
theorem isRefusal_serve_of_isVain {t : Table} (h : t.WellFormed) {r : Request}
    (hvain : r.IsVain t) : (t.serve r).1.isRefusal = true := by
  cases r with
  | getOrCreate token =>
    obtain ⟨hnamed, hunknown⟩ := hvain
    rcases getOrCreate_cases t token with
      ⟨hnew, _⟩ | ⟨_, id, i, htext, hfound, _⟩ | ⟨e, heq⟩
    · exact absurd hnew hnamed
    · exact absurd htext (hunknown id (h.mem_ids_of_find? hfound))
    · simp [Table.serve, heq, Reply.isRefusal, Except.isOk, Except.toBool]
  | insertLoaded a =>
    rcases insertLoaded_cases t a with ⟨hfree, _⟩ | ⟨_, heq⟩
    · exact absurd hvain (h.find?_eq_none_iff.mp hfree)
    · simp [Table.serve, heq, Reply.isRefusal]
  | apply position x =>
    have hbeyond : t.size ≤ position := hvain
    have hnone : t.toList[position]? = none := by
      rw [← get?_eq]
      exact get?_eq_none_iff.mpr hbeyond
    rcases apply_cases t position x with ⟨a, hsome, _⟩ | ⟨_, heq⟩
    · rw [hnone] at hsome
      cases hsome
    · simp [Table.serve, heq, Reply.isRefusal, Response.isAccepted]

/-- What is refused changes nothing. -/
theorem serve_of_isRefusal {t : Table} {r : Request} (h : (t.serve r).1.isRefusal = true) :
    (t.serve r).2 = t := by
  cases r with
  | getOrCreate token =>
    cases hresult : (t.getOrCreate token).1 with
    | error e => exact snd_getOrCreate_of_error hresult
    | ok i => simp [Table.serve, hresult, Reply.isRefusal, Except.isOk, Except.toBool] at h
  | insertLoaded a =>
    rcases insertLoaded_cases t a with ⟨_, heq⟩ | ⟨_, heq⟩ <;> simp only [Table.serve, heq] at h ⊢
    cases h
  | apply position x =>
    exact apply_of_refused (by simpa [Table.serve, Reply.isRefusal] using h)

/-! ## Any number of requests -/

/-- What a request leaves as it was, and when it adds an account. -/
structure Keeps (t : Table) (r : Request) : Prop where
  position : ∀ id i, t.find? id = some i →
    (t.serve r).2.find? id = some i ∧ ((t.serve r).2.get? i).map Account.bankId = some id
  grows : r.Adds t → (t.serve r).2.size = t.size + 1
  stays : ¬ r.Adds t → (t.serve r).2.size = t.size
  vain : r.IsVain t → (t.serve r).1.isRefusal = true
  refused : (t.serve r).1.isRefusal = true → (t.serve r).2 = t

theorem WellFormed.keeps {t : Table} (h : t.WellFormed) (r : Request) : t.Keeps r where
  position := by
    intro id i hfound
    obtain ⟨newer, hids⟩ := prefix_ids_serve t r
    have hid := h.find?_eq_some_iff.mp hfound
    obtain ⟨hi, _⟩ := List.getElem?_eq_some_iff.mp hid
    have hafter : (t.serve r).2.ids[i]? = some id := by
      rw [← hids, List.getElem?_append_left hi, hid]
    exact ⟨(h.serve r).find?_eq_some_iff.mpr hafter, by rw [← getElem?_ids, hafter]⟩
  grows := size_serve_of_adds h
  stays := size_serve_of_not_adds h
  vain := isRefusal_serve_of_isVain h
  refused := serve_of_isRefusal

theorem WellFormed.run {t : Table} (h : t.WellFormed) (requests : List Request) :
    (t.run requests).WellFormed := by
  induction requests generalizing t with
  | nil => exact h
  | cons r rest ih => exact ih (h.serve r)

/-- **The index is always right.** Whatever a table has been asked for, no
id stands in it twice, an id is found exactly at the position where its
account is, and the index has no other entries. The next request, whatever
it is, moves no account, adds at most the one account it asks for, and
changes nothing when it is refused. -/
theorem run_indexed (requests : List Request) :
    let t := empty.run requests
    t.ids.Nodup ∧
    (∀ id i, t.find? id = some i ↔ (t.get? i).map Account.bankId = some id) ∧
    (∀ id i, (id, i) ∈ t.index ↔ (t.get? i).map Account.bankId = some id) ∧
    t.index.length = t.size ∧
    ∀ r, t.Keeps r := by
  intro t
  have h : t.WellFormed := WellFormed.empty.run requests
  refine ⟨h.distinct, fun id i => ?_, fun id i => ?_, ?_, h.keeps⟩
  · rw [h.find?_eq_some_iff, getElem?_ids]
  · rw [h.mem_index_iff, getElem?_ids]
  · rw [h.indexed, List.length_reverse, List.length_zipIdx, length_ids]

/-- The name after a loaded one is given to the next new account. -/
example :
    (empty.run [.insertLoaded (.opened ⟨"BankID_2", by decide⟩), .getOrCreate "N"]).ids.map
      BankId.text = ["BankID_2", "BankID_3"] := by
  decide

end CountingHouse.Table
