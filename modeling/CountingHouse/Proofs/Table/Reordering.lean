/-
CountingHouse.Proofs.Table.Reordering — clients of different accounts do
not notice in which order they are served.

A token that does not ask for a new account leads to the same position
however long the table has been in use (`getOrCreate_named`), and different
tokens lead to different positions (`position_ne`). So two submissions under
different tokens touch different accounts, and they can change places
(`submit_comm`). In a list that has been reordered, the submission that
came first has only submissions under other tokens before it. It is moved
to the front past all of them (`answered_middle`), and the rest is a list
that has been reordered. This is the induction of `Reordering.answered`.

Nothing of the kind holds of the token that asks for a new account. The
order of those submissions decides who gets which name.
-/
import CountingHouse.Proofs.Ledger.Reachable
import CountingHouse.Proofs.Table

namespace CountingHouse.Table

/-! ## Submissions -/

/-- A transaction, and the token under which it is submitted. -/
structure Submission where
  token : String
  transaction : Transaction
  deriving DecidableEq

/-- What comes of a submission: an error, or a position and a response. -/
abbrev Result := Except AccountError (Nat × Response)

/-- Serves submissions in order. -/
def submitEach (t : Table) : List Submission → List Result × Table
  | [] => ([], t)
  | s :: rest =>
    let (result, t) := t.submit s.token s.transaction
    let (results, t) := t.submitEach rest
    (result :: results, t)

/-- A list of submissions in another order, each with its place in the
list. -/
structure Reordering (submissions : List Submission) (order : List (Submission × Nat)) : Prop where
  perm : order.Perm submissions.zipIdx
  /-- Submissions under the same token follow each other as before. -/
  keeps : order.Pairwise fun a b => a.1.token = b.1.token → a.2 < b.2

theorem submitEach_cons (t : Table) (s : Submission) (rest : List Submission) :
    t.submitEach (s :: rest) =
      ((t.submit s.token s.transaction).1 ::
        ((t.submit s.token s.transaction).2.submitEach rest).1,
        ((t.submit s.token s.transaction).2.submitEach rest).2) := rfl

theorem length_submitEach (t : Table) (submissions : List Submission) :
    (t.submitEach submissions).1.length = submissions.length := by
  induction submissions generalizing t with
  | nil => rfl
  | cons s rest ih => simp [submitEach_cons, ih]

/-! ## Transactions on different accounts -/

theorem get?_apply (t : Table) (i j : Nat) (x : Transaction) :
    (t.apply i x).2.get? j =
      if i = j then (t.get? j).map fun a => (a.apply x).2 else t.get? j := by
  by_cases h : i = j
  · subst h
    rw [if_pos rfl]
    rcases apply_cases t i x with ⟨a, hget, _, hlist, _⟩ | ⟨hget, heq⟩
    · obtain ⟨hi, _⟩ := List.getElem?_eq_some_iff.mp hget
      rw [get?_eq, get?_eq, hlist, hget, List.getElem?_set_self hi, Option.map_some]
    · simp [heq, get?_eq, hget]
  · rw [if_neg h, get?_apply_of_ne h]

/-- The answer to a transaction depends on the one account. -/
theorem fst_apply_congr {t u : Table} {i : Nat} (h : t.get? i = u.get? i) (x : Transaction) :
    (t.apply i x).1 = (u.apply i x).1 := by
  unfold apply
  rw [h]
  cases u.get? i <;> rfl

theorem ext_get? {t u : Table} (h : ∀ i, t.get? i = u.get? i) (hindex : t.index = u.index) :
    t = u := by
  refine ext_toList (List.ext_getElem? fun i => ?_) hindex
  rw [← get?_eq, ← get?_eq, h]

/-- Transactions on different accounts can change places. -/
theorem apply_comm {i j : Nat} (h : i ≠ j) (t : Table) (x y : Transaction) :
    (t.apply i x).2.apply j y = ((t.apply j y).1, ((t.apply j y).2.apply i x).2) := by
  refine Prod.ext (fst_apply_congr (get?_apply_of_ne h t x) y) (ext_get? ?_ ?_)
  · intro k
    simp only [get?_apply]
    by_cases hi : i = k
    · have hj : j ≠ k := fun hj => h (hi.trans hj.symm)
      simp [hi, hj]
    · simp [hi]
  · simp only [index_apply]

/-! ## Submissions under different tokens -/

section
variable {t u : Table} {token : String} (hnamed : token ≠ BankId.newAccountToken)
include hnamed

/-- A token that does not ask for a new account is looked up in the index
and nowhere else. -/
theorem getOrCreate_named (hindex : u.index = t.index) :
    u.getOrCreate token = ((t.getOrCreate token).1, u) := by
  unfold getOrCreate
  rw [if_neg hnamed, if_neg hnamed]
  cases BankId.ofString token with
  | error e => rfl
  | ok id =>
    have hfind : u.find? id = t.find? id := by rw [find?, find?, hindex]
    simp only [hfind]
    cases t.find? id <;> rfl

/-- What is submitted under such a token is refused, or is a transaction on
one account. -/
theorem submit_named (hindex : u.index = t.index) (x : Transaction) :
    u.submit token x =
      match (t.getOrCreate token).1 with
      | .error e => (.error e, u)
      | .ok i => (.ok (i, (u.apply i x).1), (u.apply i x).2) := by
  unfold submit
  rw [getOrCreate_named hnamed hindex]
  cases (t.getOrCreate token).1 <;> rfl

theorem index_submit (x : Transaction) : (t.submit token x).2.index = t.index := by
  rw [submit_named hnamed rfl]
  cases (t.getOrCreate token).1 with
  | error e => rfl
  | ok i => exact index_apply t i x

end

/-- Different tokens lead to different accounts. -/
theorem position_ne {t : Table} (ht : t.WellFormed) {a b : String} {i j : Nat}
    (ha : a ≠ BankId.newAccountToken) (hb : b ≠ BankId.newAccountToken) (hab : a ≠ b)
    (hi : (t.getOrCreate a).1 = .ok i) (hj : (t.getOrCreate b).1 = .ok j) : i ≠ j := by
  have hname : ∀ {token : String} {k : Nat}, token ≠ BankId.newAccountToken →
      (t.getOrCreate token).1 = .ok k → (t.ids[k]?).map BankId.text = some token := by
    intro token k hnamed hk
    rcases getOrCreate_cases t token with
      ⟨hnew, _⟩ | ⟨_, id, k', htext, hfound, heq⟩ | ⟨e, heq⟩
    · exact absurd hnew hnamed
    · rw [heq] at hk
      rw [← Except.ok.inj hk, ht.find?_eq_some_iff.mp hfound, Option.map_some, htext]
    · rw [heq] at hk
      cases hk
  rintro rfl
  exact hab (Option.some.inj ((hname ha hi).symm.trans (hname hb hj)))

/-- **Submissions under different tokens can change places.** -/
theorem submit_comm {t : Table} (ht : t.WellFormed) {a b : String}
    (ha : a ≠ BankId.newAccountToken) (hb : b ≠ BankId.newAccountToken) (hab : a ≠ b)
    (x y : Transaction) :
    ((t.submit a x).2.submit b y).1 = (t.submit b y).1 ∧
      ((t.submit a x).2.submit b y).2 = ((t.submit b y).2.submit a x).2 := by
  rw [submit_named hb (index_submit ha x), submit_named ha (index_submit hb y),
    submit_named ha rfl, submit_named hb rfl]
  cases hi : (t.getOrCreate a).1 with
  | error e => cases (t.getOrCreate b).1 <;> exact ⟨rfl, rfl⟩
  | ok i =>
    cases hj : (t.getOrCreate b).1 with
    | error e => exact ⟨rfl, rfl⟩
    | ok j =>
      have hcomm := apply_comm (position_ne ht ha hb hab hi hj) t x y
      simp only [hcomm, and_self]

/-! ## Submissions in another order -/

/-- The results of numbered submissions, each with its number. -/
def answered (t : Table) (order : List (Submission × Nat)) : List (Result × Nat) :=
  (t.submitEach (order.map Prod.fst)).1.zip (order.map Prod.snd)

/-- The table after numbered submissions. -/
def afterwards (t : Table) (order : List (Submission × Nat)) : Table :=
  (t.submitEach (order.map Prod.fst)).2

theorem answered_cons (t : Table) (p : Submission × Nat) (rest : List (Submission × Nat)) :
    t.answered (p :: rest) =
      ((t.submit p.1.token p.1.transaction).1, p.2) ::
        (t.submit p.1.token p.1.transaction).2.answered rest := rfl

theorem afterwards_cons (t : Table) (p : Submission × Nat) (rest : List (Submission × Nat)) :
    t.afterwards (p :: rest) = (t.submit p.1.token p.1.transaction).2.afterwards rest := rfl

theorem WellFormed.submit {t : Table} (h : t.WellFormed) {token : String}
    (hnamed : token ≠ BankId.newAccountToken) (x : Transaction) :
    (t.submit token x).2.WellFormed := by
  rw [submit_named hnamed rfl]
  cases (t.getOrCreate token).1 with
  | error e => exact h
  | ok i => exact h.apply i x

/-- A submission is moved to the front, past submissions under other
tokens. -/
theorem answered_middle {t : Table} (ht : t.WellFormed) {before after : List (Submission × Nat)}
    {p : Submission × Nat} (hp : p.1.token ≠ BankId.newAccountToken)
    (hbefore : ∀ q ∈ before, q.1.token ≠ BankId.newAccountToken ∧ q.1.token ≠ p.1.token) :
    (t.answered (before ++ p :: after)).Perm (t.answered (p :: (before ++ after))) ∧
      t.afterwards (before ++ p :: after) = t.afterwards (p :: (before ++ after)) := by
  induction before generalizing t with
  | nil => exact ⟨.refl _, rfl⟩
  | cons q before ih =>
    obtain ⟨hq, hqp⟩ := hbefore q List.mem_cons_self
    obtain ⟨hanswers, htable⟩ := ih (ht.submit hq q.1.transaction)
      fun r hr => hbefore r (List.mem_cons_of_mem q hr)
    obtain ⟨hp', hboth⟩ := submit_comm ht hq hp hqp q.1.transaction p.1.transaction
    obtain ⟨hq', _⟩ := submit_comm ht hp hq hqp.symm p.1.transaction q.1.transaction
    simp only [List.cons_append, answered_cons, afterwards_cons, hp', hboth] at hanswers htable ⊢
    rw [hq', htable]
    exact ⟨(hanswers.cons _).trans (.swap _ _ _), rfl⟩

/-- **The answers of a reordered list** are those of the list itself. -/
theorem answered_of_perm {t : Table} (ht : t.WellFormed) {submissions : List Submission}
    (hnamed : ∀ s ∈ submissions, s.token ≠ BankId.newAccountToken) {start : Nat}
    {order : List (Submission × Nat)} (hperm : order.Perm (submissions.zipIdx start))
    (hkeeps : order.Pairwise fun a b => a.1.token = b.1.token → a.2 < b.2) :
    (t.answered order).Perm (t.answered (submissions.zipIdx start)) ∧
      t.afterwards order = t.afterwards (submissions.zipIdx start) := by
  induction submissions generalizing t start order with
  | nil =>
    rw [List.zipIdx_nil, List.perm_nil] at hperm
    subst hperm
    exact ⟨.refl _, rfl⟩
  | cons s rest ih =>
    rw [List.zipIdx_cons] at hperm ⊢
    obtain ⟨before, after, rfl⟩ := List.append_of_mem (hperm.mem_iff.mpr List.mem_cons_self)
    have hrest : (before ++ after).Perm (rest.zipIdx (start + 1)) :=
      (List.perm_middle.symm.trans hperm).cons_inv
    have hs : s.token ≠ BankId.newAccountToken := hnamed s List.mem_cons_self
    have hother : ∀ r ∈ rest, r.token ≠ BankId.newAccountToken :=
      fun r hr => hnamed r (List.mem_cons_of_mem s hr)
    -- what stands before the first submission comes later in the list
    have hbefore : ∀ q ∈ before, q.1.token ≠ BankId.newAccountToken ∧ q.1.token ≠ s.token := by
      intro q hq
      have hmem := hrest.mem_iff.mp (List.mem_append_left after hq)
      have hlate : start + 1 ≤ q.2 := List.le_snd_of_mem_zipIdx hmem
      refine ⟨hother q.1 (List.fst_mem_of_mem_zipIdx hmem), fun hsame => ?_⟩
      have hearly := (List.pairwise_append.mp hkeeps).2.2 q hq (s, start) List.mem_cons_self hsame
      simp only at hearly
      omega
    have hsub : (before ++ after).Sublist (before ++ (s, start) :: after) :=
      List.Sublist.append_left (List.sublist_cons_self _ _) before
    obtain ⟨hfront, hfronttable⟩ := answered_middle (p := (s, start)) ht hs hbefore
    obtain ⟨hanswers, htable⟩ := ih (ht.submit hs s.transaction) hother hrest (hkeeps.sublist hsub)
    refine ⟨hfront.trans ?_, hfronttable.trans ?_⟩
    · rw [answered_cons, answered_cons]
      exact hanswers.cons _
    · rw [afterwards_cons, afterwards_cons, htable]

/-- **Service order does not matter between accounts.** Of submissions that
name their accounts, those to the same account follow each other as before
and all others stand in any order. Each of them has the same result: the
same error, or the same position and response. In the end the tables are
equal, and so are the ledgers that are written. -/
theorem submitEach_reordered {t : Table} (ht : Ledger.Reachable t)
    {submissions : List Submission}
    (hnamed : ∀ s ∈ submissions, s.token ≠ BankId.newAccountToken)
    {order : List (Submission × Nat)} (horder : Reordering submissions order) :
    let listed := t.submitEach submissions
    let reordered := t.submitEach (order.map Prod.fst)
    (∀ (j k : Nat) s, order[j]? = some (s, k) → submissions[k]? = some s ∧
      ∃ result, reordered.1[j]? = some result ∧ listed.1[k]? = some result) ∧
    reordered.2 = listed.2 ∧
    ∀ bank stamp sink,
      Ledger.write reordered.2 bank stamp sink = Ledger.write listed.2 bank stamp sink := by
  intro listed reordered
  obtain ⟨hanswers, htable⟩ :=
    answered_of_perm ht.sound.toWellFormed hnamed horder.perm horder.keeps
  rw [afterwards, afterwards, List.zipIdx_map_fst] at htable
  refine ⟨?_, htable, fun bank stamp sink => congrArg (Ledger.write · bank stamp sink) htable⟩
  intro j k s hj
  refine ⟨List.mem_zipIdx_iff_getElem?.mp
    (horder.perm.mem_iff.mp (List.mem_of_getElem? hj)), ?_⟩
  have hlength : j < reordered.1.length := by
    rw [length_submitEach, List.length_map]
    exact (List.getElem?_eq_some_iff.mp hj).1
  refine ⟨reordered.1[j], List.getElem?_eq_getElem hlength, ?_⟩
  -- the result stands beside its number in both lists
  have hnumber : (reordered.1[j], k) ∈ t.answered order := by
    refine List.mem_of_getElem? (i := j) ?_
    rw [answered, List.getElem?_zip_eq_some, List.getElem?_map, hj]
    exact ⟨List.getElem?_eq_getElem hlength, rfl⟩
  have hlisted := hanswers.mem_iff.mp hnumber
  rw [answered, List.zipIdx_map_fst, List.zipIdx_map_snd, ← length_submitEach t submissions,
    ← List.zipIdx_eq_zip_range'] at hlisted
  exact List.mem_zipIdx_iff_getElem?.mp hlisted

/-- Two clients with an account each and one that has none are served in
another order. -/
theorem submitEach_reordered_two_accounts :
    let t := ((Table.empty.getOrCreate "N").2.getOrCreate "N").2
    let id : BankId := ⟨"N", by decide⟩
    let submissions : List Submission :=
      [⟨"BankID_1", ⟨id, .deposit, 5⟩⟩, ⟨"BankID_2", ⟨id, .withdraw, 1⟩⟩,
        ⟨"BankID_1", ⟨id, .withdraw, 5⟩⟩, ⟨"BankID_3", ⟨id, .deposit, 9⟩⟩]
    let order : List (Submission × Nat) :=
      [(⟨"BankID_3", ⟨id, .deposit, 9⟩⟩, 3), (⟨"BankID_1", ⟨id, .deposit, 5⟩⟩, 0),
        (⟨"BankID_1", ⟨id, .withdraw, 5⟩⟩, 2), (⟨"BankID_2", ⟨id, .withdraw, 1⟩⟩, 1)]
    let listed := t.submitEach submissions
    let reordered := t.submitEach (order.map Prod.fst)
    (∀ s ∈ submissions, s.token ≠ BankId.newAccountToken) ∧ Reordering submissions order ∧
    (∀ (j k : Nat) s, order[j]? = some (s, k) → submissions[k]? = some s ∧
      ∃ result, reordered.1[j]? = some result ∧ listed.1[k]? = some result) ∧
    reordered.2 = listed.2 ∧
    ∀ bank stamp sink,
      Ledger.write reordered.2 bank stamp sink = Ledger.write listed.2 bank stamp sink := by
  intro t id submissions order listed reordered
  have hnamed : ∀ s ∈ submissions, s.token ≠ BankId.newAccountToken := by decide
  have horder : Reordering submissions order := ⟨by decide, by decide⟩
  exact ⟨hnamed, horder,
    submitEach_reordered (.getOrCreate (.getOrCreate .empty "N") "N") hnamed horder⟩

end CountingHouse.Table
