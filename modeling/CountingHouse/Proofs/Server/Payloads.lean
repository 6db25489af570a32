/-
CountingHouse.Proofs.Server.Payloads — payloads that the server takes one
after another, and what they leave in the accounts.

`Table.rule` is the rule of the bank for one payload, whoever it comes from
and whether or not it can be read. A payload may be taken under the teller
map of any batch, so `Table.ruleAll` is given the map beside each. What it
leaves in an account is told by the rulings alone: the transactions that
were carried out on it, in their order, and nothing else
(`Sound.ruled_ruleAll`). A ruling files a transaction exactly when it is
answered with success or with the deletion of the account
(`isSome_filed?_rule`).
-/
import CountingHouse.Proofs.Server.Books
import CountingHouse.Proofs.Table.Money

namespace CountingHouse

/-! ## Accounts that grow -/

namespace Account

/-- A transaction as the account files it, under its own id. -/
def own (a : Account) (x : Transaction) : Transaction :=
  { x with bankId := a.bankId }

/-- The account after some transactions that were all carried out. -/
structure Grown (a : Account) (xs : List Transaction) (a' : Account) : Prop where
  bankId : a'.bankId = a.bankId
  /-- They stand behind the earlier ones, the oldest of which are lost when
  there are too many. -/
  history : a'.history =
    (a.history ++ xs.map a.own).drop (a.history.length + xs.length - historyLimit)
  count : a'.count = a.count + xs.length
  credits : a'.credits.toInt = a.credits.toInt + (xs.map Transaction.signedAmount).sum

theorem Grown.refl {a : Account} (ha : a.Filed) : a.Grown [] a := by
  refine ⟨rfl, ?_, rfl, by simp⟩
  simp [Nat.sub_eq_zero_of_le ha.bounded]

theorem Grown.apply {a : Account} (ha : a.Filed) {x : Transaction}
    (h : (a.apply x).1.isAccepted = true) : a.Grown [x] (a.apply x).2 := by
  have hcredits := a.credits_apply x
  rw [if_pos h] at hcredits
  rcases apply_cases a x with ⟨refusal, hrefused, _⟩ | ⟨credits, _, heq⟩
  · rw [isAccepted_apply, hrefused] at h
    cases h
  · have hafter : (a.apply x).2 = { a with credits }.record (a.own x) := by rw [heq]; rfl
    have hrecord := record_eq (a := { a with credits }) ha.bounded (a.own x)
    refine ⟨apply_bankId a x, ?_, ?_, by simpa using hcredits⟩
    · simp only [hafter, hrecord, List.map_cons, List.map_nil, List.length_singleton]
    · simp only [hafter, hrecord, List.length_singleton]

/-- More transactions follow. -/
theorem Grown.trans {a b c : Account} {xs ys : List Transaction} (ha : a.Filed)
    (h : a.Grown xs b) (h' : b.Grown ys c) : a.Grown (xs ++ ys) c := by
  have hown : b.own = a.own := by
    funext x
    rw [own, own, h.bankId]
  have hdrop := drop_append_drop ha.bounded (xs.map a.own) (ys.map a.own)
  simp only [List.length_append, List.length_map] at hdrop
  refine ⟨h'.bankId.trans h.bankId, ?_, ?_, ?_⟩
  · rw [h'.history, h.history, hown, hdrop, List.map_append, List.length_append]
  · rw [h'.count, h.count, List.length_append, Nat.add_assoc]
  · rw [h'.credits, h.credits, List.map_append, List.sum_append, Int.add_assoc]

end Account

/-! ## The rule -/

open Server.Books (senderOf)

/-- What the bank makes of a payload. -/
structure Ruling where
  /-- The answer; `none` when the payload is discarded. -/
  answer : Option Response
  /-- The transaction that is carried out, and the position of its
  account. -/
  filed? : Option (Nat × Transaction)

/-- Was the transaction carried out, as the teller is told? -/
def Ruling.isAccepted (r : Ruling) : Bool :=
  r.answer.any Response.isAccepted

namespace Table

/-- The ruling on a payload that is taken under a teller map. One that holds
no transaction fails, one from outside the batch is discarded, and any other
is answered as a request of its client. -/
def rule (t : Table) (map : TellerMap) (p : Posted) : Ruling × Table :=
  match p.payload.decode with
  | .error _ => (⟨some .failure, none⟩, t)
  | .ok x =>
    match senderOf map ⟨p.teller, p.pid, x⟩ with
    | none => (⟨none, none⟩, t)
    | some a =>
      let (answer, after) := t.answer a.client x
      let position := if answer.isAccepted then t.destination? a.client x else none
      (⟨some answer, position.map (·, x)⟩, after)

/-- The rulings on payloads that are taken in order, each under its map. -/
def ruleAll (t : Table) : List (TellerMap × Posted) → List Ruling × Table
  | [] => ([], t)
  | (map, p) :: rest =>
    let (ruling, t) := t.rule map p
    let (rulings, t) := t.ruleAll rest
    (ruling :: rulings, t)

theorem ruleAll_cons (t : Table) (map : TellerMap) (p : Posted)
    (rest : List (TellerMap × Posted)) :
    t.ruleAll ((map, p) :: rest) =
      ((t.rule map p).1 :: ((t.rule map p).2.ruleAll rest).1,
        ((t.rule map p).2.ruleAll rest).2) := rfl

theorem ruleAll_append (t : Table) (payloads more : List (TellerMap × Posted)) :
    t.ruleAll (payloads ++ more) =
      ((t.ruleAll payloads).1 ++ ((t.ruleAll payloads).2.ruleAll more).1,
        ((t.ruleAll payloads).2.ruleAll more).2) := by
  induction payloads generalizing t with
  | nil => rfl
  | cons payload payloads ih =>
    obtain ⟨map, p⟩ := payload
    rw [List.cons_append, ruleAll_cons, ruleAll_cons, ih]
    rfl

/-- What a ruling can do to the accounts. -/
theorem rule_cases (t : Table) (map : TellerMap) (p : Posted) :
    (∃ client i x, (t.getOrCreate client).1 = .ok i ∧
      (t.rule map p).1.answer = some ((t.getOrCreate client).2.apply i x).1 ∧
      (t.rule map p).1.filed? =
        (if ((t.getOrCreate client).2.apply i x).1.isAccepted then some (i, x) else none) ∧
      (t.rule map p).2 = ((t.getOrCreate client).2.apply i x).2) ∨
    ((t.rule map p).1.isAccepted = false ∧ (t.rule map p).1.filed? = none ∧
      (t.rule map p).2 = t) := by
  unfold rule Ruling.isAccepted
  cases p.payload.decode with
  | error e => exact .inr ⟨rfl, rfl, rfl⟩
  | ok x =>
    dsimp only
    cases senderOf map ⟨p.teller, p.pid, x⟩ with
    | none => exact .inr ⟨rfl, rfl, rfl⟩
    | some a =>
      dsimp only
      rcases t.answer_cases a.client x with ⟨i, hgoes, _, hfound, heq⟩ | ⟨_, heq⟩
      · rw [heq, hgoes]
        refine .inl ⟨a.client, i, x, hfound, rfl, ?_, rfl⟩
        split <;> rfl
      · rw [heq]
        exact .inr ⟨rfl, rfl, rfl⟩

/-- What is accepted is filed, and nothing else. -/
theorem isSome_filed?_rule (t : Table) (map : TellerMap) (p : Posted) :
    (t.rule map p).1.filed?.isSome = (t.rule map p).1.isAccepted := by
  rcases t.rule_cases map p with ⟨client, i, x, _, hanswer, hfiled, _⟩ | ⟨hrefused, hfiled, _⟩
  · rw [Ruling.isAccepted, hanswer, hfiled, Option.any_some]
    split
    · next h => rw [h]; rfl
    · next h => rw [Bool.eq_false_iff.mpr h]; rfl
  · rw [hfiled, hrefused]
    rfl

theorem prefix_ids_rule (t : Table) (map : TellerMap) (p : Posted) :
    t.ids <+: (t.rule map p).2.ids := by
  rcases t.rule_cases map p with ⟨client, i, x, _, _, _, htable⟩ | ⟨_, _, htable⟩
  · rw [htable, ids_apply]
    exact t.prefix_ids_getOrCreate client
  · simp [htable]

theorem Sound.rule {t : Table} (h : t.Sound) (map : TellerMap) (p : Posted) :
    (t.rule map p).2.Sound := by
  rcases t.rule_cases map p with ⟨client, i, x, _, _, _, htable⟩ | ⟨_, _, htable⟩
  · rw [htable]
    exact (h.getOrCreate client).apply i x
  · rw [htable]
    exact h

/-! ## The accounts -/

/-- The transactions that are filed in the account at a position. -/
def filedAt (i : Nat) (rulings : List Ruling) : List Transaction :=
  rulings.filterMap fun r => r.filed?.bind fun (j, x) => if j = i then some x else none

theorem filedAt_cons (i : Nat) (r : Ruling) (rulings : List Ruling) :
    filedAt i (r :: rulings) = filedAt i [r] ++ filedAt i rulings := by
  unfold filedAt
  rw [← List.filterMap_append]
  rfl

/-- The account at a position as it was before: opened since then if it was
not there. -/
def Was (t : Table) (i : Nat) (a a' : Account) : Prop :=
  t.get? i = some a ∨ (t.get? i = none ∧ a = .opened a'.bankId)

/-- Every account has come about by the transactions that were filed in
it. -/
def Grown (t : Table) (rulings : List Ruling) (t' : Table) : Prop :=
  ∀ i a', t'.get? i = some a' → ∃ a, t.Was i a a' ∧ a.Grown (filedAt i rulings) a'

theorem was_getOrCreate {t : Table} {client : String} {i : Nat} {a : Account}
    (h : (t.getOrCreate client).2.get? i = some a) : t.Was i a a := by
  rcases t.snd_getOrCreate_cases client with ⟨id, _, heq⟩ | heq <;> rw [heq] at h
  · by_cases hi : i < t.size
    · rw [get?_add_of_lt hi] at h
      exact .inl h
    · have hi : t.size ≤ i := Nat.not_lt.mp hi
      have hlength : t.toList.length ≤ i := by rwa [length_toList]
      rw [get?_eq, toList_add, List.getElem?_append_right hlength] at h
      have ha : a = .opened id := List.mem_singleton.mp (List.mem_of_getElem? h)
      exact .inr ⟨get?_eq_none_iff.mpr hi, by rw [ha]; rfl⟩
  · exact .inl h

theorem Sound.filed_get? {t : Table} (h : t.Sound) {i : Nat} {a : Account}
    (hget : t.get? i = some a) : a.Filed :=
  h.filed a (List.mem_of_getElem? (t.get?_eq i ▸ hget))

/-- A transaction fills the account it is carried out on, if it is. -/
theorem grown_apply {t : Table} (h : t.Sound) (i : Nat) (x : Transaction) {j : Nat} {a' : Account}
    (hget : (t.apply i x).2.get? j = some a') :
    ∃ a, t.get? j = some a ∧ a'.bankId = a.bankId ∧
      a.Grown (if (t.apply i x).1.isAccepted ∧ i = j then [x] else []) a' := by
  by_cases haccepted : (t.apply i x).1.isAccepted = true
  · by_cases hij : i = j
    · subst hij
      rcases t.apply_cases i x with ⟨a, hthere, hresponse, hlist, _⟩ | ⟨_, heq⟩
      · obtain ⟨hi, _⟩ := List.getElem?_eq_some_iff.mp hthere
        rw [get?_eq, hlist, List.getElem?_set_self hi] at hget
        cases hget
        rw [hresponse] at haccepted
        rw [← get?_eq] at hthere
        refine ⟨a, hthere, a.apply_bankId x, ?_⟩
        rw [if_pos ⟨hresponse ▸ haccepted, rfl⟩]
        exact .apply (h.filed_get? hthere) haccepted
      · rw [heq] at haccepted
        cases haccepted
    · rw [get?_apply_of_ne hij] at hget
      refine ⟨a', hget, rfl, ?_⟩
      rw [if_neg fun hboth => hij hboth.2]
      exact .refl (h.filed_get? hget)
  · rw [apply_of_refused (Bool.eq_false_iff.mpr haccepted)] at hget
    refine ⟨a', hget, rfl, ?_⟩
    rw [if_neg fun hboth => haccepted hboth.1]
    exact .refl (h.filed_get? hget)

/-- One payload fills at most one account. -/
theorem grown_rule {t : Table} (h : t.Sound) (map : TellerMap) (p : Posted) :
    t.Grown [(t.rule map p).1] (t.rule map p).2 := by
  intro j a' hget
  rcases t.rule_cases map p with ⟨client, i, x, _, _, hfiled, htable⟩ | ⟨_, hfiled, htable⟩
  · rw [htable] at hget
    obtain ⟨a, hthere, hid, hgrown⟩ := grown_apply (h.getOrCreate client) i x hget
    have hfiledAt : filedAt j [(t.rule map p).1] =
        if ((t.getOrCreate client).2.apply i x).1.isAccepted ∧ i = j then [x] else [] := by
      unfold filedAt
      rw [List.filterMap_cons, hfiled]
      by_cases haccepted : ((t.getOrCreate client).2.apply i x).1.isAccepted = true
      · by_cases hij : i = j
        · subst hij
          simp [haccepted]
        · simp [haccepted, hij]
      · simp [haccepted]
    rw [hfiledAt]
    refine ⟨a, ?_, hgrown⟩
    unfold Was
    rw [hid]
    exact was_getOrCreate hthere
  · rw [htable] at hget
    refine ⟨a', .inl hget, ?_⟩
    have hnothing : filedAt j [(t.rule map p).1] = [] := by simp [filedAt, hfiled]
    rw [hnothing]
    exact .refl (h.filed_get? hget)

/-- What is filed is filed in an account that is there. -/
theorem lt_size_of_filed?_rule {t : Table} {map : TellerMap} {p : Posted} {i : Nat}
    {x : Transaction} (h : (t.rule map p).1.filed? = some (i, x)) :
    i < (t.rule map p).2.size := by
  rcases t.rule_cases map p with ⟨client, j, y, _, _, hfiled, htable⟩ | ⟨_, hfiled, _⟩
  · rw [hfiled] at h
    split at h
    · next haccepted =>
      cases h
      rw [htable, size_apply]
      rcases (t.getOrCreate client).2.apply_cases i x with ⟨a, hthere, _⟩ | ⟨_, heq⟩
      · obtain ⟨hi, _⟩ := List.getElem?_eq_some_iff.mp hthere
        rwa [length_toList] at hi
      · rw [heq] at haccepted
        cases haccepted
    · cases h
  · rw [hfiled] at h
    cases h

/-- What is said of the accounts before and after some rulings. -/
structure Ruled (t : Table) (rulings : List Ruling) (t' : Table) : Prop where
  /-- No account goes away or gets another place. -/
  ids : t.ids <+: t'.ids
  /-- What is accepted is filed, and nothing else. -/
  filed : ∀ r ∈ rulings, r.filed?.isSome = r.isAccepted
  /-- It is filed in an account that is there. -/
  there : ∀ r ∈ rulings, ∀ i x, r.filed? = some (i, x) → i < t'.size
  grown : t.Grown rulings t'

/-- **The accounts come about by the transactions that are accepted.** -/
theorem Sound.ruled_ruleAll {t : Table} (h : t.Sound) (payloads : List (TellerMap × Posted)) :
    t.Ruled (t.ruleAll payloads).1 (t.ruleAll payloads).2 := by
  induction payloads generalizing t with
  | nil =>
    refine ⟨List.prefix_rfl, nofun, nofun, fun i a' hget => ⟨a', .inl hget, ?_⟩⟩
    exact .refl (h.filed_get? hget)
  | cons payload payloads ih =>
    obtain ⟨map, p⟩ := payload
    obtain ⟨hids, hfiled, hthere, hgrown⟩ := ih (h.rule map p)
    have hfirst := t.prefix_ids_rule map p
    have hsizes : (t.rule map p).2.size ≤ ((t.rule map p).2.ruleAll payloads).2.size := by
      rw [← length_ids, ← length_ids]
      exact hids.length_le
    rw [ruleAll_cons]
    refine ⟨hfirst.trans hids, ?_, ?_, fun i a' hget => ?_⟩
    · simp only [List.forall_mem_cons]
      exact ⟨t.isSome_filed?_rule map p, hfiled⟩
    · simp only [List.forall_mem_cons]
      exact ⟨fun i x hx => Nat.lt_of_lt_of_le (lt_size_of_filed?_rule hx) hsizes, hthere⟩
    · obtain ⟨b, hwas, hlater⟩ := hgrown i a' hget
      rw [filedAt_cons]
      rcases hwas with hb | ⟨hnone, hb⟩
      · obtain ⟨a, hwas, hearlier⟩ := grown_rule h map p i b hb
        have hfiled : a.Filed := by
          rcases hwas with ha | ⟨_, rfl⟩
          · exact h.filed_get? ha
          · exact .opened _
        refine ⟨a, ?_, hearlier.trans hfiled hlater⟩
        unfold Was
        rw [hlater.bankId]
        exact hwas
      · -- nothing has been filed yet where there was no account
        have hsize := get?_eq_none_iff.mp hnone
        have hnothing : filedAt i [(t.rule map p).1] = [] := by
          unfold filedAt
          cases hx : (t.rule map p).1.filed? with
          | none => simp [hx]
          | some filed =>
            obtain ⟨j, x⟩ := filed
            have hj := lt_size_of_filed?_rule hx
            simp [hx, show j ≠ i by omega]
        have hbefore : t.get? i = none := by
          rw [get?_eq_none_iff]
          have hle := hfirst.length_le
          rw [length_ids, length_ids] at hle
          omega
        rw [hnothing]
        exact ⟨b, .inr ⟨hbefore, hb⟩, hlater⟩

end Table

/-- The server follows the rule. -/
theorem Server.Books.handle_eq_rule (map : TellerMap) (p : Posted) (b : Books) :
    (Mailbox.handle p (processEnvelope map) b).1 = (b.table.rule map p).1.answer ∧
      (Mailbox.handle p (processEnvelope map) b).2.table = (b.table.rule map p).2 := by
  unfold Mailbox.handle Table.rule
  cases p.payload.decode with
  | error e => exact ⟨rfl, rfl⟩
  | ok x =>
    dsimp only
    cases hsender : senderOf map ⟨p.teller, p.pid, x⟩ with
    | none =>
      rw [processEnvelope_of_stranger hsender]
      exact ⟨rfl, rfl⟩
    | some a => exact processEnvelope_of_sender hsender b

end CountingHouse
