/-
CountingHouse.Proofs.Table.Money — what a table holds, and where it
changes.

The money of a table is counted in exact integers, account by account
(`creditsAt`) and altogether (`total`). Opening an account brings nothing
in. A transaction moves its amount to the one account it is carried out
on, and nothing when it is refused.
-/
import CountingHouse.Proofs.Table
import Mathlib.Algebra.BigOperators.Group.List.Basic
import Mathlib.Algebra.Ring.Int.Defs

namespace CountingHouse.Table

/-- The credits of the account at a position; where there is no account
there are none. -/
def creditsAt (t : Table) (i : Nat) : Int :=
  ((t.get? i).map fun a => a.credits.toInt).getD 0

/-- The credits of all accounts. -/
def total (t : Table) : Int :=
  (t.toList.map fun a => a.credits.toInt).sum

/-- No account is in debt. -/
def Solvent (t : Table) : Prop :=
  ∀ a ∈ t.toList, 0 ≤ a.credits.toInt

/-! ## Opening an account -/

theorem get?_getOrCreate_of_lt {t : Table} {i : Nat} (h : i < t.size) (token : String) :
    (t.getOrCreate token).2.get? i = t.get? i := by
  rcases snd_getOrCreate_cases t token with ⟨id, _, heq⟩ | heq <;> rw [heq]
  exact get?_add_of_lt h _

theorem total_getOrCreate (t : Table) (token : String) :
    (t.getOrCreate token).2.total = t.total := by
  rcases snd_getOrCreate_cases t token with ⟨id, _, heq⟩ | heq <;> rw [heq]
  simp [total, Account.opened]

theorem creditsAt_getOrCreate (t : Table) (token : String) (i : Nat) :
    (t.getOrCreate token).2.creditsAt i = t.creditsAt i := by
  by_cases h : i < t.size
  · unfold creditsAt
    rw [get?_getOrCreate_of_lt h]
  · -- a new account is opened where there was none, and without credits
    have hbehind : t.size ≤ i := Nat.not_lt.mp h
    have hnone : t.get? i = none := get?_eq_none_iff.mpr hbehind
    rw [← length_toList] at hbehind
    rcases snd_getOrCreate_cases t token with ⟨id, _, heq⟩ | heq <;> rw [heq]
    unfold creditsAt
    rw [hnone, get?_eq, toList_add, List.getElem?_append_right hbehind]
    cases i - t.toList.length <;> simp [Account.opened]

theorem Solvent.getOrCreate {t : Table} (h : t.Solvent) (token : String) :
    (t.getOrCreate token).2.Solvent := by
  rcases snd_getOrCreate_cases t token with ⟨id, _, heq⟩ | heq <;> rw [heq]
  · intro a ha
    rw [toList_add] at ha
    rcases List.mem_append.mp ha with ha | ha
    · exact h a ha
    · rw [List.mem_singleton.mp ha]
      exact Int.le_refl 0
  · exact h

/-! ## Carrying out a transaction -/

theorem creditsAt_apply (t : Table) (i : Nat) (x : Transaction) (j : Nat) :
    (t.apply i x).2.creditsAt j =
      t.creditsAt j + if (t.apply i x).1.isAccepted ∧ i = j then x.signedAmount else 0 := by
  by_cases hij : i = j
  · subst hij
    rcases apply_cases t i x with ⟨a, hget, hresponse, hlist, _⟩ | ⟨_, heq⟩
    · obtain ⟨hi, _⟩ := List.getElem?_eq_some_iff.mp hget
      unfold creditsAt
      rw [get?_eq, get?_eq, hlist, hget, List.getElem?_set_self hi, hresponse]
      simpa using a.credits_apply x
    · simp [heq, Response.isAccepted]
  · unfold creditsAt
    rw [get?_apply_of_ne hij]
    simp [hij]

theorem total_apply (t : Table) (i : Nat) (x : Transaction) :
    (t.apply i x).2.total =
      t.total + if (t.apply i x).1.isAccepted then x.signedAmount else 0 := by
  rcases apply_cases t i x with ⟨a, hget, hresponse, hlist, _⟩ | ⟨_, heq⟩
  · obtain ⟨hi, rfl⟩ := List.getElem?_eq_some_iff.mp hget
    have hcredits := (t.toList[i]).credits_apply x
    unfold total
    rw [hlist, hresponse, List.map_set, List.sum_set', dif_pos (by simpa using hi)]
    simp only [List.getElem_map]
    omega
  · simp [heq, Response.isAccepted]

theorem Solvent.apply {t : Table} (h : t.Solvent) (i : Nat) (x : Transaction) :
    (t.apply i x).2.Solvent := by
  rcases apply_cases t i x with ⟨a, hget, _, hlist, _⟩ | ⟨_, heq⟩
  · intro b hb
    rw [hlist] at hb
    rcases List.mem_or_eq_of_mem_set hb with hb | rfl
    · exact h b hb
    · exact Account.nonneg_apply (h a (List.mem_of_getElem? hget)) x
  · rw [heq]
    exact h

end CountingHouse.Table
