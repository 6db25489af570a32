/-
CountingHouse.Proofs.Ledger.Reachable — the tables a bank can have.

A bank starts without accounts or with whatever some bytes are read as,
and then opens accounts, takes over loaded ones and carries out
transactions, in any order. Reading is itself a run of such steps, so
`Reachable.sound` needs one argument for both: every step keeps a table
sound.
-/
import CountingHouse.Proofs.Ledger.Document
import CountingHouse.Proofs.Table

namespace CountingHouse.Ledger

/-- An account that can be handed to a table: read from a line or just
opened. -/
inductive Loadable : Account → Prop where
  | parsed {line : List Char} {e : Entry} (h : parseAccount line = .ok e) : Loadable e.account
  | opened (id : BankId) : Loadable (.opened id)

/-- The tables that come up while a bank is at work. -/
inductive Reachable : Table → Prop where
  | empty : Reachable .empty
  | read {source : Source} {t : Table} {notices : List Notice}
      (h : Ledger.read source = .ok (t, notices)) : Reachable t
  | getOrCreate {t : Table} (h : Reachable t) (token : String) :
      Reachable (t.getOrCreate token).2
  | insertLoaded {t : Table} (h : Reachable t) {a : Account} (ha : Loadable a) :
      Reachable (t.insertLoaded a).2
  | apply {t : Table} (h : Reachable t) (position : Nat) (x : Transaction) :
      Reachable (t.apply position x).2

theorem Loadable.filed {a : Account} (h : Loadable a) : a.Filed := by
  cases h with
  | parsed h => exact filed_of_parseAccount h
  | opened id => exact .opened id

/-! ## Reading keeps a table sound -/

/-- What a line does to a table: it adds the account the line describes,
or nothing. -/
theorem takeLine_cases (t : Table) (number : Nat) (line : List UInt8) :
    (∃ e, judge line = .entry e ∧ (takeLine t number line).1 = (t.insertLoaded e.account).2) ∨
    (takeLine t number line).1 = t := by
  rw [takeLine]
  cases h : judge line with
  | skipped => exact .inr rfl
  | malformed reason => exact .inr rfl
  | entry e =>
    refine .inl ⟨e, rfl, ?_⟩
    rcases t.insertLoaded_cases e.account with ⟨_, heq⟩ | ⟨_, heq⟩ <;> simp only [heq]

theorem sound_takeLine {t : Table} (h : t.Sound) (number : Nat) (line : List UInt8) :
    (takeLine t number line).1.Sound := by
  rcases takeLine_cases t number line with ⟨e, hjudge, heq⟩ | heq <;> rw [heq]
  · exact h.insertLoaded (filed_of_parseAccount (of_judgeTrimmed hjudge).2.2)
  · exact h

theorem takeLines_cons (t : Table) (number : Nat) (line : List UInt8)
    (rest : List (List UInt8)) :
    (takeLines t number (line :: rest)).1 =
      (takeLines (takeLine t number line).1 (number + 1) rest).1 := rfl

theorem sound_takeLines {t : Table} (h : t.Sound) (number : Nat) (ls : List (List UInt8)) :
    (takeLines t number ls).1.Sound := by
  induction ls generalizing t number with
  | nil => exact h
  | cons line ls ih =>
    rw [takeLines_cons]
    exact ih (sound_takeLine h number line) (number + 1)

theorem sound_readBytes (bytes : List UInt8) : (readBytes bytes).1.Sound :=
  sound_takeLines .empty 1 (Text.lines bytes)

/-- **Every table of a bank is sound.** -/
theorem Reachable.sound {t : Table} (h : Reachable t) : t.Sound := by
  induction h with
  | empty => exact .empty
  | @read source t notices h =>
    rw [Ledger.read] at h
    split at h
    · cases h
    · next bytes _ =>
      rw [← show (readBytes bytes).1 = t from congrArg Prod.fst (Except.ok.inj h)]
      exact sound_readBytes bytes
  | getOrCreate _ token ih => exact ih.getOrCreate token
  | insertLoaded _ ha ih => exact ih.insertLoaded ha.filed
  | apply _ position x ih => exact ih.apply position x

end CountingHouse.Ledger
