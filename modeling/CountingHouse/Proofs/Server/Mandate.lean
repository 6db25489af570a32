/-
CountingHouse.Proofs.Server.Mandate — an envelope without a mandate might
as well not have been sent.

Such an envelope is reported and does nothing else, so leaving it out
changes neither the accounts nor the answers to the others nor, but for
the time in its header, the ledger file (`handleAll_leaves_out`). Once an
envelope with a mandate has come the ledger is up to date and stays so
(`upToDate_handleAll`), which ties the file to the accounts and the time
of the last attempt.

A mandate reaches one account. It is the account with the name under
which the client enrolled (`eq_of_get?_handling_ne`), or a new one when
this name asks for that; an account that bears this very name is
therefore out of everybody's reach.
-/
import CountingHouse.Proofs.Ledger.File
import CountingHouse.Proofs.Server.Handlings
import CountingHouse.Proofs.Table.Money

namespace CountingHouse

/-- Two files of a bank's ledger are alike when they are the same, or when
both hold the accounts of one table, each under the time it was written
at. -/
def Ledger.Alike (t : Table) (bank stamp stamp' : String) (bytes bytes' : List UInt8) : Prop :=
  bytes = bytes' ∨ bytes = render t bank stamp ∧ bytes' = render t bank stamp'

namespace Server.Books

open Ledger

/-- Does the envelope act under a mandate? -/
def hasMandate (map : TellerMap) (e : Envelope) : Bool :=
  (mandateOf map e).isSome

/-- Could the ledger be written, if that was attempted? -/
def Handling.Saved (h : Handling) : Prop :=
  ∀ error, .ledgerNotWritten error ∉ h.reports

/-- The bytes in the ledger file. -/
def file (b : Books) : List UInt8 :=
  b.ledger.contents b.volume

/-- The root is a directory and holds no bytes, whatever is put there. -/
theorem file_of_root {b : Books} (h : b.ledger.file.place = []) : b.file = [] := by
  unfold file LedgerFile.contents
  rw [h]
  rfl

/-! ## Without a mandate -/

theorem processEnvelope_of_no_mandate {map : TellerMap} {e : Envelope}
    (h : mandateOf map e = none) (b : Books) :
    ∃ answer event, processEnvelope map e b = (answer, b.note event) ∧
      ∀ error, event ≠ .ledgerNotWritten error := by
  unfold processEnvelope
  cases hsender : senderOf map e with
  | none => exact ⟨_, _, rfl, nofun⟩
  | some a =>
    by_cases hname : e.transaction.bankId.text = a.client
    · rw [mandateOf_of_senderOf hsender hname] at h
      cases h
    · simp only [if_pos hname]
      exact ⟨_, _, rfl, nofun⟩

/-! ## Writing the ledger -/

theorem persist_cases (b : Books) :
    (b.flush.1 = .ok () ∧ b.persist = b.flush.2) ∨
    (∃ error, b.flush.1 = .error error ∧
      b.persist = b.flush.2.note (.ledgerNotWritten error)) := by
  unfold persist
  rcases b.flush with ⟨error | done, after⟩
  · exact .inr ⟨error, rfl, rfl⟩
  · exact .inl ⟨rfl, rfl⟩

theorem ledger_persist (b : Books) :
    b.persist.ledger.bank = b.ledger.bank ∧
      b.persist.ledger.file.place = b.ledger.file.place := by
  rcases b.persist_cases with ⟨_, heq⟩ | ⟨error, _, heq⟩ <;> rw [heq] <;>
    exact ⟨b.ledger.bank_flush _ _ _, b.ledger.place_flush _ _ _⟩

/-- It is one attempt, whatever comes of it. -/
theorem clock_persist (b : Books) :
    b.persist.conditions = b.conditions ∧ b.persist.flushes = b.flushes + 1 := by
  rcases b.persist_cases with ⟨_, heq⟩ | ⟨error, _, heq⟩ <;> rw [heq] <;> exact ⟨rfl, rfl⟩

/-- The file holds all accounts, or it has been reported that it could not
be written. -/
theorem file_persist {b : Books} (h : b.ledger.file.place ≠ []) :
    b.persist.file = render b.table b.ledger.bank (b.conditions b.flushes).stamp ∨
    (∃ error, b.persist.events = b.events ++ [.ledgerNotWritten error]) := by
  rcases b.persist_cases with ⟨hok, heq⟩ | ⟨error, _, heq⟩
  · rw [heq]
    exact .inl ((b.ledger.contents_flush b.table _ b.volume h).2 hok)
  · exact .inr ⟨error, by rw [heq]; rfl⟩

/-! ## With a mandate -/

theorem processEnvelope_of_mandate {map : TellerMap} {e : Envelope} {a : Assignment}
    (h : mandateOf map e = some a) (b : Books) :
    processEnvelope map e b =
      (some (b.submit a.client e.transaction).1,
        (b.submit a.client e.transaction).2.persist) := by
  obtain ⟨hsender, hname⟩ := senderOf_of_mandateOf h
  simp [processEnvelope, hsender, hname]

/-- A submission is about accounts; it reports something and leaves
everything else alone. -/
theorem submit_frame (b : Books) (client : String) (x : Transaction) :
    ∃ table report, (b.submit client x).2 = { b with table, events := b.events ++ report } ∧
      ∀ error, .ledgerNotWritten error ∉ report := by
  unfold submit
  rcases b.table.submit client x with ⟨error | ⟨position, response⟩, t⟩
  · exact ⟨t, [.rejected client error], rfl, by simp⟩
  · simp only
    split
    · next account _ => exact ⟨t, [.processed client x account response], rfl, by simp⟩
    · exact ⟨t, [], by rw [List.append_nil], by simp⟩

/-- It stays the file of the same bank. -/
theorem ledger_handling (map : TellerMap) (e : Envelope) (b : Books) :
    (handling map e b).after.ledger.bank = b.ledger.bank ∧
      (handling map e b).after.ledger.file.place = b.ledger.file.place := by
  unfold handling
  cases h : mandateOf map e with
  | none =>
    obtain ⟨answer, event, heq, _⟩ := processEnvelope_of_no_mandate h b
    rw [heq]
    exact ⟨rfl, rfl⟩
  | some a =>
    obtain ⟨t, report, hsubmit, _⟩ := b.submit_frame a.client e.transaction
    rw [processEnvelope_of_mandate h, hsubmit]
    exact ledger_persist _

/-- Envelopes with a mandate are what the ledger is written for. -/
theorem clock_handling (map : TellerMap) (e : Envelope) (b : Books) :
    (handling map e b).after.conditions = b.conditions ∧
      (handling map e b).after.flushes = b.flushes + (hasMandate map e).toNat := by
  unfold handling hasMandate
  cases h : mandateOf map e with
  | none =>
    obtain ⟨answer, event, heq, _⟩ := processEnvelope_of_no_mandate h b
    rw [heq]
    exact ⟨rfl, rfl⟩
  | some a =>
    obtain ⟨t, report, hsubmit, _⟩ := b.submit_frame a.client e.transaction
    rw [processEnvelope_of_mandate h, hsubmit]
    exact clock_persist _

/-! ## A ledger that is up to date -/

/-- The time of the last attempt to write the ledger. -/
def lastStamp (b : Books) : String :=
  (b.conditions (b.flushes - 1)).stamp

/-- The file holds the accounts as they are, under the time of the last
attempt to write it. -/
def UpToDate (b : Books) : Prop :=
  b.file = render b.table b.ledger.bank b.lastStamp

theorem upToDate_handling_of_mandate {map : TellerMap} {e : Envelope} {a : Assignment}
    (h : mandateOf map e = some a) {b : Books} (hplace : b.ledger.file.place ≠ [])
    (hsaved : (handling map e b).Saved) : (handling map e b).after.UpToDate := by
  obtain ⟨t, report, hsubmit, _⟩ := b.submit_frame a.client e.transaction
  have hafter : (handling map e b).after =
      persist { b with table := t, events := b.events ++ report } := by
    rw [handling, processEnvelope_of_mandate h, hsubmit]
  rcases file_persist (b := { b with table := t, events := b.events ++ report }) hplace with
    hfile | ⟨error, hreported⟩
  · obtain ⟨hconditions, hflushes⟩ := clock_handling map e b
    unfold UpToDate lastStamp
    rw [hconditions, hflushes, (ledger_handling map e b).1, hasMandate, h, hafter, hfile,
      table_persist]
    rfl
  · refine absurd ?_ (hsaved error)
    rw [Handling.reports, hafter, hreported, List.append_assoc]
    simp [handling]

theorem upToDate_handling {map : TellerMap} {e : Envelope} {b : Books}
    (h : b.UpToDate) (hplace : b.ledger.file.place ≠ []) (hsaved : (handling map e b).Saved) :
    (handling map e b).after.UpToDate := by
  cases hmandate : mandateOf map e with
  | none =>
    obtain ⟨answer, event, heq, _⟩ := processEnvelope_of_no_mandate hmandate b
    rw [handling, heq]
    exact h
  | some a => exact upToDate_handling_of_mandate hmandate hplace hsaved

/-- The ledger is up to date from the first envelope with a mandate on. -/
theorem upToDate_handleAll {map : TellerMap} {envelopes : List Envelope} {b : Books}
    (hplace : b.ledger.file.place ≠ []) (hsaved : ∀ h ∈ (b.handleAll map envelopes).1, h.Saved)
    (h : b.UpToDate ∨ ∃ e ∈ envelopes, hasMandate map e) :
    (b.handleAll map envelopes).2.UpToDate := by
  induction envelopes generalizing b with
  | nil => exact h.elim id fun ⟨e, he, _⟩ => absurd he List.not_mem_nil
  | cons e rest ih =>
    rw [handleAll_cons] at hsaved ⊢
    have hfirst : (handling map e b).Saved := hsaved _ List.mem_cons_self
    refine ih ?_ (fun h hh => hsaved h (List.mem_cons_of_mem _ hh)) ?_
    · rw [(ledger_handling map e b).2]
      exact hplace
    · rcases h with h | ⟨e', he', hmandate⟩
      · exact .inl (upToDate_handling h hplace hfirst)
      · rcases List.mem_cons.mp he' with rfl | he'
        · obtain ⟨a, ha⟩ := Option.isSome_iff_exists.mp hmandate
          exact .inl (upToDate_handling_of_mandate ha hplace hfirst)
        · exact .inr ⟨e', he', hmandate⟩

/-- Envelopes without a mandate leave the file alone. -/
theorem file_handleAll_of_no_mandate {map : TellerMap} {envelopes : List Envelope} {b : Books}
    (h : ∀ e ∈ envelopes, hasMandate map e = false) : (b.handleAll map envelopes).2.file = b.file := by
  induction envelopes generalizing b with
  | nil => rfl
  | cons e rest ih =>
    have hnone : mandateOf map e = none :=
      Option.isNone_iff_eq_none.mp (by simpa [hasMandate] using h e List.mem_cons_self)
    obtain ⟨answer, event, heq, _⟩ := processEnvelope_of_no_mandate hnone b
    rw [handleAll_cons, ih fun e he => h e (List.mem_cons_of_mem _ he), handling, heq]
    rfl

theorem length_handleAll (map : TellerMap) (b : Books) (envelopes : List Envelope) :
    (b.handleAll map envelopes).1.length = envelopes.length := by
  induction envelopes generalizing b with
  | nil => rfl
  | cons e rest ih => rw [handleAll_cons, List.length_cons, ih, List.length_cons]

theorem ledger_handleAll (map : TellerMap) (b : Books) (envelopes : List Envelope) :
    (b.handleAll map envelopes).2.ledger.bank = b.ledger.bank ∧
      (b.handleAll map envelopes).2.ledger.file.place = b.ledger.file.place := by
  induction envelopes generalizing b with
  | nil => exact ⟨rfl, rfl⟩
  | cons e rest ih =>
    obtain ⟨hbank, hplace⟩ := ledger_handling map e b
    rw [handleAll_cons, ← hbank, ← hplace]
    exact ih _

theorem clock_handleAll (map : TellerMap) (b : Books) (envelopes : List Envelope) :
    (b.handleAll map envelopes).2.conditions = b.conditions ∧
      (b.handleAll map envelopes).2.flushes =
        b.flushes + (envelopes.filter (hasMandate map)).length := by
  induction envelopes generalizing b with
  | nil => exact ⟨rfl, rfl⟩
  | cons e rest ih =>
    obtain ⟨hconditions, hflushes⟩ := clock_handling map e b
    obtain ⟨hlast, hcount⟩ := ih (handling map e b).after
    rw [handleAll_cons]
    refine ⟨hlast.trans hconditions, ?_⟩
    rw [hcount, hflushes]
    cases hmandate : hasMandate map e with
    | false => rw [List.filter_cons_of_neg (by simp [hmandate])]; rfl
    | true => rw [List.filter_cons_of_pos hmandate, List.length_cons, Bool.toNat_true]; omega

/-! ## Leaving envelopes out -/

/-- The same accounts, and ledgers of the same bank at the same place. -/
structure Twins (b b' : Books) : Prop where
  table : b.table = b'.table
  bank : b.ledger.bank = b'.ledger.bank
  place : b.ledger.file.place = b'.ledger.file.place

section
variable {map : TellerMap} {e : Envelope} {b b' : Books} (h : Twins b b')
include h

variable (map e) in
/-- The answer depends on the accounts alone. -/
theorem Twins.handling : (handling map e b).answer = (handling map e b').answer ∧
    Twins (handling map e b).after (handling map e b').after := by
  obtain ⟨hbank, hplace⟩ := ledger_handling map e b
  obtain ⟨hbank', hplace'⟩ := ledger_handling map e b'
  have hresult : (Books.handling map e b).answer = (Books.handling map e b').answer ∧
      (Books.handling map e b).after.table = (Books.handling map e b').after.table := by
    unfold Books.handling
    cases hsender : senderOf map e with
    | none =>
      rw [processEnvelope_of_stranger hsender, processEnvelope_of_stranger hsender]
      exact ⟨rfl, h.table⟩
    | some a =>
      obtain ⟨hanswer, htable⟩ := processEnvelope_of_sender hsender b
      obtain ⟨hanswer', htable'⟩ := processEnvelope_of_sender hsender b'
      simp only [hanswer, htable, hanswer', htable', h.table, and_self]
  exact ⟨hresult.1, hresult.2, by rw [hbank, h.bank, hbank'], by rw [hplace, h.place, hplace']⟩

theorem Twins.of_no_mandate (hmandate : mandateOf map e = none) :
    Twins (Books.handling map e b).after b' := by
  obtain ⟨answer, event, heq, _⟩ := processEnvelope_of_no_mandate hmandate b
  rw [Books.handling, heq]
  exact ⟨h.table, h.bank, h.place⟩

theorem Twins.handleAll (map : TellerMap) (envelopes : List Envelope) :
    let whole := b.handleAll map envelopes
    let rest := b'.handleAll map (envelopes.filter (hasMandate map))
    (whole.1.filter fun r => hasMandate map r.envelope).map Handling.answer =
      rest.1.map Handling.answer ∧ whole.2.table = rest.2.table := by
  induction envelopes generalizing b b' with
  | nil => exact ⟨rfl, h.table⟩
  | cons e envelopes ih =>
    cases hmandate : mandateOf map e with
    | none =>
      have hno : hasMandate map e = false := by rw [hasMandate, hmandate]; rfl
      simp only [List.filter_cons_of_neg (show ¬ hasMandate map e = true by simp [hno]),
        handleAll_cons]
      rw [List.filter_cons_of_neg (by simp [Books.handling, hno])]
      exact ih (h.of_no_mandate hmandate)
    | some a =>
      have hyes : hasMandate map e = true := by rw [hasMandate, hmandate]; rfl
      obtain ⟨hanswer, hafter⟩ := h.handling map e
      obtain ⟨hanswers, htable⟩ := ih hafter
      simp only [List.filter_cons_of_pos hyes, handleAll_cons]
      rw [List.filter_cons_of_pos (by exact hyes), List.map_cons, List.map_cons, hanswer, hanswers]
      exact ⟨rfl, htable⟩

end

/-- **The two files are alike.** Each run has written its ledger once for
every envelope with a mandate, and what it has written last are the
accounts that both have ended with. -/
theorem Twins.alike {b b' : Books} (h : Twins b b') (hfile : b.file = b'.file)
    (map : TellerMap) (envelopes : List Envelope) :
    let whole := b.handleAll map envelopes
    let rest := b'.handleAll map (envelopes.filter (hasMandate map))
    (∀ r ∈ whole.1, r.Saved) → (∀ r ∈ rest.1, r.Saved) →
      Alike whole.2.table b.ledger.bank (b.conditions (b.flushes + rest.1.length - 1)).stamp
        (b'.conditions (b'.flushes + rest.1.length - 1)).stamp whole.2.file rest.2.file := by
  intro whole rest hsaved hsaved'
  by_cases hnone : ∀ e ∈ envelopes, hasMandate map e = false
  · have hempty : envelopes.filter (hasMandate map) = [] :=
      List.filter_eq_nil_iff.mpr fun e he => by simp [hnone e he]
    refine .inl ?_
    rw [show rest = ([], b') by simp only [rest, hempty]; rfl]
    exact (file_handleAll_of_no_mandate hnone).trans hfile
  obtain ⟨e, he, hmandate⟩ : ∃ e ∈ envelopes, hasMandate map e = true := by
    simpa using hnone
  obtain ⟨hbank, hplace⟩ := ledger_handleAll map b envelopes
  obtain ⟨hbank', hplace'⟩ := ledger_handleAll map b' (envelopes.filter (hasMandate map))
  by_cases hroot : b.ledger.file.place = []
  · refine .inl ?_
    rw [file_of_root (hplace.trans hroot), file_of_root (hplace'.trans (h.place ▸ hroot))]
  · have hwhole := upToDate_handleAll hroot hsaved (.inr ⟨e, he, hmandate⟩)
    have hrest := upToDate_handleAll (h.place ▸ hroot) hsaved'
      (.inr ⟨e, List.mem_filter.mpr ⟨he, hmandate⟩, hmandate⟩)
    obtain ⟨hconditions, hflushes⟩ := clock_handleAll map b envelopes
    obtain ⟨hconditions', hflushes'⟩ := clock_handleAll map b' (envelopes.filter (hasMandate map))
    simp only [List.filter_filter, Bool.and_self] at hflushes'
    rw [UpToDate, lastStamp, hbank, hconditions, hflushes] at hwhole
    rw [UpToDate, lastStamp, hbank', hconditions', hflushes', ← (h.handleAll map envelopes).2,
      ← h.bank] at hrest
    rw [length_handleAll]
    exact .inr ⟨hwhole, hrest⟩

/-! ## What a mandate reaches -/

theorem wellFormed_handling {b : Books} (h : b.table.WellFormed) (map : TellerMap)
    (e : Envelope) : (handling map e b).after.table.WellFormed := by
  rcases handling_cases map e b with ⟨a, i, _, _, _, _, htable⟩ | ⟨_, _, htable⟩
  · rw [htable]
    exact (h.getOrCreate a.client).apply i e.transaction
  · rw [htable]
    exact h

/-- An account is changed under its own name, and not under the name that
asks for a new account. -/
theorem eq_of_get?_handling_ne {map : TellerMap} {e : Envelope} {b : Books}
    (h : b.table.WellFormed) {i : Nat} {a : Account} (hget : b.table.get? i = some a)
    (hne : (handling map e b).after.table.get? i ≠ some a) :
    ∃ m, mandateOf map e = some m ∧ m.client = a.bankId.text ∧
      m.client ≠ BankId.newAccountToken := by
  have hi : i < b.table.size := (Array.getElem?_eq_some_iff.mp hget).1
  rcases handling_cases map e b with ⟨m, j, hmandate, _, hfound, _, htable⟩ | ⟨_, _, htable⟩
  · have hij : j = i := by
      by_contra hother
      rw [htable, Table.get?_apply_of_ne hother, Table.get?_getOrCreate_of_lt hi] at hne
      exact hne hget
    subst hij
    rcases b.table.getOrCreate_cases m.client with
      ⟨_, id, _, heq⟩ | ⟨hnamed, id, k, htext, hid, heq⟩ | ⟨error, heq⟩ <;> rw [heq] at hfound
    · -- a new account would stand behind all others
      cases hfound
      exact absurd hi (Nat.lt_irrefl _)
    · cases hfound
      have hstands := h.find?_eq_some_iff.mp hid
      rw [Table.getElem?_ids, hget, Option.map_some, Option.some.injEq] at hstands
      exact ⟨m, hmandate, by rw [hstands, htext], hnamed⟩
    · cases hfound
  · rw [htable] at hne
    exact absurd hget hne

/-- Along a run an account is changed under its own name only, whatever
happens to it in between. -/
theorem client_of_changed {map : TellerMap} {envelopes : List Envelope} {b : Books}
    (hb : b.table.WellFormed) {i : Nat} {a : Account} (hget : b.table.get? i = some a) :
    ∀ h ∈ (b.handleAll map envelopes).1, h.after.table.get? i ≠ h.before.table.get? i →
      ∃ m, mandateOf map h.envelope = some m ∧ m.client = a.bankId.text ∧
        m.client ≠ BankId.newAccountToken := by
  induction envelopes generalizing b a with
  | nil => exact fun h hh => absurd hh List.not_mem_nil
  | cons e envelopes ih =>
    intro h hh hne
    rw [handleAll_cons] at hh
    rcases List.mem_cons.mp hh with rfl | hh
    · exact eq_of_get?_handling_ne hb hget (by rw [← hget]; exact hne)
    · -- the account has kept its place and its id
      obtain ⟨newer, hids⟩ := prefix_ids_handling map e b
      have hid : b.table.ids[i]? = some a.bankId := by rw [Table.getElem?_ids, hget]; rfl
      have hid' : (handling map e b).after.table.ids[i]? = some a.bankId := by
        rw [← hids, List.getElem?_append_left (List.getElem?_eq_some_iff.mp hid).1, hid]
      rw [Table.getElem?_ids] at hid'
      obtain ⟨a', hget', hsame⟩ := Option.map_eq_some_iff.mp hid'
      rw [← hsame]
      exact ih (wellFormed_handling hb map e) hget' h hh hne

/-- Nobody can reach an account with the name that asks for a new one. -/
theorem get?_handleAll_of_newAccountToken {map : TellerMap} {envelopes : List Envelope}
    {b : Books} (hb : b.table.WellFormed) {i : Nat} {a : Account}
    (hget : b.table.get? i = some a) (hname : a.bankId.text = BankId.newAccountToken) :
    (b.handleAll map envelopes).2.table.get? i = some a := by
  induction envelopes generalizing b with
  | nil => exact hget
  | cons e envelopes ih =>
    rw [handleAll_cons]
    refine ih (wellFormed_handling hb map e) ?_
    by_contra hne
    obtain ⟨m, _, hclient, hnamed⟩ := eq_of_get?_handling_ne hb hget hne
    exact hnamed (hclient.trans hname)

/-- Did the envelope open the account at a position? -/
def Handling.Opens (h : Handling) (i : Nat) : Prop :=
  h.before.table.size ≤ i ∧ i < h.after.table.size

/-- Accounts are opened for clients that have enrolled for new ones. -/
theorem exists_of_opens {map : TellerMap} {e : Envelope} {b : Books} {i : Nat}
    (h : (handling map e b).Opens i) :
    ∃ m, mandateOf map e = some m ∧ m.client = BankId.newAccountToken := by
  obtain ⟨hbefore, hafter⟩ := h
  rcases handling_cases map e b with ⟨m, j, hmandate, _, _, _, htable⟩ | ⟨_, _, htable⟩
  · rw [htable, Table.size_apply] at hafter
    rcases b.table.getOrCreate_cases m.client with
      ⟨hnew, _⟩ | ⟨_, id, k, _, _, heq⟩ | ⟨error, heq⟩
    · exact ⟨m, hmandate, hnew⟩
    · rw [heq] at hafter
      exact absurd hafter (Nat.not_lt.mpr hbefore)
    · rw [heq] at hafter
      exact absurd hafter (Nat.not_lt.mpr hbefore)
  · rw [htable] at hafter
    exact absurd hafter (Nat.not_lt.mpr hbefore)

theorem size_le_handling (map : TellerMap) (e : Envelope) (b : Books) :
    b.table.size ≤ (handling map e b).after.table.size := by
  rw [← Table.length_ids, ← Table.length_ids]
  exact (prefix_ids_handling map e b).length_le

theorem size_le_of_mem_handleAll {map : TellerMap} {envelopes : List Envelope} {b : Books} :
    ∀ h ∈ (b.handleAll map envelopes).1, b.table.size ≤ h.before.table.size := by
  induction envelopes generalizing b with
  | nil => exact fun h hh => absurd hh List.not_mem_nil
  | cons e envelopes ih =>
    intro h hh
    rw [handleAll_cons] at hh
    rcases List.mem_cons.mp hh with rfl | hh
    · exact Nat.le_refl _
    · exact Nat.le_trans (size_le_handling map e b) (ih h hh)

/-- Each new account is opened by one envelope. -/
theorem exists_opens {map : TellerMap} {envelopes : List Envelope} {b : Books} {i : Nat}
    (hnew : b.table.size ≤ i) (hthere : i < (b.handleAll map envelopes).2.table.size) :
    ∃ earlier h later, (b.handleAll map envelopes).1 = earlier ++ h :: later ∧ h.Opens i ∧
      (∃ m, mandateOf map h.envelope = some m ∧ m.client = BankId.newAccountToken) ∧
      ∀ other ∈ earlier ++ later, ¬ other.Opens i := by
  induction envelopes generalizing b with
  | nil => exact absurd hthere (Nat.not_lt.mpr hnew)
  | cons e envelopes ih =>
    rw [handleAll_cons] at hthere ⊢
    by_cases hopens : i < (handling map e b).after.table.size
    · refine ⟨[], handling map e b, _, rfl, ⟨hnew, hopens⟩, exists_of_opens ⟨hnew, hopens⟩, ?_⟩
      rintro other hother ⟨hbefore, _⟩
      exact absurd (Nat.lt_of_lt_of_le hopens (size_le_of_mem_handleAll other hother))
        (Nat.not_lt.mpr hbefore)
    · obtain ⟨earlier, h, later, hsplit, hh, hmandate, hothers⟩ :=
        ih (Nat.not_lt.mp hopens) hthere
      refine ⟨handling map e b :: earlier, h, later, by rw [hsplit]; rfl, hh, hmandate, ?_⟩
      intro other hother
      rcases List.mem_cons.mp hother with rfl | hother
      · exact fun hfirst => hopens hfirst.2
      · exact hothers other hother

/-- What is said of a run from some books and of another that leaves out
all envelopes without a mandate. -/
structure Isolated (map : TellerMap) (b : Books) (conditions : Nat → Conditions)
    (whole rest : List Handling × Books) : Prop where
  answers : (whole.1.filter fun h => hasMandate map h.envelope).map Handling.answer =
    rest.1.map Handling.answer
  table : whole.2.table = rest.2.table
  /-- The ledger files have the same accounts under times of their own. Each
  run has made one attempt to write for every envelope with a mandate. -/
  file : (∀ h ∈ whole.1, h.Saved) → (∀ h ∈ rest.1, h.Saved) →
    Alike whole.2.table b.ledger.bank (b.conditions (b.flushes + rest.1.length - 1)).stamp
      (conditions (b.flushes + rest.1.length - 1)).stamp whole.2.file rest.2.file
  /-- An account is changed only for clients that have enrolled under its
  id. -/
  changed : ∀ i a, b.table.get? i = some a →
    ∀ h ∈ whole.1, h.after.table.get? i ≠ h.before.table.get? i →
      ∃ m, mandateOf map h.envelope = some m ∧ m.client = a.bankId.text ∧
        m.client ≠ BankId.newAccountToken
  /-- An account called like the wish for a new one is never changed. -/
  unreachable : ∀ i a, b.table.get? i = some a → a.bankId.text = BankId.newAccountToken →
    whole.2.table.get? i = some a
  /-- A new account was opened by one envelope, of a client that has
  enrolled with this wish. -/
  opened : ∀ i, b.table.size ≤ i → i < whole.2.table.size →
    ∃ earlier h later, whole.1 = earlier ++ h :: later ∧ h.Opens i ∧
      (∃ m, mandateOf map h.envelope = some m ∧ m.client = BankId.newAccountToken) ∧
      ∀ other ∈ earlier ++ later, ¬ other.Opens i

/-- **Envelopes without a mandate do not interfere.** Leaving them all out,
on a server that writes its ledger at other times, changes no answer to
the others and no account, and the ledger files are alike if they could be
written. Every change of an account is owed to a client that has enrolled
for it. -/
theorem handleAll_leaves_out (map : TellerMap) {b : Books} (hb : b.table.WellFormed)
    (envelopes : List Envelope) (conditions : Nat → Conditions) :
    Isolated map b conditions (b.handleAll map envelopes)
      ({ b with conditions }.handleAll map (envelopes.filter (hasMandate map))) := by
  have htwins : Twins b { b with conditions } := ⟨rfl, rfl, rfl⟩
  obtain ⟨hanswers, htable⟩ := htwins.handleAll map envelopes
  exact
    { answers := hanswers
      table := htable
      file := htwins.alike rfl map envelopes
      changed := fun i a hget => client_of_changed hb hget
      unreachable := fun i a hget hname => get?_handleAll_of_newAccountToken hb hget hname
      opened := fun i hnew hthere => exists_opens hnew hthere }

/-- Two of four envelopes have no mandate: one comes from a stranger, the
other is about somebody else's account. There is an account with the name
that asks for a new one. -/
theorem handleAll_leaves_out_stranger :
    let wish : BankId := ⟨"N", by decide⟩
    let id : BankId := ⟨"BankID_2", by decide⟩
    let t := ((Table.empty.insertLoaded (.opened wish)).2.getOrCreate "N").2
    let b : Books :=
      ⟨t, ⟨"AdaBank.bankLog", "AdaBank", ⟨["AdaBank.bankLog".toList], 0⟩⟩, ⟨[], []⟩,
        fun _ => ⟨"09:30 March 02 2025", none⟩, 0, []⟩
    let later : Nat → Conditions := fun _ => ⟨"09:31 March 02 2025", none⟩
    let map : TellerMap := [⟨0, "BankID_2", 41⟩, ⟨1, "N", 42⟩]
    let envelopes : List Envelope :=
      [⟨0, 41, ⟨id, .deposit, 5⟩⟩, ⟨0, 99, ⟨id, .withdraw, 5⟩⟩, ⟨1, 42, ⟨id, .withdraw, 5⟩⟩,
        ⟨1, 42, ⟨wish, .deposit, 7⟩⟩]
    b.table.WellFormed ∧ (envelopes.filter (hasMandate map)).length = 2 ∧
      Isolated map b later (b.handleAll map envelopes)
        ({ b with conditions := later }.handleAll map (envelopes.filter (hasMandate map))) := by
  intro wish id t b later map envelopes
  have hb : b.table.WellFormed := (Table.WellFormed.empty.insertLoaded _).getOrCreate _
  exact ⟨hb, by decide, handleAll_leaves_out map hb envelopes _⟩

end Server.Books
end CountingHouse
