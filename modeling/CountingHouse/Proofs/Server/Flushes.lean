/-
CountingHouse.Proofs.Server.Flushes — the last ledger that could be
written is the one that counts.

While a bank is open its accounts change and its ledger is written, by
itself or after a payload, and each attempt may stop anywhere. A deed
either spares the file or writes it once, from the accounts as they are
after it (`deed_cases`). So what the file holds is settled by the last
attempt alone: all accounts if it succeeded, and otherwise the beginning
of their text. Nothing of this reaches the accounts. Two banks whose
attempts meet with different conditions stay twins, and the answers of one
are those of the other.
-/
import CountingHouse.Proofs.Ledger.RoundTrip
import CountingHouse.Proofs.Server.Mandate
import CountingHouse.Proofs.Table.Requests

namespace CountingHouse.Server.Books

open Ledger

/-! ## Deeds -/

/-- What may be done with the books of an open bank. Accounts that are
loaded have been read from a line or just opened. -/
inductive Task where
  | change (request : Table.Request) (loadable : ∀ a, request = .insertLoaded a → Loadable a)
  | handle (map : TellerMap) (e : Envelope)
  | flush

/-- What comes of it. -/
inductive Reply where
  | changed (reply : Table.Reply)
  | handled (answer : Option Response)
  | flushed (result : Except LedgerError Unit)

/-- Carries out one task. -/
def perform (b : Books) : Task → Reply × Books
  | .change request _ =>
    (.changed (b.table.serve request).1, { b with table := (b.table.serve request).2 })
  | .handle map e => (.handled (processEnvelope map e b).1, (processEnvelope map e b).2)
  | .flush => (.flushed b.flush.1, b.flush.2)

/-- The record of one task that was carried out. -/
structure Deed where
  task : Task
  reply : Reply
  before : Books
  after : Books

/-- The record of a task that is carried out now. -/
def deed (b : Books) (task : Task) : Deed :=
  ⟨task, (b.perform task).1, b, (b.perform task).2⟩

/-- Carries out tasks in order and keeps the record of each. -/
def performAll (b : Books) : List Task → List Deed × Books
  | [] => ([], b)
  | task :: rest =>
    let (deeds, last) := (b.deed task).after.performAll rest
    (b.deed task :: deeds, last)

theorem performAll_cons (b : Books) (task : Task) (rest : List Task) :
    b.performAll (task :: rest) =
      (b.deed task :: ((b.deed task).after.performAll rest).1,
        ((b.deed task).after.performAll rest).2) := rfl

namespace Deed

/-- Was an attempt made to write the ledger? -/
def Attempts (d : Deed) : Prop :=
  d.before.flushes < d.after.flushes

/-- Did an attempt fail, as the caller or the log was told? -/
def Failed (d : Deed) : Prop :=
  (∃ error, d.reply = .flushed (.error error)) ∨
    ∃ error, .ledgerNotWritten error ∈ d.after.events.drop d.before.events.length

/-- What an attempt meets with. -/
def conditions (d : Deed) : Conditions :=
  d.before.conditions d.before.flushes

/-- What the submitter is told; writing the ledger is nobody's
submission. -/
def answer? (d : Deed) : Option Reply :=
  match d.reply with
  | .flushed _ => none
  | reply => some reply

/-- The deed does nothing to the ledger file. -/
structure Spares (d : Deed) : Prop where
  ledger : d.after.ledger = d.before.ledger
  volume : d.after.volume = d.before.volume
  flushes : d.after.flushes = d.before.flushes
  fine : ¬ d.Failed

/-- What writing the accounts after the deed comes to. -/
def writing (d : Deed) : Except LedgerError Unit × LedgerFile × Volume :=
  d.before.ledger.flush d.after.table d.conditions d.before.volume

/-- The deed writes the ledger once, from the accounts after it. -/
structure Writes (d : Deed) : Prop where
  ledger : d.after.ledger = d.writing.2.1
  volume : d.after.volume = d.writing.2.2
  flushes : d.after.flushes = d.before.flushes + 1
  failed : d.Failed ↔ d.writing.1 ≠ .ok ()

end Deed

theorem failed_of_reports {d : Deed} {report : List Event}
    (hreply : ∀ result, d.reply ≠ .flushed result)
    (hevents : d.after.events = d.before.events ++ report) :
    d.Failed ↔ ∃ error, .ledgerNotWritten error ∈ report := by
  unfold Deed.Failed
  rw [hevents, List.drop_left]
  constructor
  · rintro (⟨error, hreplied⟩ | hreported)
    · exact absurd hreplied (hreply _)
    · exact hreported
  · exact .inr

/-- Handling a payload and changing the accounts are not reported as writing
the ledger. -/
theorem reply_ne_flushed (b : Books) {task : Task} (h : task ≠ .flush)
    (result : Except LedgerError Unit) : (b.deed task).reply ≠ .flushed result := by
  cases task with
  | flush => exact absurd rfl h
  | change request loadable => simp [deed, perform]
  | handle map e => simp [deed, perform]

theorem writes_flush (b : Books) : (b.deed .flush).Writes where
  ledger := rfl
  volume := rfl
  flushes := rfl
  failed := by
    have hevents : (b.deed .flush).after.events.drop b.events.length = [] :=
      List.drop_length
    have hreply : (b.deed .flush).reply = .flushed (b.deed .flush).writing.1 := rfl
    have hbefore : (b.deed .flush).before = b := rfl
    unfold Deed.Failed
    rw [hreply, hbefore, hevents]
    cases (b.deed .flush).writing.1 with
    | ok done => simp
    | error e => simp

/-- Writing the ledger after a payload reports a failure and nothing else. -/
theorem persist_report (b : Books) :
    ∃ report, b.persist = { b.flush.2 with events := b.events ++ report } ∧
      ((∃ error, .ledgerNotWritten error ∈ report) ↔ b.flush.1 ≠ .ok ()) := by
  rcases b.persist_cases with ⟨hok, heq⟩ | ⟨error, herror, heq⟩
  · refine ⟨[], ?_, by simp [hok]⟩
    rw [heq, List.append_nil]
    rfl
  · exact ⟨[.ledgerNotWritten error], heq, by simp [herror]⟩

theorem writes_handle {map : TellerMap} {e : Envelope} {a : Assignment}
    (h : mandateOf map e = some a) (b : Books) : (b.deed (.handle map e)).Writes := by
  obtain ⟨t, report, hsubmit, hquiet⟩ := b.submit_frame a.client e.transaction
  obtain ⟨notice, hpersist, hnotice⟩ :=
    persist_report { b with table := t, events := b.events ++ report }
  have hafter : (b.deed (.handle map e)).after =
      { ({ b with table := t, events := b.events ++ report } : Books).flush.2 with
        events := b.events ++ report ++ notice } := by
    rw [deed, perform, processEnvelope_of_mandate h, hsubmit, hpersist]
  have hwriting : (b.deed (.handle map e)).writing =
      b.ledger.flush t (b.conditions b.flushes) b.volume := by
    unfold Deed.writing
    rw [hafter]
    rfl
  have hreply : ∀ result, (b.deed (.handle map e)).reply ≠ .flushed result :=
    reply_ne_flushed b nofun
  have hevents : (b.deed (.handle map e)).after.events = b.events ++ (report ++ notice) := by
    rw [hafter, ← List.append_assoc]
  refine ⟨?_, ?_, ?_, ?_⟩
  · rw [hafter, hwriting]
    rfl
  · rw [hafter, hwriting]
    rfl
  · rw [hafter]
    rfl
  · rw [failed_of_reports hreply hevents, hwriting]
    simp only [List.mem_append, exists_or, not_exists.mpr hquiet, false_or]
    exact hnotice

/-- What a deed can do to the ledger file. -/
theorem deed_cases (b : Books) (task : Task) : (b.deed task).Spares ∨ (b.deed task).Writes := by
  cases task with
  | change request loadable =>
    have hevents : (b.deed (.change request loadable)).after.events = b.events ++ [] :=
      (List.append_nil _).symm
    refine .inl ⟨rfl, rfl, rfl, ?_⟩
    have hreply : ∀ result, (b.deed (.change request loadable)).reply ≠ .flushed result :=
      reply_ne_flushed b nofun
    rw [failed_of_reports hreply hevents]
    simp
  | flush => exact .inr b.writes_flush
  | handle map e =>
    cases hmandate : mandateOf map e with
    | some a => exact .inr (writes_handle hmandate b)
    | none =>
      obtain ⟨answer, event, heq, hquiet⟩ := processEnvelope_of_no_mandate hmandate b
      have hafter : (b.deed (.handle map e)).after = b.note event := by
        rw [deed, perform, heq]
      have hevents : (b.deed (.handle map e)).after.events = b.events ++ [event] := by
        rw [hafter]
        rfl
      refine .inl ⟨by rw [hafter]; rfl, by rw [hafter]; rfl, by rw [hafter]; rfl, ?_⟩
      have hreply : ∀ result, (b.deed (.handle map e)).reply ≠ .flushed result :=
        reply_ne_flushed b nofun
      rw [failed_of_reports hreply hevents]
      rintro ⟨error, hreported⟩
      exact hquiet error (List.mem_singleton.mp hreported).symm

/-! ## The accounts -/

theorem sound_deed {b : Books} (h : b.table.Sound) (task : Task) :
    (b.deed task).after.table.Sound := by
  cases task with
  | change request loadable =>
    cases request with
    | getOrCreate token => exact h.getOrCreate token
    | insertLoaded a => exact h.insertLoaded (loadable a rfl).filed
    | apply position x => exact h.apply position x
  | flush => exact h
  | handle map e =>
    rcases handling_cases map e b with ⟨a, i, _, _, _, _, htable⟩ | ⟨_, _, htable⟩
    · have hafter : (b.deed (.handle map e)).after.table =
          ((b.table.getOrCreate a.client).2.apply i e.transaction).2 := htable
      rw [hafter]
      exact (h.getOrCreate a.client).apply i e.transaction
    · have hafter : (b.deed (.handle map e)).after.table = b.table := htable
      rw [hafter]
      exact h

/-- What is done to the accounts does not depend on the ledger file. -/
theorem Twins.deed {b b' : Books} (h : Twins b b') (task : Task) :
    (b.deed task).answer? = (b'.deed task).answer? ∧
      Twins (b.deed task).after (b'.deed task).after := by
  cases task with
  | change request loadable =>
    unfold Books.deed perform Deed.answer?
    simp only [h.table]
    exact ⟨trivial, rfl, h.bank, h.place⟩
  | flush =>
    refine ⟨rfl, h.table, ?_, ?_⟩
    · exact (b.ledger.bank_flush _ _ _).trans (h.bank.trans (b'.ledger.bank_flush _ _ _).symm)
    · exact (b.ledger.place_flush _ _ _).trans (h.place.trans (b'.ledger.place_flush _ _ _).symm)
  | handle map e =>
    obtain ⟨hanswer, hafter⟩ := h.handling map e
    exact ⟨congrArg (fun answer => some (Reply.handled answer)) hanswer, hafter⟩

theorem Twins.performAll {b b' : Books} (h : Twins b b') (tasks : List Task) :
    (b.performAll tasks).1.map Deed.answer? = (b'.performAll tasks).1.map Deed.answer? ∧
      (b.performAll tasks).2.table = (b'.performAll tasks).2.table := by
  induction tasks generalizing b b' with
  | nil => exact ⟨rfl, h.table⟩
  | cons task rest ih =>
    obtain ⟨hanswer, hafter⟩ := h.deed task
    obtain ⟨hanswers, htable⟩ := ih hafter
    rw [performAll_cons, performAll_cons, List.map_cons, List.map_cons, hanswer, hanswers]
    exact ⟨rfl, htable⟩

/-! ## The file -/

/-- The ledger is that of a bank, and the path of the bank leads to its
file. -/
structure Keeps (b : Books) (directory bank : String) : Prop where
  named : b.ledger.bank = bank
  leads : b.volume.openWritable (pathFor directory bank) = .ok b.ledger.file.place
  sound : b.table.Sound

/-- A bank that has just been opened keeps its ledger. -/
theorem keeps_of_openFile {b : Books} {v : Volume} {directory bank : String}
    (h : openFile v directory bank = (.ok (b.ledger, b.table), b.volume)) :
    b.Keeps directory bank := by
  obtain ⟨hbank, hleads, htable⟩ := leads_of_openFile h
  refine ⟨hbank, hleads, ?_⟩
  rw [htable]
  exact sound_readBytes _

/-- What a deed leaves of the ledger of a bank. -/
structure Deed.Settles (d : Deed) (directory bank : String) : Prop where
  /-- Without an attempt the file stays as it is. -/
  spared : ¬ d.Attempts → d.after.file = d.before.file
  /-- After an attempt that has not failed it holds all accounts and
  nothing else. -/
  whole : d.Attempts → ¬ d.Failed → d.after.file = render d.after.table bank d.conditions.stamp
  /-- After one that has, it holds the beginning of their text. -/
  torn : d.Failed → d.Attempts ∧ d.after.file <+: render d.after.table bank d.conditions.stamp
  /-- Writing the ledger changes no account. -/
  flushed : d.task = .flush → d.Attempts ∧ d.after.table = d.before.table
  handled : ∀ map e, d.task = .handle map e → d.after.table =
    match senderOf map e with
    | some a => (d.before.table.answer a.client e.transaction).2
    | none => d.before.table
  /-- A bank that is opened anew after an attempt that has not failed has
  the same accounts. -/
  reopened : d.Attempts → ¬ d.Failed → (∃ c ∈ bank.toList, Text.isBlank c = false) →
    '\n' ∉ bank.toList → '\n' ∉ d.conditions.stamp.toList →
    ∃ l, openFile d.after.volume directory bank = (.ok (l, d.after.table.reloaded), d.after.volume)

section
variable {b : Books} {directory bank : String} (h : b.Keeps directory bank)
include h

theorem Keeps.deed (task : Task) : (b.deed task).after.Keeps directory bank := by
  have hsound := sound_deed h.sound task
  rcases b.deed_cases task with hd | hd
  · refine ⟨?_, ?_, hsound⟩
    · rw [hd.ledger]
      exact h.named
    · rw [hd.ledger, hd.volume]
      exact h.leads
  · refine ⟨?_, ?_, hsound⟩
    · rw [hd.ledger, Deed.writing, LedgerFile.bank_flush]
      exact h.named
    · rw [hd.ledger, hd.volume, Deed.writing, LedgerFile.place_flush]
      exact LedgerFile.openWritable_flush _ _ _ _ h.leads

theorem Keeps.file_of_writes {task : Task} (hd : (b.deed task).Writes) :
    (b.deed task).after.file <+: render (b.deed task).after.table bank
        (b.deed task).conditions.stamp ∧
      (¬ (b.deed task).Failed → (b.deed task).after.file =
        render (b.deed task).after.table bank (b.deed task).conditions.stamp) := by
  have hfile : (b.deed task).after.file =
      (b.deed task).writing.2.1.contents (b.deed task).writing.2.2 := by
    rw [file, hd.ledger, hd.volume]
  obtain ⟨hbegins, hwhole⟩ := b.ledger.contents_flush (b.deed task).after.table
    (b.deed task).conditions b.volume (Volume.ne_root_of_openWritable h.leads)
  rw [hfile, ← h.named]
  refine ⟨hbegins, fun hfine => hwhole ?_⟩
  rw [hd.failed, not_not] at hfine
  exact hfine

/-- **Each deed settles what is in the file.** -/
theorem Keeps.settles (task : Task) : (b.deed task).Settles directory bank where
  spared := by
    intro hno
    rcases b.deed_cases task with hd | hd
    · rw [file, file, hd.ledger, hd.volume]
    · rw [Deed.Attempts, hd.flushes] at hno
      exact absurd (Nat.lt_succ_self _) hno
  whole := by
    intro hattempts hfine
    rcases b.deed_cases task with hd | hd
    · rw [Deed.Attempts, hd.flushes] at hattempts
      exact absurd hattempts (Nat.lt_irrefl _)
    · exact (h.file_of_writes hd).2 hfine
  torn := by
    intro hfailed
    rcases b.deed_cases task with hd | hd
    · exact absurd hfailed hd.fine
    · refine ⟨?_, (h.file_of_writes hd).1⟩
      rw [Deed.Attempts, hd.flushes]
      exact Nat.lt_succ_self _
  flushed := by
    rintro htask
    have htask : task = .flush := htask
    subst htask
    exact ⟨Nat.lt_succ_self _, rfl⟩
  handled := by
    intro map e htask
    have htask : task = .handle map e := htask
    subst htask
    cases hsender : senderOf map e with
    | some a => exact (processEnvelope_of_sender hsender b).2
    | none =>
      show (processEnvelope map e b).2.table = b.table
      rw [processEnvelope_of_stranger hsender]
      rfl
  reopened := by
    intro hattempts hfine hname hbank hstamp
    rcases b.deed_cases task with hd | hd
    · rw [Deed.Attempts, hd.flushes] at hattempts
      exact absurd hattempts (Nat.lt_irrefl _)
    · have hafter := h.deed task
      have hcontents : (b.deed task).after.volume.contents (b.deed task).after.ledger.file.place =
          render (b.deed task).after.table bank (b.deed task).conditions.stamp :=
        (h.file_of_writes hd).2 hfine
      rw [openFile_of_leads hafter.leads, hcontents,
        readBytes_render hafter.sound hname hbank hstamp]
      exact ⟨_, rfl⟩

theorem Keeps.performAll (tasks : List Task) :
    ∀ d ∈ (b.performAll tasks).1, d.Settles directory bank := by
  induction tasks generalizing b with
  | nil => exact fun d hd => absurd hd List.not_mem_nil
  | cons task rest ih =>
    intro d hd
    rw [performAll_cons] at hd
    rcases List.mem_cons.mp hd with rfl | hd
    · exact h.settles task
    · exact ih (h.deed task) d hd

end

/-! ## A bank that can always write -/

theorem conditions_deed (b : Books) (task : Task) :
    (b.deed task).after.conditions = b.conditions := by
  cases task with
  | change request loadable => rfl
  | flush => rfl
  | handle map e => exact (clock_handling map e b).1

/-- No attempt fails where a file may become as large as it has to. -/
theorem not_failed_of_unlimited {b : Books} (h : ∀ n, (b.conditions n).limit = none)
    (tasks : List Task) : ∀ d ∈ (b.performAll tasks).1, ¬ d.Failed := by
  induction tasks generalizing b with
  | nil => exact fun d hd => absurd hd List.not_mem_nil
  | cons task rest ih =>
    intro d hd
    rw [performAll_cons] at hd
    rcases List.mem_cons.mp hd with rfl | hd
    · rcases b.deed_cases task with hspares | hwrites
      · exact hspares.fine
      · rw [hwrites.failed, not_not]
        exact LedgerFile.flush_of_unlimited _ _ _ _ (h b.flushes)
    · exact ih (by rw [conditions_deed]; exact h) d hd

/-- The same books where a file may always become as large as it has to. -/
def lucky (b : Books) : Books :=
  { b with conditions := fun n => { b.conditions n with limit := none } }

/-- **The last attempt that succeeds settles the ledger**, whatever has
failed before. A bank was opened on some file, and then its accounts were
changed and its ledger written any number of times, each time under
conditions that may stop it anywhere. After an attempt that has not failed
the file holds the accounts as they are then, and opening the bank anew
gives them back; after one that has, it holds the beginning of their text.
The accounts and the answers to all submissions are those of a bank that
can always write its ledger. -/
theorem performAll_settles {b : Books} {v : Volume} {directory bank : String}
    (hopen : openFile v directory bank = (.ok (b.ledger, b.table), b.volume))
    (tasks : List Task) :
    (∀ d ∈ (b.performAll tasks).1, d.Settles directory bank) ∧
      (∀ d ∈ (b.lucky.performAll tasks).1, ¬ d.Failed) ∧
      (b.performAll tasks).1.map Deed.answer? = (b.lucky.performAll tasks).1.map Deed.answer? ∧
      (b.performAll tasks).2.table = (b.lucky.performAll tasks).2.table := by
  have hkeeps : b.Keeps directory bank := keeps_of_openFile hopen
  have htwins : Twins b b.lucky := ⟨rfl, rfl, rfl⟩
  have hlucky : ∀ n, (b.lucky.conditions n).limit = none := fun _ => rfl
  exact ⟨hkeeps.performAll tasks, not_failed_of_unlimited hlucky tasks, htwins.performAll tasks⟩

/-- The ledger of an earlier day is longer than the first new one, which is
cut off; the last attempt succeeds. -/
theorem performAll_settles_cut_off :
    let bytes := lineBytes "BankID_1 D 5 D 7 W 3 9".toList
    let v : Volume := ⟨[(["AdaBank.bankLog".toList], .file bytes)], []⟩
    let conditions : Nat → Conditions :=
      fun n => ⟨"09:30 March 02 2025", [some 5, some 60][n]?.join⟩
    let tasks : List Task :=
      [.handle [⟨0, "BankID_1", 41⟩] ⟨0, 41, ⟨⟨"BankID_1", by decide⟩, .withdraw, 9⟩⟩, .flush,
        .change (.getOrCreate "N") nofun, .flush]
    ∃ l t, openFile v "." "AdaBank" = (.ok (l, t), v) ∧
      let b : Books := ⟨t, l, v, conditions, 0, []⟩
      (∀ d ∈ (b.performAll tasks).1, d.Settles "." "AdaBank") ∧
        (∀ d ∈ (b.lucky.performAll tasks).1, ¬ d.Failed) ∧
        (b.performAll tasks).1.map Deed.answer? = (b.lucky.performAll tasks).1.map Deed.answer? ∧
        (b.performAll tasks).2.table = (b.lucky.performAll tasks).2.table := by
  intro bytes v conditions tasks
  have hleads : v.openWritable (pathFor "." "AdaBank") = .ok ["AdaBank.bankLog".toList] := by
    decide
  obtain ⟨l, t, hopen⟩ : ∃ l t, openFile v "." "AdaBank" = (.ok (l, t), v) :=
    ⟨_, _, openFile_of_leads hleads⟩
  exact ⟨l, t, hopen, performAll_settles (b := ⟨t, l, v, conditions, 0, []⟩) hopen tasks⟩

end CountingHouse.Server.Books
