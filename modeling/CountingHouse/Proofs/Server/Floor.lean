/-
CountingHouse.Proofs.Server.Floor — the tellers of a batch, one at a
time.

Between two tellers the floor is `Ready`: the slot is empty, nobody has
asked the server to stop, and those still to come forward are the only
ones it waits for. A teller that comes forward without a request is
reaped and counted as abandoned (`Ready.abandon`); one that submits is
answered by the rule of the bank and counted as served (`Ready.submit`).
Both leave the floor ready for the next.
-/
import CountingHouse.Proofs.Child
import CountingHouse.Proofs.Mailbox.Basic
import CountingHouse.Proofs.Server.Books
import CountingHouse.Proofs.Server.Roll
import CountingHouse.Proofs.Teller.Relay
import CountingHouse.Server.Floor

namespace CountingHouse.Server.Floor

/-! ## Turns -/

section
variable {f : Floor}

theorem turn_of_not_awaiting (h : f.roll.isAwaiting = false) : f.turn = f := by
  rw [turn, h]
  simp

/-- As long as nobody asks the server to stop, a turn attends to the
mailbox. -/
theorem turn_of_awaiting (hsignal : f.signal = none)
    (hinterrupted : f.roll.report.interrupted = false) (h : f.roll.isAwaiting = true) :
    f.turn = f.attend := by
  have hsame : { f with signal := none } = f := by rw [← hsignal]
  rw [turn, hinterrupted, h, hsignal]
  simp [Signal.look, hsame]

theorem attend_of_empty (h : f.mailbox.slot = none) :
    f.attend = { f with
      mailbox := f.mailbox.enter
      roll := f.roll.reapFinished f.ended?
      children := f.children.poll (runsAs f.roll.tellers) } := by
  rw [attend, Mailbox.tryTake_of_none _ _ h]

theorem attend_of_some {p : Posted} (h : f.mailbox.slot = some p) :
    f.attend = { f with
      mailbox := (f.mailbox.conclude p.teller
        (Mailbox.handle p (Books.processEnvelope f.map) f.books).1).leave none
      books := (Mailbox.handle p (Books.processEnvelope f.map) f.books).2
      roll := f.roll.recordReceipt
        ⟨p.teller, p.pid, (Mailbox.handle p (Books.processEnvelope f.map) f.books).1⟩ } := by
  rw [attend, Mailbox.tryTake_of_some _ _ h]

theorem attend_of_posted {e : Envelope} (h : f.mailbox.slot = some e.posted) :
    f.attend = { f with
      mailbox := (f.mailbox.conclude e.teller
        (Books.processEnvelope f.map e f.books).1).leave none
      books := (Books.processEnvelope f.map e f.books).2
      roll := f.roll.recordReceipt
        ⟨e.teller, e.pid, (Books.processEnvelope f.map e f.books).1⟩ } := by
  rw [attend_of_some h, Mailbox.handle_posted]
  rfl

end

/-! ## The machine -/

theorem machine_turn (f : Floor) : f.turn.machine = f.machine := by
  unfold turn
  split
  · rfl
  · dsimp only
    split
    · rfl
    · unfold attend
      split <;> rfl

theorem machine_conclude (f : Floor) (pid : Int32) (sink : Sink)
    (outcome : Except TellerError Response) : (f.conclude pid sink outcome).2.machine = f.machine :=
  machine_turn _

theorem machine_submit (f : Floor) (e : Envelope) (sink : Sink) :
    (f.submit e sink).2.machine = f.machine := by
  unfold submit
  split
  · exact machine_conclude _ _ _ _
  · dsimp only
    split
    · exact machine_turn _
    · exact (machine_conclude _ _ _ _).trans (machine_turn _)

/-- All tellers work on one machine. -/
theorem machine_comeForward (f : Floor) (teller : UInt32) (seat : Seat) :
    (f.comeForward teller seat).2.machine = f.machine := by
  unfold comeForward
  split
  · exact machine_turn _
  · split
    · exact machine_turn _
    · split
      · rfl
      · exact machine_submit _ _ _

/-! ## Between two tellers -/

/-- Tellers that are no longer awaiting, while those of `rest` are still to
come. -/
def Gone (gone : List TellerProcess) (rest : TellerMap) : Prop :=
  ∀ t ∈ gone, t.isAwaiting = false ∧ t.pid ∉ rest.map Assignment.pid

/-- The floor waits for the tellers `rest` of a batch of `n` and for nobody
else. -/
structure Ready (f : Floor) (map : TellerMap) (n : Nat) (rest : TellerMap) : Prop where
  map_eq : f.map = map
  signal : f.signal = none
  slot : f.mailbox.slot = none
  active : f.mailbox.active = n
  capacity : n ≤ f.mailbox.capacity
  uninterrupted : f.roll.report.interrupted = false
  tellers : ∃ gone, f.roll.tellers = gone ++ rest.map startedTeller ∧ Gone gone rest
  running : ∀ a ∈ rest, f.children a.pid = .running

section
variable {f : Floor} {map rest : TellerMap} {n : Nat} {a : Assignment}
  {gone : List TellerProcess}

theorem Gone.nil (rest : TellerMap) : Gone [] rest :=
  fun _ ht => absurd ht List.not_mem_nil

/-- The next teller joins those that are gone. -/
theorem Gone.snoc (h : Gone gone (a :: rest)) {t : TellerProcess} (ht : t.isAwaiting = false)
    (hpid : t.pid ∉ rest.map Assignment.pid) : Gone (gone ++ [t]) rest := by
  intro u hu
  rcases List.mem_append.mp hu with hu | hu
  · obtain ⟨hdone, hother⟩ := h u hu
    rw [List.map_cons, List.mem_cons, not_or] at hother
    exact ⟨hdone, hother.2⟩
  · obtain rfl := List.mem_singleton.mp hu
    exact ⟨ht, hpid⟩

theorem Gone.reap (h : Gone gone rest) (ended : Int32 → Option ExitStatus) :
    Gone (gone.map (Roll.reapOne ended)) rest := by
  intro t ht
  obtain ⟨u, hu, rfl⟩ := List.mem_map.mp ht
  obtain ⟨hdone, hpid⟩ := h u hu
  exact ⟨Roll.isAwaiting_reapOne hdone, by rw [Roll.pid_reapOne]; exact hpid⟩

theorem Gone.countP_isLost (h : Gone gone rest) (ended : Int32 → Option ExitStatus) :
    gone.countP (Roll.isLost ended) = 0 :=
  Roll.countP_isLost fun t ht => (h t ht).1

theorem isAwaiting_started (a : Assignment) : (startedTeller a).isAwaiting = true := rfl

/-- Of a running process nothing is known. -/
theorem ended?_started (h : ∀ a ∈ rest, f.children a.pid = .running) :
    ∀ t ∈ rest.map startedTeller, f.ended? t.pid = none := by
  intro t ht
  obtain ⟨a, ha, rfl⟩ := List.mem_map.mp ht
  rw [ended?, startedTeller, h a ha]
  rfl

theorem ended?_leave_self {pid : Int32} (h : f.children pid = .running) (code : Int32) :
    (f.leave pid code).ended? pid = some (.ofCode code) := by
  show ((f.children.put pid _) pid).status? = _
  rw [Children.put_self, h]
  rfl

theorem children_leave {pid : Int32} (hpid : pid ∉ rest.map Assignment.pid)
    (h : ∀ a ∈ rest, f.children a.pid = .running) (code : Int32) :
    ∀ a ∈ rest, (f.leave pid code).children a.pid = .running := by
  intro a ha
  exact (f.children.put_of_ne (TellerMap.pid_ne hpid ha) _).trans (h a ha)

/-- Whoever is running stays so when the server asks who has ended. -/
theorem children_poll (h : ∀ a ∈ rest, f.children a.pid = .running) (asked : Int32 → Bool) :
    ∀ a ∈ rest, f.children.poll asked a.pid = .running := by
  intro a ha
  rw [Children.poll, h a ha]
  exact ite_self _

/-- Looking for tellers that have ended finds none of those to come. -/
theorem Ready.turn (h : f.Ready map n rest) :
    f.turn.Ready map n rest ∧ f.turn.books = f.books ∧ f.turn.patience = f.patience ∧
      f.turn.roll.report = f.roll.report := by
  cases hawaiting : f.roll.isAwaiting with
  | false =>
    rw [turn_of_not_awaiting hawaiting]
    exact ⟨h, rfl, rfl, rfl⟩
  | true =>
    obtain ⟨gone, htellers, hgone⟩ := h.tellers
    have hreaped := f.roll.reapFinished_append f.ended? htellers (ended?_started h.running)
    rw [hgone.countP_isLost, Nat.add_zero] at hreaped
    rw [turn_of_awaiting h.signal h.uninterrupted hawaiting, attend_of_empty h.slot, hreaped]
    exact ⟨⟨h.map_eq, h.signal, h.slot, h.active, h.capacity, h.uninterrupted,
      ⟨_, rfl, hgone.reap _⟩, children_poll h.running _⟩, rfl, rfl, rfl⟩

/-- A teller that is no longer waited for may end. -/
theorem Ready.leave (h : f.Ready map n rest) {pid : Int32}
    (hpid : pid ∉ rest.map Assignment.pid) (code : Int32) :
    (f.leave pid code).Ready map n rest :=
  { h with running := children_leave hpid h.running code }

theorem Ready.isAwaiting (h : f.Ready map n (a :: rest)) : f.roll.isAwaiting = true := by
  obtain ⟨gone, htellers, _⟩ := h.tellers
  rw [Roll.isAwaiting, htellers]
  simp [isAwaiting_started]

/-- **A teller that leaves without a request** is abandoned. -/
theorem Ready.abandon (h : f.Ready map n (a :: rest)) (hpid : a.pid ∉ rest.map Assignment.pid)
    (code : Int32) :
    (f.leave a.pid code).turn.Ready map n rest ∧
      (f.leave a.pid code).turn.books = f.books ∧
      (f.leave a.pid code).turn.patience = f.patience ∧
      (f.leave a.pid code).turn.roll.report =
        { f.roll.report with abandoned := f.roll.report.abandoned + 1 } := by
  obtain ⟨gone, htellers, hgone⟩ := h.tellers
  have hsplit : (f.leave a.pid code).roll.tellers =
      (gone ++ [startedTeller a]) ++ rest.map startedTeller := by
    rw [List.append_assoc]
    exact htellers
  have hended : (f.leave a.pid code).ended? (startedTeller a).pid = some (.ofCode code) :=
    ended?_leave_self (h.running a List.mem_cons_self) code
  have hrunning : ∀ b ∈ rest, (f.leave a.pid code).children b.pid = .running :=
    children_leave hpid (fun b hb => h.running b (List.mem_cons_of_mem a hb)) code
  have hreaped := (f.leave a.pid code).roll.reapFinished_append (f.leave a.pid code).ended?
    hsplit (ended?_started hrunning)
  -- the teller is found to have ended in this very turn, so it is counted
  have hlost : (gone ++ [startedTeller a]).countP
      (Roll.isLost (f.leave a.pid code).ended?) = 1 := by
    rw [List.countP_append, hgone.countP_isLost, List.countP_singleton,
      Roll.isLost_of_ended (isAwaiting_started a) hended]
    rfl
  have hjoined : Gone ((gone ++ [startedTeller a]).map
      (Roll.reapOne (f.leave a.pid code).ended?)) rest := by
    rw [List.map_append, List.map_singleton]
    refine (hgone.reap _).snoc (Roll.reapOne_of_ended hended) ?_
    rw [Roll.pid_reapOne]
    exact hpid
  have hturn : (f.leave a.pid code).turn = (f.leave a.pid code).attend :=
    turn_of_awaiting h.signal h.uninterrupted h.isAwaiting
  have hslot : (f.leave a.pid code).mailbox.slot = none := h.slot
  rw [hturn, attend_of_empty hslot, hreaped, hlost]
  exact ⟨⟨h.map_eq, h.signal, h.slot, h.active, h.capacity, h.uninterrupted,
    ⟨_, rfl, hjoined⟩, children_poll hrunning _⟩, rfl, rfl, rfl⟩

/-- What a teller of the batch has posted is taken in the next turn, and
answered by the rule of the bank. -/
theorem Ready.take (h : f.Ready map n (a :: rest)) (hpid : a.pid ∉ rest.map Assignment.pid)
    (hmap : (map.map Assignment.pid).Nodup) (ha : a ∈ map) (hteller : a.teller.toNat < n)
    (x : Transaction) :
    let e : Envelope := ⟨a.teller, a.pid, x⟩
    let g := { f with mailbox := f.mailbox.leave (some e.posted) }.turn
    let answer := f.books.table.answer a.client x
    g.Ready map n rest ∧ g.books.table = answer.2 ∧ g.patience = f.patience ∧
      g.roll.report = { f.roll.report with served := f.roll.report.served + 1 } ∧
      g.mailbox.response a.teller = .ok answer.1 := by
  intro e g answer
  obtain ⟨gone, htellers, hgone⟩ := h.tellers
  have hsender : Books.senderOf f.map e = some a := by
    rw [h.map_eq]
    exact Books.senderOf_of_mem hmap ha x
  obtain ⟨hresponse, htable⟩ := Books.processEnvelope_of_sender hsender f.books
  have hattend : g = { f with mailbox := f.mailbox.leave (some e.posted) }.attend :=
    turn_of_awaiting h.signal h.uninterrupted h.isAwaiting
  rw [attend_of_posted rfl] at hattend
  simp only [hresponse] at hattend
  have hothers : ∀ t ∈ gone, t.pid ≠ a.pid := by
    intro t ht heq
    exact (hgone t ht).2 (heq ▸ List.mem_cons_self)
  have hsplit : f.roll.tellers = gone ++ startedTeller a :: rest.map startedTeller := htellers
  have hsender : Roll.isSender ⟨e.teller, e.pid, some answer.1⟩ (startedTeller a) = true := by
    simp [Roll.isSender, startedTeller, e]
  have hreceipt := f.roll.recordReceipt_of_sender hsplit hothers hsender rfl
  have hactive : a.teller.toNat < f.mailbox.active := by rw [h.active]; exact hteller
  have hcapacity : a.teller.toNat < f.mailbox.capacity := Nat.lt_of_lt_of_le hteller h.capacity
  rw [hattend, hreceipt]
  refine ⟨⟨h.map_eq, h.signal, rfl, ?_, ?_, h.uninterrupted,
    ⟨gone ++ [{ startedTeller a with served := true }], ?_, hgone.snoc rfl hpid⟩, ?_⟩,
    htable, rfl, rfl, ?_⟩
  · simpa using h.active
  · simpa using h.capacity
  · simp
  · intro b hb
    exact h.running b (List.mem_cons_of_mem a hb)
  · exact Mailbox.response_publish_self (m := f.mailbox.leave (some e.posted)) hcapacity hactive _

/-! ## A teller comes forward -/

/-- The teller finds its answer and relays it. -/
theorem submit_of_response {e : Envelope} {sink : Sink} {r : Response} {g : Floor}
    (hpatience : f.patience.isZero = false) (hslot : f.mailbox.slot = none)
    (hturn : { f with mailbox := f.mailbox.leave (some e.posted) }.turn = g)
    (hinterrupted : g.roll.report.interrupted = false)
    (hresponse : g.mailbox.response e.teller = .ok r) (hfinal : r.isFinal = true) :
    f.submit e sink = g.conclude e.pid sink (.ok r) := by
  have hfound : g.mailbox.finalResponse e.teller = .ok (some r) := by
    rw [Mailbox.finalResponse_of_response hresponse, hfinal]
    rfl
  simp only [submit, hpatience, Teller.step, Mailbox.tryPost_of_none hslot, hturn, hinterrupted,
    hfound, Teller.settle, Teller.Stage.outcome, Bool.false_eq_true, if_false]

/-- **A teller that submits a request** of its client is served: the bank
answers by its rule, and the answer is relayed. -/
theorem Ready.submit (h : f.Ready map n (a :: rest)) (hpid : a.pid ∉ rest.map Assignment.pid)
    (hmap : (map.map Assignment.pid).Nodup) (ha : a ∈ map) (hteller : a.teller.toNat < n)
    (hpatience : f.patience.isZero = false) (x : Transaction) (sink : Sink) :
    let answer := f.books.table.answer a.client x
    let out := f.submit ⟨a.teller, a.pid, x⟩ sink
    out.1 = (Teller.writeResponse sink answer.1).2 ∧ out.2.Ready map n rest ∧
      out.2.books.table = answer.2 ∧ out.2.patience = f.patience ∧
      out.2.roll.report = { f.roll.report with served := f.roll.report.served + 1 } := by
  intro answer out
  obtain ⟨hready, htable, hsame, hreport, hresponse⟩ := h.take hpid hmap ha hteller x
  have hout : out = _ := submit_of_response hpatience h.slot rfl hready.uninterrupted hresponse
    (f.books.table.isFinal_answer a.client x)
  rw [hout]
  obtain ⟨hturned, hbooks, hkept, hnoted⟩ := (hready.leave hpid
    (Teller.exitCode (Teller.relay sink (.ok answer.1)).1)).turn
  refine ⟨Teller.relay_ok sink answer.1, hturned, ?_, ?_, ?_⟩
  · rw [← htable]
    exact congrArg Books.table hbooks
  · exact hkept.trans hsame
  · exact hnoted.trans hreport

end

end CountingHouse.Server.Floor
