/-
CountingHouse.Proofs.Server.Batch — a batch is a bank that answers its
clients one after another.

`Table.answerAll` is that bank: it takes the requests in the order of the
tellers and answers each by the rule, knowing nothing of processes,
mailboxes and reports. `runBatch_answers` says that serving a batch comes
to the same. The proof follows `Floor.serveSeats`: the floor is ready
before each teller, whatever the teller does its table takes the step
the bank takes, and the floor is ready again.
-/
import CountingHouse.Proofs.Server.Floor
import CountingHouse.Server.Basic

namespace CountingHouse

/-! ## The bank -/

/-- Answers one client, or does nothing when there is no request. -/
def Table.answer? (t : Table) (client : String) : Option Transaction → Option Response × Table
  | some x => (some (t.answer client x).1, (t.answer client x).2)
  | none => (none, t)

/-- Answers the clients in turn. -/
def Table.answerAll (t : Table) :
    List (String × Option Transaction) → List (Option Response) × Table
  | [] => ([], t)
  | (client, request) :: rest =>
    let (answer, t) := t.answer? client request
    let (answers, t) := t.answerAll rest
    (answer :: answers, t)

namespace Server

/-- The transaction that a teller comes to submit: its channels can be
opened, a transaction is read, and its deadline can be set. -/
def Seat.submission? (machine : Machine) (patience : Span) (seat : Seat) : Option Transaction :=
  if patience.hasEnd machine.uptime then
    seat.request.bind fun source => (Teller.readRequest source).toOption
  else none

theorem Seat.submission?_cases (machine : Machine) (patience : Span) (seat : Seat) :
    (seat.request = none ∧ seat.submission? machine patience = none) ∨
    (∃ source x, seat.request = some source ∧ Teller.prepare machine patience source = .ok x ∧
      seat.submission? machine patience = some x) ∨
    (∃ source code, seat.request = some source ∧
      Teller.prepare machine patience source = .error code ∧
      seat.submission? machine patience = none) := by
  rw [submission?]
  cases hchannel : seat.request with
  | none => exact .inl ⟨rfl, by simp⟩
  | some source =>
    rcases Teller.prepare_cases machine patience source with
      ⟨x, hread, hend, hprepare⟩ | ⟨hfailed, code, hprepare⟩
    · exact .inr (.inl ⟨source, x, rfl, hprepare, by simp [hread, hend, Except.toOption]⟩)
    · refine .inr (.inr ⟨source, code, rfl, hprepare, ?_⟩)
      rcases hfailed with ⟨error, hread⟩ | hend
      · simp [hread, Except.toOption]
      · simp [hend]

/-- What a client has heard when it has this answer. Without an answer it
hears nothing. -/
def Seat.heard (seat : Seat) : Option Response → Option Sink
  | some r => some (Teller.writeResponse seat.response r).2
  | none => seat.request.map fun _ => seat.response

/-- The summary with one more teller in it. -/
def Report.after (r : Report) : Option Transaction → Report
  | some _ => { r with served := r.served + 1 }
  | none => { r with abandoned := r.abandoned + 1 }

theorem foldl_after (requests : List (Option Transaction)) (r : Report) :
    requests.foldl Report.after r =
      { r with
        served := r.served + requests.countP Option.isSome
        abandoned := r.abandoned + requests.countP Option.isNone } := by
  induction requests generalizing r with
  | nil => rfl
  | cons request requests ih =>
    rw [List.foldl_cons, ih]
    cases request <;> simp [Report.after, Nat.add_assoc, Nat.add_comm 1]

/-! ## The tellers of a batch -/

theorem map_pid_assignmentsFrom (place : Nat) {clients : List String} {pids : List Int32}
    (h : clients.length = pids.length) :
    (assignmentsFrom place clients pids).map Assignment.pid = pids := by
  induction clients generalizing place pids with
  | nil =>
    cases pids with
    | nil => rfl
    | cons pid pids => cases h
  | cons client clients ih =>
    cases pids with
    | nil => cases h
    | cons pid pids =>
      rw [assignmentsFrom, List.map_cons, ih (place + 1) (Nat.succ.inj h)]

/-- The client at a place gets the teller at that place. -/
theorem getElem?_assignmentsFrom (place : Nat) (clients : List String) (pids : List Int32)
    (k : Nat) : (assignmentsFrom place clients pids)[k]? =
      clients[k]?.bind fun client => pids[k]?.map fun pid =>
        ⟨UInt32.ofNat (place + k), client, pid⟩ := by
  induction clients generalizing place pids k with
  | nil => rfl
  | cons client clients ih =>
    cases pids with
    | nil => cases h : (client :: clients)[k]? <;> simp [assignmentsFrom]
    | cons pid pids =>
      cases k with
      | zero => rfl
      | succ k =>
        have hplace : place + 1 + k = place + (k + 1) := by omega
        rw [assignmentsFrom, List.getElem?_cons_succ, List.getElem?_cons_succ,
          List.getElem?_cons_succ, ih, hplace]

/-- Processes have positive numbers, so there are fewer of them than places
that can be numbered. -/
theorem length_lt_of_pids {seats : List Seat} (hpids : (seats.map Seat.pid).Nodup)
    (hpositive : ∀ seat ∈ seats, 0 < seat.pid.toInt) : seats.length < UInt32.size := by
  have hsubset : seats.map Seat.pid ⊆ (List.range (2 ^ 31)).map fun k : Nat => Int32.ofInt k := by
    intro pid hmem
    obtain ⟨seat, hseat, rfl⟩ := List.mem_map.mp hmem
    have hpos := hpositive seat hseat
    have hlt := seat.pid.toInt_lt
    refine List.mem_map.mpr ⟨seat.pid.toInt.toNat, List.mem_range.mpr (by omega), ?_⟩
    rw [Int.toNat_of_nonneg (Int.le_of_lt hpos), Int32.ofInt_toInt]
  have hlength := hpids.length_le_of_subset hsubset
  rw [List.length_map, List.length_map, List.length_range] at hlength
  exact Nat.lt_of_le_of_lt hlength (by decide)

namespace Floor

variable {f : Floor} {map rest : TellerMap} {n : Nat} {a : Assignment}

/-! ## The first turn -/

/-- A payload of a process outside the batch changes no account. -/
theorem table_handle_of_stranger {p : Posted} (h : p.pid ∉ map.map Assignment.pid) (b : Books) :
    (Mailbox.handle p (Books.processEnvelope map) b).2.table = b.table := by
  rw [Mailbox.handle]
  cases p.payload.decode with
  | error error => rfl
  | ok x =>
    have hsender : Books.senderOf map ⟨p.teller, p.pid, x⟩ = none :=
      Books.senderOf_of_not_mem h
    simp only [Books.processEnvelope_of_stranger hsender, Books.table_note]

/-- In the first turn a payload that an earlier batch has left behind is
removed. -/
theorem ready_turn (hne : map ≠ []) (hmap : f.map = map) (hsignal : f.signal = none)
    (hslot : ∀ p ∈ f.mailbox.slot, p.pid ∉ map.map Assignment.pid)
    (hactive : f.mailbox.active = n) (hcapacity : n ≤ f.mailbox.capacity)
    (hroll : f.roll = ⟨map.map startedTeller, .blank n⟩)
    (hrunning : ∀ a ∈ map, f.children a.pid = .running) :
    f.turn.Ready map n map ∧ f.turn.books.table = f.books.table ∧
      f.turn.patience = f.patience ∧ f.turn.roll.report = .blank n := by
  have htellers : f.roll.tellers = [] ++ map.map startedTeller := by rw [hroll]; rfl
  have huninterrupted : f.roll.report.interrupted = false := by rw [hroll]; rfl
  cases hfull : f.mailbox.slot with
  | none =>
    have hready : f.Ready map n map :=
      ⟨hmap, hsignal, hfull, hactive, hcapacity, huninterrupted,
        ⟨[], htellers, .nil map⟩, hrunning⟩
    obtain ⟨hturned, hbooks, hpatience, hreport⟩ := hready.turn
    exact ⟨hturned, by rw [hbooks], hpatience, by rw [hreport, hroll]⟩
  | some p =>
    have hstranger := hslot p hfull
    have hawaiting : f.roll.isAwaiting = true := by
      obtain ⟨a, rest, rfl⟩ := List.exists_cons_of_ne_nil hne
      rw [hroll]
      rfl
    have hreceipt : ∀ answer, f.roll.recordReceipt ⟨p.teller, p.pid, answer⟩ = f.roll := by
      intro answer
      refine f.roll.recordReceipt_of_stranger fun t ht heq => hstranger ?_
      rw [htellers, List.nil_append] at ht
      obtain ⟨a, ha, rfl⟩ := List.mem_map.mp ht
      exact List.mem_map.mpr ⟨a, ha, heq⟩
    rw [turn_of_awaiting hsignal huninterrupted hawaiting, attend_of_some hfull, hreceipt]
    refine ⟨⟨hmap, hsignal, rfl, ?_, ?_, huninterrupted,
      ⟨[], htellers, .nil map⟩, hrunning⟩, ?_, rfl, ?_⟩
    · simpa using hactive
    · simpa using hcapacity
    · rw [hmap]
      exact table_handle_of_stranger hstranger f.books
    · rw [hroll]

/-! ## One teller after another -/

/-- **A teller takes the step of the bank**, whatever it finds. -/
theorem Ready.comeForward (h : f.Ready map n (a :: rest))
    (hpid : a.pid ∉ rest.map Assignment.pid) (hmap : (map.map Assignment.pid).Nodup)
    (ha : a ∈ map) (hteller : a.teller.toNat < n) (hpatience : f.patience.isZero = false)
    (seat : Seat) (hseat : seat.pid = a.pid) :
    let request := seat.submission? f.machine f.patience
    let answer := f.books.table.answer? a.client request
    let out := f.comeForward a.teller seat
    out.1 = seat.heard answer.1 ∧ out.2.Ready map n rest ∧ out.2.books.table = answer.2 ∧
      out.2.patience = f.patience ∧ out.2.roll.report = f.roll.report.after request := by
  intro request answer out
  rcases seat.submission?_cases f.machine f.patience with
    ⟨hchannel, hnone⟩ | ⟨source, x, hchannel, hprepare, hsome⟩ |
      ⟨source, code, hchannel, hprepare, hnone⟩
  · -- the channels cannot be opened
    obtain ⟨hready, hbooks, hsame, hreport⟩ := h.abandon hpid 1
    simp only [request, answer, out, hnone, Table.answer?, Seat.heard,
      Floor.comeForward, hchannel, hseat]
    exact ⟨rfl, hready, by rw [hbooks], hsame, hreport⟩
  · obtain ⟨hsink, hready, htable, hsame, hreport⟩ :=
      h.submit hpid hmap ha hteller hpatience x seat.response
    simp only [request, answer, out, hsome, Table.answer?, Seat.heard,
      Floor.comeForward, hchannel, hseat, h.uninterrupted, hprepare, Bool.false_eq_true, if_false]
    exact ⟨congrArg some hsink, hready, htable, hsame, hreport⟩
  · -- there is nothing to submit, or no deadline to submit it by
    obtain ⟨hready, hbooks, hsame, hreport⟩ := h.abandon hpid code
    simp only [request, answer, out, hnone, Table.answer?, Seat.heard,
      Floor.comeForward, hchannel, hseat, hprepare]
    exact ⟨rfl, hready, by rw [hbooks], hsame, hreport⟩

/-- Teller after teller, the table takes the steps of the bank. -/
theorem Ready.serveSeats {clients : List String} {seats : List Seat} {place : Nat}
    (h : f.Ready map n (assignmentsFrom place clients (seats.map Seat.pid)))
    (hlength : clients.length = seats.length) (hplaces : place + seats.length ≤ n)
    (hn : n < UInt32.size) (hmap : (map.map Assignment.pid).Nodup)
    (hmem : ∀ a ∈ assignmentsFrom place clients (seats.map Seat.pid), a ∈ map)
    (hpids : (seats.map Seat.pid).Nodup) (hpatience : f.patience.isZero = false) :
    let requests := seats.map (Seat.submission? f.machine f.patience)
    let answers := f.books.table.answerAll (clients.zip requests)
    let out := f.serveSeats place seats
    out.1 = List.zipWith Seat.heard seats answers.1 ∧ out.2.Ready map n [] ∧
      out.2.books.table = answers.2 ∧
      out.2.roll.report = requests.foldl Report.after f.roll.report := by
  induction seats generalizing f clients place with
  | nil =>
    cases clients with
    | nil => exact ⟨rfl, h, rfl, rfl⟩
    | cons client clients => cases hlength
  | cons seat seats ih =>
    cases clients with
    | nil => cases hlength
    | cons client clients =>
      have hfollowing : (assignmentsFrom (place + 1) clients (seats.map Seat.pid)).map
          Assignment.pid = seats.map Seat.pid :=
        map_pid_assignmentsFrom (place + 1) (by rw [List.length_map]; exact Nat.succ.inj hlength)
      rw [List.map_cons, List.nodup_cons] at hpids
      rw [List.length_cons] at hplaces
      -- there are fewer tellers than numbers, so no place wraps around
      have hplace : (UInt32.ofNat place).toNat < n := by
        have hsmall : place < UInt32.size := by omega
        rw [UInt32.toNat_ofNat_of_lt' hsmall]
        omega
      have hpid : seat.pid ∉ (assignmentsFrom (place + 1) clients (seats.map Seat.pid)).map
          Assignment.pid := by
        rw [hfollowing]
        exact hpids.1
      obtain ⟨hsink, hready, htable, hsame, hreport⟩ := h.comeForward hpid hmap
        (hmem _ List.mem_cons_self) hplace hpatience seat rfl
      obtain ⟨hsinks, hlast, htables, hreports⟩ := ih hready (Nat.succ.inj hlength) (by omega)
        (fun a ha => hmem a (List.mem_cons_of_mem _ ha)) hpids.2 (by rw [hsame]; exact hpatience)
      rw [hsame, Floor.machine_comeForward] at hsinks htables hreports
      rw [htable] at hsinks htables
      rw [hreport] at hreports
      have hout : (f.serveSeats place (seat :: seats)).1 =
          (f.comeForward (UInt32.ofNat place) seat).1 ::
            ((f.comeForward (UInt32.ofNat place) seat).2.serveSeats (place + 1) seats).1 := rfl
      rw [hsink, hsinks] at hout
      exact ⟨hout, hlast, htables, hreports⟩

end Floor

/-! ## The batch -/

/-- A batch that nothing keeps from being served: there is room for it, a
process was started for each client, nobody asks the server to stop, and
no teller runs out of time. What an earlier batch has left in the slot is
from a process of its own, and no teller of it is left. -/
structure Undisturbed (s : Server) (round : Round) : Prop where
  clients : round.batch.clients ≠ []
  capacity : round.batch.size ≤ s.mailbox.capacity
  seats : round.seats.length = round.batch.size
  distinct : (round.seats.map Seat.pid).Nodup
  positive : ∀ seat ∈ round.seats, 0 < seat.pid.toInt
  slot : ∀ p ∈ s.mailbox.slot, p.pid ∉ round.seats.map Seat.pid
  tellers : s.tellers = []
  signal : s.signal = none
  patience : s.patience.isZero = false

/-- What the tellers of a batch come to submit. -/
def Round.submissions (round : Round) (machine : Machine) (patience : Span) : List (Option Transaction) :=
  round.seats.map (Seat.submission? machine patience)

/-- What the bank answers to a batch, and its accounts afterwards. -/
def answers (s : Server) (round : Round) : List (Option Response) × Table :=
  s.books.table.answerAll (round.batch.clients.zip (round.submissions s.machine s.patience))

/-- The batch was answered as the bank answers its clients. -/
structure Answered (s : Server) (round : Round) (served : Served) (s' : Server) : Prop where
  /-- The accounts are those of the bank. -/
  table : s'.books.table = (s.answers round).2
  /-- Every client has heard the answer of the bank, and the answer is
  final. -/
  responses : served.responses = List.zipWith Seat.heard round.seats (s.answers round).1
  final : ∀ answer ∈ (s.answers round).1, ∀ r ∈ answer, r.isFinal = true
  /-- A channel that has room for an answer takes it whole. -/
  heard : ∀ seat ∈ round.seats, ∀ r,
    (∀ room ∈ seat.response.room, (Channels.line r).length ≤ room) →
      (Teller.writeResponse seat.response r).2.taken = seat.response.taken ++ Channels.line r
  /-- Those that submit are served, the others abandoned. -/
  report : served.report = ⟨round.batch.size,
    (round.submissions s.machine s.patience).countP Option.isSome,
    (round.submissions s.machine s.patience).countP Option.isNone, false, false⟩
  counted : served.report.served + served.report.abandoned = served.report.enrolled
  slot : s'.mailbox.slot = none
  tellers : s'.tellers = []

theorem isFinal_of_mem_answerAll {t : Table} {requests : List (String × Option Transaction)} :
    ∀ answer ∈ (t.answerAll requests).1, ∀ r ∈ answer, r.isFinal = true := by
  induction requests generalizing t with
  | nil => intro answer hanswer; exact absurd hanswer List.not_mem_nil
  | cons head rest ih =>
    obtain ⟨client, request⟩ := head
    intro answer hanswer r hr
    rw [Table.answerAll] at hanswer
    rcases List.mem_cons.mp hanswer with rfl | hanswer
    · cases request with
      | none => cases hr
      | some x => cases hr; exact t.isFinal_answer client x
    · exact ih answer hanswer r hr

theorem beginBatch_of_le {m : Mailbox} {n : Nat} (h : n ≤ m.capacity) :
    m.beginBatch n = (.ok (), { m.enter with answers := [], active := n % UInt32.size }) := by
  rw [Mailbox.beginBatch, if_neg (Nat.not_lt.mpr h)]

theorem countP_submissions (round : Round) (machine : Machine) (patience : Span) :
    (round.submissions machine patience).countP Option.isSome +
      (round.submissions machine patience).countP Option.isNone = round.seats.length := by
  have hothers : (round.submissions machine patience).countP Option.isNone =
      (round.submissions machine patience).countP fun request => ¬ request.isSome := by
    refine List.countP_congr fun request _ => ?_
    cases request <;> simp
  rw [hothers, ← List.length_eq_countP_add_countP, Round.submissions, List.length_map]

/-- Is a batch served at all? An empty batch needs nothing, and one that is
too large is refused. -/
def admits (s : Server) (round : Round) : Bool :=
  !round.batch.isEmpty && round.batch.size ≤ s.mailbox.capacity

/-- The floor on which a batch is served, before the first turn. That its
teller map cannot be published is noted. -/
def floorFor (s : Server) (round : Round) : Floor :=
  let floor := s.begin round.batch (round.seats.map Seat.pid)
    (s.mailbox.beginBatch round.batch.size).2
  match round.publishFault with
  | none => floor
  | some fault => { floor with books := floor.books.note (.publishFailed round.batch.pid fault) }

/-- A batch that finds room begins. -/
theorem startBatch_of_room {s : Server} {batch : Batch} (hclients : batch.isEmpty = false)
    (hroom : batch.size ≤ s.mailbox.capacity) (pids : List Int32) :
    s.startBatch batch pids =
      .ok (s.begin batch pids (s.mailbox.beginBatch batch.size).2) := by
  simp [startBatch, hclients, beginBatch_of_le hroom, Nat.not_lt.mpr hroom]

theorem runBatch_of_admits {s : Server} {round : Round} (h : s.admits round = true)
    (source : BatchSource) :
    s.runBatch round source =
      (.ok ⟨(((s.floorFor round).turn.serveSeats 0 round.seats).2.lapse s.tellers).roll.report,
        ((s.floorFor round).turn.serveSeats 0 round.seats).1⟩,
        finish (((s.floorFor round).turn.serveSeats 0 round.seats).2.lapse s.tellers),
        (source.publish round (s.floorFor round).map).2) := by
  obtain ⟨hclients, hroom⟩ := Bool.and_eq_true_iff.mp h
  have hstart : s.startBatch round.batch (round.seats.map Seat.pid) = .ok _ :=
    startBatch_of_room (by simpa using hclients) (by simpa using hroom) _
  rw [runBatch, hstart, floorFor]
  unfold BatchSource.publish
  cases round.publishFault <;> rfl

theorem publish_frame (source : BatchSource) (round : Round) (map : TellerMap) :
    (source.publish round map).2 =
      { source with
        publications := source.publications ++
          [⟨round.batch.pid, map, round.publishFault⟩] } := by
  unfold BatchSource.publish
  cases round.publishFault <;> rfl

/-- A batch that is not served is at most noted. -/
theorem runBatch_of_not_admits {s : Server} {round : Round} (h : s.admits round = false)
    (source : BatchSource) :
    ∃ served s', s.runBatch round source = (.ok served, s', source) ∧
      (s' = s ∨ ∃ event, s' = s.note event) := by
  cases hclients : round.batch.isEmpty with
  | true =>
    simp only [runBatch, startBatch, hclients, if_true]
    exact ⟨_, _, rfl, .inl rfl⟩
  | false =>
    have hroom : s.mailbox.capacity < round.batch.size := by
      simpa [admits, hclients] using h
    simp only [runBatch, startBatch, hclients, Bool.false_eq_true, if_false, if_pos hroom]
    exact ⟨_, _, rfl, .inr ⟨_, rfl⟩⟩

/-- The floor begins with what the server has. That the teller map cannot be
published makes no difference but in the log. -/
theorem floorFor_frame {s : Server} {round : Round} (h : round.batch.size ≤ s.mailbox.capacity) :
    ∃ events, s.floorFor round =
      { books := { s.books with events }
        mailbox :=
          { s.mailbox.enter with answers := [], active := round.batch.size % UInt32.size }
        signal := s.signal
        patience := s.patience
        machine := s.machine
        map := assignmentsFrom 0 round.batch.clients (round.seats.map Seat.pid)
        roll := ⟨s.tellers ++
          (assignmentsFrom 0 round.batch.clients (round.seats.map Seat.pid)).map startedTeller,
          .blank round.batch.size⟩
        children := s.children.start
          ((assignmentsFrom 0 round.batch.clients (round.seats.map Seat.pid)).map
            Assignment.pid) } := by
  rw [floorFor, beginBatch_of_le h]
  cases round.publishFault <;> exact ⟨_, rfl⟩

theorem children_start (c : Children) {map : TellerMap} :
    ∀ a ∈ map, c.start (map.map Assignment.pid) a.pid = .running :=
  fun _ ha => if_pos (List.mem_map_of_mem ha)

/-- What an earlier batch has left in the slot is still there. -/
theorem slot_floorFor (s : Server) (round : Round) :
    (s.floorFor round).mailbox.slot = s.mailbox.slot := by
  unfold floorFor
  cases round.publishFault <;> exact s.mailbox.slot_beginBatch _

namespace Undisturbed

variable {s : Server} {round : Round}

theorem admits (h : s.Undisturbed round) : s.admits round = true := by
  simp [Server.admits, Batch.isEmpty, h.clients, h.capacity]

theorem size_lt (h : s.Undisturbed round) : round.batch.size < UInt32.size := by
  rw [← h.seats]
  exact length_lt_of_pids h.distinct h.positive

/-- Every client gets a teller. -/
theorem map_pid_floorFor (h : s.Undisturbed round) :
    (s.floorFor round).map.map Assignment.pid = round.seats.map Seat.pid := by
  obtain ⟨events, hfloor⟩ := floorFor_frame h.capacity
  rw [hfloor]
  exact map_pid_assignmentsFrom 0 (by rw [List.length_map]; exact h.seats.symm)

/-- The first turn clears the slot, and then one teller after another comes
forward. -/
theorem serveSeats (h : s.Undisturbed round) :
    let out := (s.floorFor round).turn.serveSeats 0 round.seats
    out.1 = List.zipWith Seat.heard round.seats (s.answers round).1 ∧
      out.2.mailbox.slot = none ∧ out.2.books.table = (s.answers round).2 ∧
      out.2.roll.report = ⟨round.batch.size,
        (round.submissions s.machine s.patience).countP Option.isSome,
        (round.submissions s.machine s.patience).countP Option.isNone, false, false⟩ := by
  obtain ⟨events, hfloor⟩ := floorFor_frame h.capacity
  have hlength : round.batch.clients.length = round.seats.length := h.seats.symm
  have hplaces : 0 + round.seats.length ≤ round.batch.size :=
    Nat.le_of_eq ((Nat.zero_add _).trans h.seats)
  have hpids := h.map_pid_floorFor
  have hne : (s.floorFor round).map ≠ [] := by
    intro hnil
    rw [hnil, List.map_nil] at hpids
    have hnobody : round.seats.length = 0 := by
      rw [← List.length_map Seat.pid, ← hpids, List.length_nil]
    rw [hnobody] at hlength
    exact h.clients (List.length_eq_zero_iff.mp hlength)
  obtain ⟨hready, hsame, hkept, hreport⟩ := Floor.ready_turn (n := round.batch.size) hne rfl
    (by rw [hfloor]; exact h.signal) (by rw [slot_floorFor, hpids]; exact h.slot)
    (by rw [hfloor]; exact Nat.mod_eq_of_lt h.size_lt) (by rw [hfloor]; exact h.capacity)
    (by rw [hfloor, h.tellers]; rfl) (by rw [hfloor]; exact children_start s.children)
  have hpatience : (s.floorFor round).patience = s.patience := by rw [hfloor]
  have hmachine : (s.floorFor round).turn.machine = s.machine := by
    rw [Floor.machine_turn, hfloor]
  have htable : (s.floorFor round).books.table = s.books.table := by rw [hfloor]
  have hmap : (s.floorFor round).map =
      assignmentsFrom 0 round.batch.clients (round.seats.map Seat.pid) := by
    rw [hfloor]
  rw [hpatience] at hkept
  rw [hmap] at hready hpids
  obtain ⟨hsinks, hlast, htables, hreports⟩ := hready.serveSeats hlength hplaces h.size_lt
    (by rw [hpids]; exact h.distinct) (fun a ha => ha) h.distinct
    (by rw [hkept]; exact h.patience)
  rw [hkept, hmachine, hsame, htable] at hsinks htables
  rw [hkept, hmachine, hreport, foldl_after] at hreports
  refine ⟨hsinks, hlast.slot, htables, ?_⟩
  rw [hreports]
  simp [Report.blank, Round.submissions]

end Undisturbed

/-- **Serving a batch comes to answering its clients in turn.** This holds
for all requests and channels, for every ledger file, whether or not it
can be written, and whatever a process outside the batch has left in the
slot. -/
theorem runBatch_answers {s : Server} {round : Round} (h : s.Undisturbed round)
    (source : BatchSource) :
    ∃ served s' source', s.runBatch round source = (.ok served, s', source') ∧
      s.Answered round served s' := by
  obtain ⟨hsinks, hslot, htable, hreport⟩ := h.serveSeats
  refine ⟨_, _, _, runBatch_of_admits h.admits source, ?_⟩
  rw [h.tellers, Floor.lapse]
  exact
    { table := htable
      responses := hsinks
      final := isFinal_of_mem_answerAll
      heard := fun _ _ _ hroom => Teller.taken_writeResponse hroom
      report := hreport
      counted := by
        simp only [hreport]
        exact (countP_submissions round s.machine s.patience).trans h.seats
      slot := hslot
      tellers := by rw [finish, hreport]; rfl }

/-- Three clients: one opens an account, one cannot be reached, and one
asks for an account that is not its own. A payload of an earlier batch is
still in the slot. -/
theorem runBatch_answers_three_clients :
    let s : Server :=
      { books := ⟨.empty, ⟨"a.bankLog", "a", ⟨[], 0⟩⟩, .scratch "/", fun _ => ⟨"", none⟩, 0, []⟩
        mailbox := { Mailbox.ofCapacity 4 with slot := some ⟨0, 99, .blank⟩ }
        tellers := []
        signal := none
        patience := .ofSeconds 5 }
    let request (id : BankId) (amount : UInt32) : Option Source :=
      some (.ofBytes (Channels.line (Transaction.mk id .deposit amount)))
    let round : Round :=
      { batch := ⟨10, ["N", "N", "BankID_1"]⟩
        seats := [⟨11, request ⟨"N", by decide⟩ 5, .unbounded⟩, ⟨12, none, .unbounded⟩,
          ⟨13, request ⟨"N", by decide⟩ 7, .unbounded⟩]
        publishFault := none }
    s.Undisturbed round ∧
    ∃ served s' source', s.runBatch round (.single round) = (.ok served, s', source') ∧
      s.Answered round served s' := by
  intro s request round
  have h : s.Undisturbed round :=
    { clients := List.cons_ne_nil _ _
      capacity := by decide
      seats := rfl
      distinct := by
        have hpids : round.seats.map Seat.pid = [11, 12, 13] := rfl
        rw [hpids]
        decide
      positive := by
        simp only [round, List.forall_mem_cons]
        exact ⟨by decide, by decide, by decide, fun _ h => absurd h List.not_mem_nil⟩
      slot := by
        rintro p ⟨⟩
        have hpids : round.seats.map Seat.pid = [11, 12, 13] := rfl
        rw [hpids]
        decide
      tellers := rfl
      signal := rfl
      patience := rfl }
  exact ⟨h, runBatch_answers h _⟩

end Server

end CountingHouse
