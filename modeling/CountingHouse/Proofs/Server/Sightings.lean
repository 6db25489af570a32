/-
CountingHouse.Proofs.Server.Sightings — what the server sees of its
tellers while anybody does anything.

Each turn shows the server one thing at most: the receipt of a payload, or
who has ended. `Floor.history` puts down what it is, and the roll of a floor
is the roll that has watched this history (`roll_play`). A teller is not
answered more often than it hands something over (`answers_play`). So the
numbers of a summary count the tellers of a batch by their histories,
whatever moves are made, and with them the tellers that an interrupted batch
has left (`report_play`).
-/
import CountingHouse.Proofs.Server.Batch
import CountingHouse.Proofs.Server.Moves
import CountingHouse.Proofs.Server.Tally

namespace CountingHouse.Server

/-! ## Turns -/

/-- Does a payload come from this teller? -/
def TellerProcess.hasPosted (t : TellerProcess) (p : Posted) : Bool :=
  t.pid = p.pid && t.teller = p.teller

/-- Is this a move in which this teller tries to hand something over? -/
def TellerProcess.tries (t : TellerProcess) : Move → Bool
  | .post e => t.hasPosted e.posted
  | .turn | .retract _ _ | .leave _ _ => false

namespace Floor

/-- What the server sees of its tellers in a move. When it finds no payload
it looks who has ended. -/
def sighted (f : Floor) (m : Move) : History :=
  match f.seen m with
  | [.looked false] => [.ended f.ended?]
  | [.looked false, .took _ p answer] => [.taken ⟨p.teller, p.pid, answer⟩]
  | _ => []

/-- What it sees while some moves are made. -/
def history (f : Floor) : List Move → History
  | [] => []
  | m :: rest => f.sighted m ++ (f.move m).history rest

/-- How many payloads of a teller lie in the slot: one or none. -/
def pending (f : Floor) (t : TellerProcess) : Nat :=
  f.mailbox.slot.toList.countP t.hasPosted

/-- What can be seen in a turn: nothing, who has ended, or a payload. -/
theorem sighted_turn_cases (f : Floor) :
    (f.sighted .turn = [] ∧ (f.turn = f ∨ f.turn = f.afterLook.interrupt)) ∨
    (f.mailbox.slot = none ∧ f.sighted .turn = [.ended f.ended?] ∧
      f.turn = f.afterLook.attend) ∨
    ∃ p, f.mailbox.slot = some p ∧ f.sighted .turn =
        [.taken ⟨p.teller, p.pid, (Mailbox.handle p (Books.processEnvelope f.map) f.books).1⟩] ∧
      f.turn = f.afterLook.attend := by
  rcases f.turn_cases with ⟨hseen, hturn⟩ | ⟨_, _, hseen, hturn⟩ | ⟨_, _, hslot, hseen, hturn⟩ |
    ⟨p, _, _, hslot, hseen, hturn⟩ <;> rw [sighted, hseen]
  · exact .inl ⟨rfl, .inl hturn⟩
  · exact .inl ⟨rfl, .inr hturn⟩
  · exact .inr (.inl ⟨hslot, rfl, hturn⟩)
  · exact .inr (.inr ⟨p, hslot, rfl, hturn⟩)

end Floor

/-! ## The roll -/

/-- That the server is to stop makes no difference to what is seen. -/
theorem Roll.watch_interrupted (r : Roll) (b : Bool) (h : History) :
    ({ r with report.interrupted := b } : Roll).watch h =
      { r.watch h with report.interrupted := b } := by
  induction h generalizing r with
  | nil => rfl
  | cons s h ih =>
    have hsee : ({ r with report.interrupted := b } : Roll).see s =
        { r.see s with report.interrupted := b } := by
      cases s with
      | taken receipt =>
        simp only [see, recordReceipt]
        split <;> rfl
      | ended known => rfl
    rw [watch, List.foldl_cons, hsee]
    exact ih (r.see s)

namespace Floor

theorem roll_move (f : Floor) (m : Move) :
    (f.move m).roll = { f.roll.watch (f.sighted m) with
      report.interrupted := (f.move m).roll.report.interrupted } := by
  cases m with
  | turn =>
    rw [move]
    rcases f.sighted_turn_cases with ⟨hsighted, hturn | hturn⟩ | ⟨hslot, hsighted, hturn⟩ |
      ⟨p, hslot, hsighted, hturn⟩ <;> rw [hsighted, hturn]
    · rfl
    · rfl
    · rw [attend_of_empty (f := f.afterLook) hslot]
      rfl
    · rw [attend_of_some (f := f.afterLook) hslot]
      rfl
  | post e => rfl
  | retract teller pid => rfl
  | leave pid code => rfl

/-- **The roll has watched the history**, whatever moves are made. -/
theorem roll_play (f : Floor) (moves : List Move) :
    (f.play moves).roll = { f.roll.watch (f.history moves) with
      report.interrupted := (f.play moves).roll.report.interrupted } := by
  induction moves generalizing f with
  | nil => rfl
  | cons m moves ih =>
    have hrest := ih (f.move m)
    rw [f.roll_move m, Roll.watch_interrupted] at hrest
    rw [history, Roll.watch, List.foldl_append]
    exact hrest

/-! ## Answers -/

/-- What is answered was in the slot, and is there no longer. -/
theorem answers_turn (f : Floor) (t : TellerProcess) :
    (f.sighted .turn).countP (·.answers t) + f.turn.pending t ≤ f.pending t := by
  rcases f.sighted_turn_cases with ⟨hsighted, hturn | hturn⟩ | ⟨hslot, hsighted, hturn⟩ |
    ⟨p, hslot, hsighted, hturn⟩ <;> rw [hsighted, hturn]
  · exact Nat.le_of_eq (Nat.zero_add _)
  · exact Nat.le_of_eq (Nat.zero_add _)
  · rw [attend_of_empty (f := f.afterLook) hslot]
    exact Nat.le_of_eq (Nat.zero_add _)
  · have hfrom : ∀ answer, (Sighting.taken ⟨p.teller, p.pid, answer⟩).answers t = true →
        t.hasPosted p = true := by
      intro answer hanswers
      exact (Bool.and_eq_true_iff.mp hanswers).2
    rw [attend_of_some (f := f.afterLook) hslot, pending, pending, hslot, List.countP_singleton]
    split
    · next hanswers => simp [hfrom _ hanswers]
    · exact Nat.zero_le _

theorem answers_move (f : Floor) (m : Move) (t : TellerProcess) :
    (f.sighted m).countP (·.answers t) + (f.move m).pending t ≤
      f.pending t + [m].countP t.tries := by
  cases m with
  | turn => exact f.answers_turn t
  | post e =>
    cases hslot : f.mailbox.slot with
    | some p =>
      rw [move, Mailbox.tryPost_of_some hslot]
      exact Nat.le_trans (Nat.le_of_eq (Nat.zero_add _)) (Nat.le_add_right _ _)
    | none =>
      rw [move, Mailbox.tryPost_of_none hslot, pending, pending, hslot]
      exact Nat.le_refl (0 + [e.posted].countP t.hasPosted)
  | retract teller pid =>
    rcases f.mailbox.retract_cases teller pid with ⟨p, hslot, _, _, heq⟩ | ⟨_, heq⟩ <;>
      rw [move, heq]
    · exact Nat.zero_le _
    · exact Nat.le_of_eq (Nat.zero_add _)
  | leave pid code => exact Nat.le_of_eq (Nat.zero_add _)

/-- A teller is answered at most as often as it hands something over. -/
theorem answers_play (f : Floor) (moves : List Move) (t : TellerProcess) :
    (f.history moves).countP (·.answers t) + (f.play moves).pending t ≤
      f.pending t + moves.countP t.tries := by
  induction moves generalizing f with
  | nil => exact Nat.le_of_eq (Nat.zero_add _)
  | cons m moves ih =>
    have hfirst := f.answers_move m t
    have hrest : ((f.move m).history moves).countP (·.answers t) + (f.play (m :: moves)).pending t ≤
        (f.move m).pending t + moves.countP t.tries := ih (f.move m)
    rw [history, List.countP_append]
    rw [List.countP_singleton] at hfirst
    rw [List.countP_cons]
    omega

/-- **The numbers of a summary** count the tellers by what is seen of them,
whatever moves are made in which no teller hands over twice. -/
theorem report_play {f : Floor} {moves : List Move} (h : f.roll.IsDistinct)
    (honce : ∀ t ∈ f.roll.tellers, f.pending t + moves.countP t.tries ≤ 1) :
    let history := f.history moves
    let report := (f.play moves).roll.report
    report.served = f.roll.report.served + f.roll.tellers.countP history.isAnswered ∧
      report.abandoned = f.roll.report.abandoned +
        f.roll.tellers.countP fun t => t.isAwaiting && history.isGivenUp t := by
  intro history report
  have hanswered : f.roll.AnsweredOnce history := by
    intro t ht
    have hplay := Nat.le_of_add_right_le (f.answers_play moves t)
    exact hplay.trans (honce t ht)
  have hreport := Roll.report_watch h hanswered
  have hroll : report = { (f.roll.watch history).report with
      interrupted := report.interrupted } := congrArg Roll.report (f.roll_play moves)
  rw [hroll, hreport]
  exact ⟨rfl, rfl⟩

end Floor

/-! ## Batches -/

theorem roll_floorFor (s : Server) (round : Round) :
    (s.floorFor round).roll =
      ⟨s.tellers ++ (s.floorFor round).map.map startedTeller, .blank round.batch.size⟩ := by
  unfold floorFor
  cases round.publishFault <;> rfl

/-- The summary of a batch counts its own tellers, and with them those that
an interrupted batch has left. -/
theorem report_floorFor {s : Server} {round : Round} {moves : List Move}
    (h : (s.floorFor round).roll.IsDistinct)
    (honce : ∀ t ∈ (s.floorFor round).roll.tellers,
      (s.floorFor round).pending t + moves.countP t.tries ≤ 1) :
    let own := (s.floorFor round).map.map startedTeller
    let history := (s.floorFor round).history moves
    let report := ((s.floorFor round).play moves).roll.report
    report.served = s.tellers.countP history.isAnswered + own.countP history.isAnswered ∧
      report.abandoned = (s.tellers.countP fun t => t.isAwaiting && history.isGivenUp t) +
        own.countP history.isGivenUp := by
  intro own history report
  obtain ⟨hserved, habandoned⟩ := Floor.report_play h honce
  have hawaited : ∀ t ∈ own, t.isAwaiting = true :=
    fun _ ht => Roll.isAwaiting_of_mem_started ht
  rw [roll_floorFor, List.countP_append] at hserved habandoned
  rw [Roll.countP_awaited hawaited] at habandoned
  exact ⟨hserved.trans (Nat.zero_add _), habandoned.trans (Nat.zero_add _)⟩

-- the only teller of an interrupted batch has ended, and is counted with the
-- only teller of the next one
example :
    let s : Server :=
      { books := ⟨.empty, ⟨"a.bankLog", "a", ⟨[], 0⟩⟩, .scratch "/", fun _ => ⟨"", none⟩, 0, []⟩
        mailbox := .ofCapacity 4
        tellers := []
        signal := some 0
        patience := .ofSeconds 5 }
    let first : Round := ⟨⟨10, ["N"]⟩, [⟨11, none, .unbounded⟩], none⟩
    let second : Round := ⟨⟨10, ["N"]⟩, [⟨12, none, .unbounded⟩], none⟩
    let left := (s.runBatch first (.single first)).2.1
    ({ left with signal := none }.runBatch second (.single second)).1.map Served.report =
      .ok (Report.mk 1 0 2 false false) := by rfl

end CountingHouse.Server
