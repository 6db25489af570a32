/-
CountingHouse.Proofs.Server.Children — every child of the server is a
teller whose end it does not know yet.

That is what `Tended` says. It is so when a batch begins, for then a child
is started for each teller that joins (`tended_floorFor`), and every move
keeps it so (`tended_move`): a teller that is found to have ended is reaped
by the same look. Hence a batch that comes to its end leaves no child
(`tended_finish`), and the children of one that was interrupted are those
that stopping dismisses, which leaves none either (`dismissAll_eq`).

Without this invariant reaping could fail: a number that nobody runs under
is answered with an error.
-/
import CountingHouse.Proofs.Server.Batch
import CountingHouse.Proofs.Server.Moves

namespace CountingHouse.Server

/-! ## Tellers and their processes -/

theorem runsAs_cons (t : TellerProcess) (rest : List TellerProcess) (pid : Int32) :
    runsAs (t :: rest) pid = (t.pid = pid && t.exit.isNone || runsAs rest pid) := rfl

theorem runsAs_append (tellers more : List TellerProcess) (pid : Int32) :
    runsAs (tellers ++ more) pid = (runsAs tellers pid || runsAs more pid) :=
  List.any_append

/-- A teller that has just been started runs. -/
theorem runsAs_started (map : TellerMap) (pid : Int32) :
    runsAs (map.map startedTeller) pid = decide (pid ∈ map.map Assignment.pid) := by
  induction map with
  | nil => rfl
  | cons a map ih =>
    rw [List.map_cons, runsAs_cons, ih]
    simp [startedTeller, eq_comm]

/-- That a teller was served changes nothing about its process. -/
theorem runsAs_markServed (p : TellerProcess → Bool) (tellers : List TellerProcess) :
    runsAs (Roll.markServed p tellers) = runsAs tellers := by
  funext pid
  induction tellers with
  | nil => rfl
  | cons t rest ih =>
    rw [Roll.markServed]
    split
    · rfl
    · rw [runsAs_cons, ih, runsAs_cons]

theorem runsAs_recordReceipt (r : Roll) (receipt : Receipt) :
    runsAs (r.recordReceipt receipt).tellers = runsAs r.tellers := by
  unfold Roll.recordReceipt
  split
  · exact runsAs_markServed _ _
  · rfl

/-- Those that are found to have ended do not run any more. -/
theorem runsAs_reapFinished (r : Roll) (ended : Int32 → Option ExitStatus) (pid : Int32) :
    runsAs (r.reapFinished ended).tellers pid = (runsAs r.tellers pid && (ended pid).isNone) := by
  show runsAs (r.tellers.map (Roll.reapOne ended)) pid = _
  induction r.tellers with
  | nil => rfl
  | cons t rest ih =>
    have hexit : (Roll.reapOne ended t).exit.isNone = (t.exit.isNone && (ended t.pid).isNone) := by
      unfold Roll.reapOne
      cases hexit : t.exit <;> simp [hexit]
    rw [List.map_cons, runsAs_cons, ih, runsAs_cons, Roll.pid_reapOne, hexit,
      Bool.and_or_distrib_right]
    by_cases hpid : t.pid = pid
    · rw [hpid, Bool.and_assoc]
    · simp [hpid]

/-! ## Children -/

/-- The children are the processes of the tellers whose end is not known,
and nobody else. -/
def Tended (tellers : List TellerProcess) (children : Children) : Prop :=
  ∀ pid, children pid ≠ .reaped ↔ runsAs tellers pid = true

section
variable {tellers : List TellerProcess} {children : Children} (h : Tended tellers children)
include h

theorem Tended.eq_reaped {pid : Int32} (hpid : runsAs tellers pid = false) :
    children pid = .reaped := by
  by_contra hchild
  rw [(h pid).mp hchild] at hpid
  cases hpid

theorem Tended.start (map : TellerMap) :
    Tended (tellers ++ map.map startedTeller) (children.start (map.map Assignment.pid)) := by
  intro pid
  rw [runsAs_append, runsAs_started, Children.start]
  by_cases hpid : pid ∈ map.map Assignment.pid
  · simp [hpid]
  · simpa [hpid] using h pid

/-- Whoever ends is still there to be reaped. -/
theorem Tended.exit (pid : Int32) (status : ExitStatus) :
    Tended tellers (children.put pid ((children pid).exit status)) := by
  intro other
  by_cases hother : other = pid
  · rw [hother, Children.put_self, Child.exit_ne_reaped_iff]
    exact h pid
  · rw [Children.put_of_ne _ hother]
    exact h other

/-- The same look finds that a teller has ended and takes its process
away. -/
theorem Tended.poll {report : Report} :
    Tended ((Roll.mk tellers report).reapFinished fun pid => (children pid).status?).tellers
      (children.poll (runsAs tellers)) := by
  intro pid
  rw [runsAs_reapFinished, Children.poll]
  cases hruns : runsAs tellers pid with
  | false => simpa [hruns] using h.eq_reaped hruns
  | true =>
    have hthere : children pid ≠ .reaped := (h pid).mpr hruns
    simpa [hruns, hthere] using Child.wait_ne_reaped_iff (c := children pid)

/-- When the server has waited for all of them, there is nobody left. -/
theorem Tended.await : children.await (runsAs tellers) = Children.none := by
  funext pid
  cases hruns : runsAs tellers pid with
  | false => simpa [Children.await, hruns, Children.none] using h.eq_reaped hruns
  | true => simp [Children.await, hruns, Children.none]

end

theorem tended_nobody : Tended [] Children.none := by
  intro pid
  simp [Children.none, runsAs]

/-! ## A batch -/

namespace Floor

theorem tended_turn {f : Floor} (h : Tended f.roll.tellers f.children) :
    Tended f.turn.roll.tellers f.turn.children := by
  rcases f.turn_cases with ⟨_, hturn⟩ | ⟨_, _, _, hturn⟩ | ⟨_, _, hslot, _, hturn⟩ |
    ⟨p, _, _, hslot, _, hturn⟩ <;> rw [hturn]
  · exact h
  · exact h
  · rw [attend_of_empty (f := f.afterLook) hslot]
    exact h.poll
  · rw [attend_of_some (f := f.afterLook) hslot]
    intro pid
    rw [runsAs_recordReceipt]
    exact h pid

theorem tended_move {f : Floor} (h : Tended f.roll.tellers f.children) (m : Move) :
    Tended (f.move m).roll.tellers (f.move m).children := by
  cases m with
  | turn => exact tended_turn h
  | post e => exact h
  | retract teller pid => exact h
  | leave pid code => exact h.exit pid (.ofCode code)

theorem tended_play {f : Floor} (h : Tended f.roll.tellers f.children) (moves : List Move) :
    Tended (f.play moves).roll.tellers (f.play moves).children := by
  induction moves generalizing f with
  | nil => exact h
  | cons m moves ih => exact ih (tended_move h m)

end Floor

theorem tended_floorFor {s : Server} (h : Tended s.tellers s.children) (round : Round) :
    Tended (s.floorFor round).roll.tellers (s.floorFor round).children := by
  unfold floorFor
  cases round.publishFault <;> exact h.start _

/-- **What a batch leaves behind** are the tellers that stopping has to
dismiss, and no others. -/
theorem tended_finish {f : Floor} (h : Tended f.roll.tellers f.children) :
    Tended (finish f).tellers (finish f).children := by
  unfold finish
  cases f.roll.report.interrupted with
  | true => exact h
  | false =>
    have hnobody := h.await
    simpa [hnobody] using tended_nobody

/-! ## Stopping -/

/-- A teller that is there is reaped, and about one that is not there is
complained. -/
theorem dismiss_cases (s : Server) (t : TellerProcess) :
    let after : Server := { s with children := s.children.put t.pid .reaped }
    (s.children t.pid ≠ .reaped ∧ s.dismiss t = after) ∨
      (s.children t.pid = .reaped ∧
        ∃ error, s.dismiss t = after.note (.tellerNotReaped t.pid error)) := by
  intro after
  have hkilled := Child.wait_kill (c := s.children t.pid)
  obtain ⟨hgone, ⟨hthere, status, hresult⟩ | ⟨hnobody, error, hresult⟩⟩ := hkilled
  · refine .inl ⟨hthere, ?_⟩
    unfold dismiss
    simp only [hgone, hresult]
    rfl
  · refine .inr ⟨hnobody, error, ?_⟩
    unfold dismiss
    simp only [hgone, hresult]
    rfl

theorem await_put (c : Children) (t : TellerProcess) (rest : List TellerProcess) :
    (c.put t.pid .reaped).await (fun pid => rest.any (·.pid = pid)) =
      c.await (fun pid => (t :: rest).any (·.pid = pid)) := by
  funext pid
  simp only [Children.await, Children.put, List.any_cons]
  by_cases hpid : pid = t.pid
  · simp [hpid]
  · simp [hpid, Ne.symm hpid]

theorem foldl_dismiss (s : Server) (tellers : List TellerProcess) :
    ∃ events, tellers.foldl dismiss s =
      { s with
        books := { s.books with events }
        children := s.children.await fun pid => tellers.any (·.pid = pid) } := by
  induction tellers generalizing s with
  | nil => exact ⟨_, rfl⟩
  | cons t rest ih =>
    rw [List.foldl_cons]
    rcases s.dismiss_cases t with ⟨_, heq⟩ | ⟨_, error, heq⟩ <;> rw [heq]
    · obtain ⟨events, hrest⟩ := ih { s with children := s.children.put t.pid .reaped }
      exact ⟨events, hrest.trans (by rw [← await_put])⟩
    · obtain ⟨events, hrest⟩ := ih
        (({ s with children := s.children.put t.pid .reaped } : Server).note
          (.tellerNotReaped t.pid error))
      exact ⟨events, hrest.trans (by rw [← await_put]; rfl)⟩

/-- **No teller is left** when all have been dismissed: each that had not
ended for the server was killed and reaped. -/
theorem dismissAll_eq (s : Server) :
    ∃ events, s.dismissAll =
      { s with
        tellers := []
        books := { s.books with events }
        children := s.children.await (runsAs s.tellers) } := by
  obtain ⟨events, heq⟩ :=
    foldl_dismiss { s with tellers := [] } (s.tellers.filter (·.exit.isNone))
  refine ⟨events, heq.trans ?_⟩
  have hasked : (fun pid => (s.tellers.filter (·.exit.isNone)).any (·.pid = pid)) =
      runsAs s.tellers := by
    funext pid
    rw [List.any_filter, runsAs]
    exact congrArg _ (funext fun t => Bool.and_comm _ _)
  rw [hasked]

end CountingHouse.Server
