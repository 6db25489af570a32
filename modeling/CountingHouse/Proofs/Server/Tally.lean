/-
CountingHouse.Proofs.Server.Tally — whom the two numbers of a summary
count.

While a batch is served the server sees receipts of the payloads it has
taken, and it sees which tellers have ended. These come in any order. Each
of them changes the tellers one by one (`see_eq`), so that the numbers can
be read off the history of each teller: it is counted as served when a
payload of its was answered, and as abandoned when it was found to have
ended before (`report_watch`).

An answer counts as served even a teller whose end was noticed before. Such
a teller has been counted as abandoned already, so it is counted twice
(`watch_counts_twice`), and the two numbers together exceed the tellers by as
many as this happens to (`Tallied.total`). When it happens to nobody, each
teller is counted once (`Tallied.countsOnce`).
-/
import CountingHouse.Proofs.Server.Roll
import CountingHouse.Server.Floor

namespace CountingHouse.Server

/-! ## What the server sees -/

/-- What the server sees of its tellers. -/
inductive Sighting where
  /-- A payload was taken. -/
  | taken (receipt : Receipt)
  /-- The server has looked which processes have ended, and how. -/
  | ended (known : Int32 → Option ExitStatus)

/-- What the server sees while it serves a batch, oldest first. -/
abbrev History := List Sighting

namespace Sighting

/-- Is a payload of this teller answered? -/
def answers (t : TellerProcess) : Sighting → Bool
  | .taken receipt => receipt.response.isSome && Roll.isSender receipt t
  | .ended _ => false

/-- Is this teller found to have ended? -/
def findsEnded (t : TellerProcess) : Sighting → Bool
  | .taken _ => false
  | .ended known => (known t.pid).isSome

end Sighting

namespace History

/-- Was a payload of this teller answered? -/
def isAnswered (h : History) (t : TellerProcess) : Bool :=
  h.any (·.answers t)

/-- Was this teller found to have ended? -/
def isGone (h : History) (t : TellerProcess) : Bool :=
  h.any (·.findsEnded t)

/-- Was this teller found to have ended before a payload of its was
answered? -/
def isGivenUp : History → TellerProcess → Bool
  | [], _ => false
  | s :: rest, t => s.findsEnded t || (!s.answers t && isGivenUp rest t)

end History

/-- A teller after it was seen. -/
def TellerProcess.see (t : TellerProcess) (s : Sighting) : TellerProcess :=
  match s with
  | .taken _ => if s.answers t then { t with served := true } else t
  | .ended known => Roll.reapOne known t

namespace Roll

/-- The roll after one sighting. -/
def see (r : Roll) : Sighting → Roll
  | .taken receipt => r.recordReceipt receipt
  | .ended known => r.reapFinished known

/-- The roll after a history. -/
def watch (r : Roll) (h : History) : Roll :=
  h.foldl see r

end Roll

/-! ## The history of one teller -/

section
variable (t : TellerProcess) (s : Sighting) (h : History)

/-- Nothing that is seen is both. -/
theorem Sighting.not_answers_of_findsEnded {t : TellerProcess} {s : Sighting}
    (h : s.findsEnded t = true) : s.answers t = false := by
  cases s with
  | taken receipt => cases h
  | ended known => rfl

namespace TellerProcess

@[simp] theorem pid_see : (t.see s).pid = t.pid := by
  cases s with
  | taken receipt => rw [see]; split <;> rfl
  | ended known => exact Roll.pid_reapOne

@[simp] theorem teller_see : (t.see s).teller = t.teller := by
  cases s with
  | taken receipt => rw [see]; split <;> rfl
  | ended known => rw [see, Roll.reapOne]; split <;> rfl

/-- What is seen of a teller depends only on which one it is. -/
@[simp] theorem answers_see (s' : Sighting) : s'.answers (t.see s) = s'.answers t := by
  cases s' with
  | taken receipt => simp [Sighting.answers, Roll.isSender]
  | ended known => rfl

@[simp] theorem findsEnded_see (s' : Sighting) :
    s'.findsEnded (t.see s) = s'.findsEnded t := by
  cases s' with
  | taken receipt => rfl
  | ended known => simp [Sighting.findsEnded]

@[simp] theorem isAnswered_see : h.isAnswered (t.see s) = h.isAnswered t := by
  simp [History.isAnswered]

@[simp] theorem isGivenUp_see : h.isGivenUp (t.see s) = h.isGivenUp t := by
  induction h with
  | nil => rfl
  | cons s' h ih => simp [History.isGivenUp, ih]

/-- A teller is awaited until it is answered or found to have ended. -/
theorem isAwaiting_see :
    (t.see s).isAwaiting = (t.isAwaiting && !s.answers t && !s.findsEnded t) := by
  cases s with
  | taken receipt =>
    rw [see]
    split <;> next hanswers => simp [hanswers, isAwaiting, Sighting.findsEnded]
  | ended known =>
    rw [see, Roll.reapOne]
    split <;> next hexit => simp [isAwaiting, hexit, Sighting.answers, Sighting.findsEnded]

theorem isAwaiting_foldl_see :
    (h.foldl see t).isAwaiting = (t.isAwaiting && !h.isAnswered t && !h.isGone t) := by
  induction h generalizing t with
  | nil => simp [History.isAnswered, History.isGone]
  | cons s h ih =>
    rw [List.foldl_cons, ih, isAwaiting_see, isAnswered_see]
    simp only [History.isAnswered, History.isGone, List.any_cons, findsEnded_see, Bool.not_or]
    ac_rfl

end TellerProcess

namespace History

/-- Whoever has ended without an answer was given up. -/
theorem isGivenUp_of_not_isAnswered {h : History} {t : TellerProcess}
    (hanswered : h.isAnswered t = false) : h.isGivenUp t = h.isGone t := by
  induction h with
  | nil => rfl
  | cons s h ih =>
    rw [isAnswered, List.any_cons, Bool.or_eq_false_iff] at hanswered
    rw [isGivenUp, ih hanswered.2, hanswered.1, isGone, isGone, List.any_cons]
    rfl

/-- Answered or given up comes to answered or gone. -/
theorem isAnswered_or_isGivenUp :
    (h.isAnswered t || h.isGivenUp t) = (h.isAnswered t || h.isGone t) := by
  cases hanswered : h.isAnswered t with
  | true => rfl
  | false => rw [isGivenUp_of_not_isAnswered hanswered]

/-- No answer comes to a teller whose end was noticed. -/
def Orderly (h : History) (t : TellerProcess) : Prop :=
  h.Pairwise fun earlier later => earlier.findsEnded t = true → later.answers t = false

instance (h : History) (t : TellerProcess) : Decidable (h.Orderly t) :=
  inferInstanceAs (Decidable (h.Pairwise fun earlier later =>
    earlier.findsEnded t = true → later.answers t = false))

/-- Then nobody who was answered has been given up. -/
theorem Orderly.not_isGivenUp {h : History} {t : TellerProcess} (horderly : h.Orderly t)
    (hanswered : h.isAnswered t = true) : h.isGivenUp t = false := by
  induction h with
  | nil => rfl
  | cons s h ih =>
    obtain ⟨hfirst, hrest⟩ := List.pairwise_cons.mp horderly
    rw [isGivenUp, Bool.or_eq_false_iff]
    rw [isAnswered, List.any_cons, Bool.or_eq_true] at hanswered
    rcases hanswered with hnow | hlater
    · have hrunning : s.findsEnded t = false := Bool.eq_false_iff.mpr fun hended => by
        rw [Sighting.not_answers_of_findsEnded hended] at hnow
        cases hnow
      exact ⟨hrunning, by rw [hnow]; rfl⟩
    · obtain ⟨s', hs', hanswers⟩ := List.any_eq_true.mp hlater
      refine ⟨Bool.eq_false_iff.mpr fun hended => ?_, by rw [ih hrest hlater, Bool.and_false]⟩
      rw [hfirst s' hs' hended] at hanswers
      cases hanswers

end History

end

/-! ## One sighting -/

/-- Those of one kind and those of another are those of either kind, and
once more those of both. -/
theorem countP_add_countP {α : Type} (p q : α → Bool) (l : List α) :
    l.countP p + l.countP q =
      (l.countP fun a => p a || q a) + l.countP fun a => p a && q a := by
  induction l with
  | nil => rfl
  | cons a l ih =>
    simp only [List.countP_cons]
    cases p a <;> cases q a <;> simp <;> omega

/-- When nobody is of both kinds, those of either kind add up. -/
theorem countP_eq_add {α : Type} {p q r : α → Bool} {l : List α}
    (hor : ∀ a ∈ l, r a = (p a || q a)) (hand : ∀ a ∈ l, (p a && q a) = false) :
    l.countP r = l.countP p + l.countP q := by
  have hboth : (l.countP fun a => p a && q a) = 0 :=
    List.countP_eq_zero.mpr fun a ha => by simp [hand a ha]
  rw [countP_add_countP, hboth, Nat.add_zero]
  exact List.countP_congr fun a ha => by rw [hor a ha]

namespace Roll

section
variable {p : TellerProcess → Bool} {l : List TellerProcess}

/-- When at most one teller is meant, marking the first is marking all. -/
theorem markServed_eq_map (h : l.Pairwise fun t u => p t = true → p u = false) :
    markServed p l = l.map fun t => if p t then { t with served := true } else t := by
  induction l with
  | nil => rfl
  | cons t l ih =>
    obtain ⟨hothers, hrest⟩ := List.pairwise_cons.mp h
    rw [markServed, List.map_cons]
    split
    · next ht =>
      have hsame : l.map (fun u => if p u then { u with served := true } else u) = l.map id :=
        List.map_congr_left fun u hu => by simp [hothers u hu ht]
      rw [hsame, List.map_id]
    · rw [ih hrest]

theorem countP_of_pairwise (h : l.Pairwise fun t u => p t = true → p u = false) :
    l.countP p = if l.any p then 1 else 0 := by
  induction l with
  | nil => rfl
  | cons t l ih =>
    obtain ⟨hothers, hrest⟩ := List.pairwise_cons.mp h
    rw [List.countP_cons, List.any_cons]
    cases ht : p t with
    | true =>
      have hnobody : l.countP p = 0 :=
        List.countP_eq_zero.mpr fun u hu => by simp [hothers u hu ht]
      simp [hnobody]
    | false => simpa using ih hrest

end

/-- The tellers run as different processes. -/
def IsDistinct (r : Roll) : Prop :=
  (r.tellers.map TellerProcess.pid).Nodup

/-- A receipt is about one teller at most. -/
theorem IsDistinct.pairwise_answers {r : Roll} (h : r.IsDistinct) (receipt : Receipt) :
    r.tellers.Pairwise fun t u =>
      (Sighting.taken receipt).answers t = true → (Sighting.taken receipt).answers u = false := by
  refine (List.pairwise_map.mp h).imp fun {t u} hne ht => ?_
  simp only [Sighting.answers, isSender, Bool.and_eq_true, decide_eq_true_eq] at ht
  have hother : u.pid ≠ receipt.pid := fun heq => hne (ht.2.1.trans heq.symm)
  simp [Sighting.answers, isSender, hother]

/-- A receipt counts those whose payload it answers as served. -/
theorem recordReceipt_eq {r : Roll} (h : r.IsDistinct) (receipt : Receipt) :
    r.recordReceipt receipt =
      { tellers := r.tellers.map (·.see (.taken receipt))
        report := { r.report with
          served := r.report.served + r.tellers.countP (Sighting.taken receipt).answers } } := by
  have hpairwise := h.pairwise_answers receipt
  have hwhen : (receipt.response.isSome && r.tellers.any (isSender receipt)) =
      r.tellers.any (Sighting.taken receipt).answers := by
    cases hresponse : receipt.response.isSome <;> simp [Sighting.answers, hresponse]
  rw [countP_of_pairwise hpairwise, recordReceipt, hwhen]
  cases hany : r.tellers.any (Sighting.taken receipt).answers with
  | true =>
    rw [hany, Bool.and_eq_true] at hwhen
    have hsame : isSender receipt = (Sighting.taken receipt).answers := by
      funext t
      rw [Sighting.answers, hwhen.1, Bool.true_and]
    rw [if_pos rfl, if_pos rfl, hsame, markServed_eq_map hpairwise]
    rfl
  | false =>
    have hnone : ∀ t ∈ r.tellers, (Sighting.taken receipt).answers t = false := by
      simpa using hany
    have hkept : r.tellers.map (·.see (.taken receipt)) = r.tellers.map id :=
      List.map_congr_left fun t ht => by simp [TellerProcess.see, hnone t ht]
    rw [hkept, List.map_id]
    rfl

/-- Looking who has ended counts those of them that were awaited as
abandoned. -/
theorem reapFinished_eq (r : Roll) (known : Int32 → Option ExitStatus) :
    r.reapFinished known =
      { tellers := r.tellers.map (·.see (.ended known))
        report := { r.report with
          abandoned := r.report.abandoned +
            r.tellers.countP fun t => t.isAwaiting && (Sighting.ended known).findsEnded t } } := by
  have hlost : isLost known = fun t => t.isAwaiting && (Sighting.ended known).findsEnded t := by
    funext t
    simp only [isLost, TellerProcess.isAwaiting, Sighting.findsEnded]
    ac_rfl
  rw [reapFinished, hlost]
  rfl

/-- **One sighting** changes each teller by itself. Those whose payload it
answers are counted as served, and those of the awaited that it finds to
have ended as abandoned. -/
theorem see_eq {r : Roll} (h : r.IsDistinct) (s : Sighting) :
    r.see s =
      { tellers := r.tellers.map (·.see s)
        report := { r.report with
          served := r.report.served + r.tellers.countP s.answers
          abandoned := r.report.abandoned +
            r.tellers.countP fun t => t.isAwaiting && s.findsEnded t } } := by
  cases s with
  | taken receipt =>
    have hnobody : (r.tellers.countP fun t => t.isAwaiting &&
        (Sighting.taken receipt).findsEnded t) = 0 :=
      List.countP_eq_zero.mpr fun t _ => by simp [Sighting.findsEnded]
    rw [hnobody]
    exact recordReceipt_eq h receipt
  | ended known =>
    have hnobody : r.tellers.countP (Sighting.ended known).answers = 0 :=
      List.countP_eq_zero.mpr fun t _ => by simp [Sighting.answers]
    rw [hnobody]
    exact reapFinished_eq r known

theorem IsDistinct.see {r : Roll} (h : r.IsDistinct) (s : Sighting) : (r.see s).IsDistinct := by
  have hpids : (r.tellers.map (·.see s)).map TellerProcess.pid =
      r.tellers.map TellerProcess.pid := by
    rw [List.map_map]
    exact List.map_congr_left fun t _ => t.pid_see s
  rw [see_eq h, IsDistinct, hpids]
  exact h

/-! ## Many sightings -/

theorem tellers_watch {r : Roll} (h : r.IsDistinct) (history : History) :
    (r.watch history).tellers = r.tellers.map fun t => history.foldl TellerProcess.see t := by
  induction history generalizing r with
  | nil => exact (List.map_id _).symm
  | cons s history ih =>
    have hrest := ih (h.see s)
    rw [see_eq h, List.map_map] at hrest
    rw [watch, List.foldl_cons, see_eq h]
    exact hrest

/-- Each teller is answered at most once. -/
def AnsweredOnce (r : Roll) (history : History) : Prop :=
  ∀ t ∈ r.tellers, history.countP (·.answers t) ≤ 1

instance (r : Roll) (history : History) : Decidable (r.AnsweredOnce history) :=
  inferInstanceAs (Decidable (∀ t ∈ r.tellers, history.countP (·.answers t) ≤ 1))

theorem AnsweredOnce.see {r : Roll} (h : r.IsDistinct) {s : Sighting} {history : History}
    (honce : r.AnsweredOnce (s :: history)) : (r.see s).AnsweredOnce history := by
  intro t' ht'
  rw [see_eq h] at ht'
  obtain ⟨t, ht, rfl⟩ := List.mem_map.mp ht'
  have hall := honce t ht
  simp only [TellerProcess.answers_see]
  rw [List.countP_cons] at hall
  omega

/-- Who is answered first is not answered again. -/
theorem AnsweredOnce.not_isAnswered {r : Roll} {s : Sighting} {history : History}
    (honce : r.AnsweredOnce (s :: history)) {t : TellerProcess} (ht : t ∈ r.tellers)
    (hanswers : s.answers t = true) : history.isAnswered t = false := by
  have hall := honce t ht
  rw [List.countP_cons, if_pos hanswers] at hall
  have hnever : history.countP (·.answers t) = 0 := by omega
  rw [List.countP_eq_zero] at hnever
  exact List.any_eq_false.mpr hnever

/-- **The numbers of a summary** can be read off the history of each teller. -/
theorem report_watch {r : Roll} (h : r.IsDistinct) {history : History}
    (honce : r.AnsweredOnce history) :
    (r.watch history).report = { r.report with
      served := r.report.served + r.tellers.countP history.isAnswered
      abandoned := r.report.abandoned +
        r.tellers.countP fun t => t.isAwaiting && history.isGivenUp t } := by
  induction history generalizing r with
  | nil =>
    have hnobody : r.tellers.countP (History.isAnswered []) = 0 :=
      List.countP_eq_zero.mpr fun t _ => Bool.false_ne_true
    simp [watch, hnobody, History.isGivenUp]
  | cons s history ih =>
    have hrest := ih (h.see s) (honce.see h)
    -- nobody is answered twice, and nobody is lost who is awaited no longer,
    -- so what the first sighting counts and what the others count add up
    have hanswered : r.tellers.countP (History.isAnswered (s :: history)) =
        r.tellers.countP s.answers + r.tellers.countP (History.isAnswered history) := by
      refine countP_eq_add (fun t _ => List.any_cons) fun t ht => ?_
      rw [Bool.and_eq_false_imp]
      exact honce.not_isAnswered ht
    have hgiven : (r.tellers.countP fun t => t.isAwaiting && History.isGivenUp (s :: history) t) =
        (r.tellers.countP fun t => t.isAwaiting && s.findsEnded t) +
          r.tellers.countP fun t => (t.see s).isAwaiting && History.isGivenUp history t := by
      refine countP_eq_add (fun t _ => ?_) fun t _ => ?_
      · rw [TellerProcess.isAwaiting_see, History.isGivenUp]
        cases hended : s.findsEnded t with
        | false => simp [Bool.and_assoc]
        | true => simp [Sighting.not_answers_of_findsEnded hended]
      · rw [TellerProcess.isAwaiting_see]
        cases s.findsEnded t <;> simp
    rw [watch, List.foldl_cons]
    refine hrest.trans ?_
    rw [see_eq h, List.countP_map, List.countP_map, hanswered, hgiven]
    simp only [Function.comp_def, TellerProcess.isAnswered_see, TellerProcess.isGivenUp_see,
      Nat.add_assoc]

/-! ## Whom a summary counts -/

/-- The roll of a batch whose tellers have just been started. -/
def start (map : TellerMap) (enrolled : Nat) : Roll :=
  ⟨map.map startedTeller, .blank enrolled⟩

/-- What the numbers of a roll say of its tellers after a history. -/
structure Tallied (r : Roll) (tellers : List TellerProcess) (history : History) : Prop where
  served : r.report.served = tellers.countP history.isAnswered
  abandoned : r.report.abandoned = tellers.countP history.isGivenUp
  /-- Together they count those that were answered or have ended, and once
  more those that were given up and answered nevertheless. -/
  total : r.report.served + r.report.abandoned =
    (tellers.countP fun t => history.isAnswered t || history.isGone t) +
      tellers.countP fun t => history.isAnswered t && history.isGivenUp t
  /-- The server waits until each was answered or has ended. -/
  settled : r.isAwaiting = false ↔
    ∀ t ∈ tellers, (history.isAnswered t || history.isGone t) = true

/-- Every teller is counted once: as served or as abandoned, as soon as it
was answered or has ended. -/
structure CountsOnce (r : Roll) (tellers : List TellerProcess) (history : History) : Prop where
  served : r.report.served = tellers.countP history.isAnswered
  abandoned : r.report.abandoned = tellers.countP history.isGivenUp
  apart : ∀ t ∈ tellers, (history.isAnswered t && history.isGivenUp t) = false
  total : r.report.served + r.report.abandoned =
    tellers.countP fun t => history.isAnswered t || history.isGone t
  atMost : r.report.served + r.report.abandoned ≤ tellers.length
  settled : r.isAwaiting = false → r.report.served + r.report.abandoned = tellers.length

theorem isDistinct_start {map : TellerMap} (hpids : (map.map Assignment.pid).Nodup)
    (enrolled : Nat) : (start map enrolled).IsDistinct := by
  have hsame : (map.map startedTeller).map TellerProcess.pid = map.map Assignment.pid := by
    rw [List.map_map]
    rfl
  rw [IsDistinct, start, hsame]
  exact hpids

/-- All tellers of a batch are awaited at first. -/
theorem isAwaiting_of_mem_started {map : TellerMap} {t : TellerProcess}
    (ht : t ∈ map.map startedTeller) : t.isAwaiting = true := by
  obtain ⟨a, _, rfl⟩ := List.mem_map.mp ht
  rfl

theorem countP_awaited {l : List TellerProcess} (h : ∀ t ∈ l, t.isAwaiting = true)
    (p : TellerProcess → Bool) : (l.countP fun t => t.isAwaiting && p t) = l.countP p :=
  List.countP_congr fun t ht => by rw [h t ht, Bool.true_and]

theorem isAwaiting_watch_eq_false {r : Roll} (h : r.IsDistinct)
    (hawaiting : ∀ t ∈ r.tellers, t.isAwaiting = true) (history : History) :
    (r.watch history).isAwaiting = false ↔
      ∀ t ∈ r.tellers, (history.isAnswered t || history.isGone t) = true := by
  rw [isAwaiting, tellers_watch h, List.any_map, List.any_eq_false]
  refine forall₂_congr fun t ht => ?_
  rw [Function.comp_apply, TellerProcess.isAwaiting_foldl_see, hawaiting t ht]
  cases history.isAnswered t <;> cases history.isGone t <;> simp

theorem tallied_watch {map : TellerMap} {history : History} {enrolled : Nat}
    (hpids : (map.map Assignment.pid).Nodup)
    (honce : (start map enrolled).AnsweredOnce history) :
    ((start map enrolled).watch history).Tallied (start map enrolled).tellers history := by
  have hdistinct := isDistinct_start hpids enrolled
  have hreport := report_watch hdistinct honce
  have hserved : ((start map enrolled).watch history).report.served =
      (start map enrolled).tellers.countP history.isAnswered := by
    rw [hreport]
    exact Nat.zero_add _
  have habandoned : ((start map enrolled).watch history).report.abandoned =
      (start map enrolled).tellers.countP history.isGivenUp := by
    rw [hreport]
    exact (Nat.zero_add _).trans (countP_awaited (fun t ht => isAwaiting_of_mem_started ht) _)
  refine ⟨hserved, habandoned, ?_,
    isAwaiting_watch_eq_false hdistinct (fun t ht => isAwaiting_of_mem_started ht) history⟩
  rw [hserved, habandoned, countP_add_countP]
  simp only [History.isAnswered_or_isGivenUp]

/-- When nobody was given up and answered nevertheless, all are counted
once. -/
theorem Tallied.countsOnce {r : Roll} {tellers : List TellerProcess} {history : History}
    (h : r.Tallied tellers history)
    (hapart : ∀ t ∈ tellers, (history.isAnswered t && history.isGivenUp t) = false) :
    r.CountsOnce tellers history := by
  have hnobody : (tellers.countP fun t => history.isAnswered t && history.isGivenUp t) = 0 :=
    List.countP_eq_zero.mpr fun t ht => by simp [hapart t ht]
  have htotal := h.total
  rw [hnobody, Nat.add_zero] at htotal
  refine ⟨h.served, h.abandoned, hapart, htotal, ?_, fun hsettled => ?_⟩
  · rw [htotal]
    exact List.countP_le_length
  · rw [htotal]
    exact List.countP_eq_length.mpr (h.settled.mp hsettled)

/-- **Whom the summary of a batch counts**, in whatever order its tellers
are answered and found to have ended. When no answer comes to a teller
whose end was noticed, each of them is counted once. -/
theorem watch_tallied {map : TellerMap} {history : History} {enrolled : Nat}
    (hpids : (map.map Assignment.pid).Nodup)
    (honce : (start map enrolled).AnsweredOnce history) :
    let r := (start map enrolled).watch history
    let tellers := (start map enrolled).tellers
    r.Tallied tellers history ∧
      ((∀ t ∈ tellers, history.Orderly t) → r.CountsOnce tellers history) := by
  intro r tellers
  have htallied : r.Tallied tellers history := tallied_watch hpids honce
  refine ⟨htallied, fun horderly => htallied.countsOnce fun t ht => ?_⟩
  rw [Bool.and_eq_false_imp]
  exact (horderly t ht).not_isGivenUp

/-- Three tellers of which one ends without a request, one is served and
ends, and one is answered last. Meanwhile a stranger is discarded. -/
theorem watch_tallied_three_tellers :
    let map : TellerMap := [⟨0, "N", 11⟩, ⟨1, "N", 12⟩, ⟨2, "BankID_1", 13⟩]
    let history : History :=
      [.ended fun pid => if pid = 12 then some (.exited 1) else none,
        .taken ⟨0, 11, some .success⟩, .taken ⟨7, 99, none⟩,
        .ended fun pid => if pid ≤ 12 then some (.exited 0) else none,
        .taken ⟨2, 13, some .failure⟩]
    let r := (start map 3).watch history
    let tellers := (start map 3).tellers
    (map.map Assignment.pid).Nodup ∧ (start map 3).AnsweredOnce history ∧
      (∀ t ∈ tellers, history.Orderly t) ∧ r.Tallied tellers history ∧
      r.CountsOnce tellers history := by
  intro map history r tellers
  have hpids : (map.map Assignment.pid).Nodup := by decide
  have honce : (start map 3).AnsweredOnce history := by decide
  have horderly : ∀ t ∈ tellers, history.Orderly t := by decide
  obtain ⟨htallied, honly⟩ := watch_tallied hpids honce
  exact ⟨hpids, honce, horderly, htallied, honly horderly⟩

/-- Of two tellers one hands over its payload just after the server has found
the slot empty, and is killed. So its end is noticed before the payload is
taken, and as the other teller is still awaited, the payload is taken and
answered. The first is counted both times: three for two tellers. -/
theorem watch_counts_twice :
    let map : TellerMap := [⟨0, "N", 11⟩, ⟨1, "N", 12⟩]
    let history : History :=
      [.ended fun pid => if pid = 11 then some (.signaled Child.killSignal) else none,
        .taken ⟨0, 11, some .success⟩, .taken ⟨1, 12, some .success⟩]
    let r := (start map 2).watch history
    (map.map Assignment.pid).Nodup ∧ (map.map Assignment.teller).Nodup ∧
      (start map 2).AnsweredOnce history ∧
      (∀ n < history.length, ((start map 2).watch (history.take n)).isAwaiting = true) ∧
      r.report = ⟨2, 2, 1, false, false⟩ ∧ ¬ r.CountsOnce (start map 2).tellers history := by
  intro map history r
  have hreport : r.report = ⟨2, 2, 1, false, false⟩ := by decide
  refine ⟨by decide, by decide, by decide, by decide, hreport, fun h => ?_⟩
  have hatMost := h.atMost
  rw [hreport] at hatMost
  exact absurd hatMost (by decide)

end Roll

end CountingHouse.Server
