/-
CountingHouse.Proofs.Teller.Submission — a request is answered or taken
back, never both and never neither.

While a teller submits its request, the server and the other tellers
visit the mailbox between any two of its own visits. The invariant
follows the request instead of the mailbox: it is away, it waits in the
slot, or the server has taken it (`Fate`), and the fate settles what the
slot, the answer of the teller and the replies to the server look like
(`Tracks`). The others can only have a waiting request taken. The teller
moves from stage to stage, and each stage allows some of the fates
(`Allows`); at the end these are just the ones the outcome tells of.
-/
import CountingHouse.Proofs.Mailbox.Basic
import CountingHouse.Proofs.Mailbox.Visits
import CountingHouse.Teller

namespace CountingHouse

open Mailbox

variable {σ : Type}

/-! ## What the others do -/

/-- A request of the server or of another teller, while the batch lasts.
A handler makes up its mind or discards what it is given. -/
def Mailbox.Request.IsForeign (teller : UInt32) : Request σ → Prop
  | .beginBatch _ => False
  | .post e => e.teller ≠ teller
  | .take handler => ∀ e s, ∀ r ∈ (handler e s).1, r.isFinal = true
  | .retract other _ => other ≠ teller
  | .look _ => True

/-- Does a reply say that a payload of this teller was taken, or that a
handler was called with one? -/
def Mailbox.Reply.concerns (teller : UInt32) : Reply → Bool
  | .taken receipt calls =>
    receipt.any (·.teller = teller) || calls.any (·.envelope.teller = teller)
  | _ => false

namespace Teller

/-! ## Submissions among other visits -/

/-- What happens next while a teller submits a request. -/
inductive Move (σ : Type) where
  /-- The teller visits the mailbox. The flag tells whether its deadline
  has passed. -/
  | own (expired : Bool)
  /-- Somebody else does. -/
  | other (request : Request σ)

/-- A submission, the mailbox, the state of the handlers, and the replies
to the others, oldest first. -/
structure World (σ : Type) where
  stage : Stage
  mailbox : Mailbox
  state : σ
  replies : List Reply

namespace World

/-- The teller has its request and has not posted it. -/
def start (m : Mailbox) (s : σ) : World σ :=
  ⟨.posting, m, s, []⟩

/-- One visit to the mailbox. -/
def move (e : Envelope) (w : World σ) : Move σ → World σ
  | .own expired =>
    let (stage, mailbox) := step e expired w.stage w.mailbox
    { w with stage, mailbox }
  | .other request =>
    let (reply, mailbox, state) := w.mailbox.serve w.state request
    { w with mailbox, state, replies := w.replies ++ [reply] }

def moves (e : Envelope) (w : World σ) (ms : List (Move σ)) : World σ :=
  ms.foldl (move e) w

end World

/-! ## The fate of a request -/

/-- What has become of a request. -/
inductive Fate where
  /-- It is not in the slot and has not been taken. -/
  | away
  /-- It lies in the slot. -/
  | waiting
  /-- The server has taken it, and answered it or discarded it. -/
  | taken (answer : Option Response)

namespace Fate

def answer : Fate → Option Response
  | taken answer => answer
  | _ => none

/-- The replies that tell of the request. -/
def replies (e : Envelope) : Fate → List Reply
  | taken answer => [.taken (some ⟨e.teller, e.pid, answer⟩) [⟨e, answer⟩]]
  | _ => []

/-- What the slot holds of the teller: the request while it waits, and
nothing else. -/
def InSlot (e : Envelope) (slot : Option Posted) : Fate → Prop
  | waiting => slot = some e.posted
  | _ => ∀ p ∈ slot, p.teller ≠ e.teller

end Fate

/-- The mailbox and the replies to the others are as the fate of the
request has it. -/
structure Tracks (e : Envelope) (m : Mailbox) (replies : List Reply) (f : Fate) : Prop where
  active : e.teller.toNat < m.active
  capacity : m.active ≤ m.capacity
  slot : f.InSlot e m.slot
  response : m.response e.teller = .ok (f.answer.getD .pending)
  final : ∀ r ∈ f.answer, r.isFinal = true
  replies : replies.filter (·.concerns e.teller) = f.replies e

/-- The fates a request may have at a stage. -/
def Stage.Allows (e : Envelope) : Stage → Fate → Prop
  | .posting, f => f = .away
  | .awaiting, f => f ≠ .away
  | .withdrawing, _ => True
  | .finished outcome, f =>
    (∃ v, outcome = .ok v ∧ f = .taken (some v)) ∨
    (outcome = .error (.timeout e.teller) ∧ (f = .away ∨ f = .taken none))

/-! ## A visit of somebody else -/

section
variable {e : Envelope} {m : Mailbox} {replies : List Reply} {f : Fate}

/-- A visit that concerns others changes nothing of the request. -/
theorem Tracks.frame (h : Tracks e m replies f) {m' : Mailbox} {reply : Reply}
    (hactive : m'.active = m.active) (hcapacity : m'.capacity = m.capacity)
    (hslot : f.InSlot e m'.slot) (hresponse : m'.response e.teller = m.response e.teller)
    (hreply : reply.concerns e.teller = false) : Tracks e m' (replies ++ [reply]) f where
  active := hactive ▸ h.active
  capacity := by rw [hactive, hcapacity]; exact h.capacity
  slot := hslot
  response := hresponse.trans h.response
  final := h.final
  replies := by
    rw [List.filter_append, h.replies, List.filter_cons, hreply]
    exact List.append_nil _

theorem Fate.inSlot_of_ne {p : Posted} (hslot : f.InSlot e (some p)) (hne : p.teller ≠ e.teller)
    {slot : Option Posted} (hforeign : ∀ q ∈ slot, q.teller ≠ e.teller) : f.InSlot e slot := by
  cases f with
  | waiting => cases hslot; exact absurd rfl hne
  | away => exact hforeign
  | taken answer => exact hforeign

/-- Either the slot holds the waiting request, or a payload in it is of
another teller. -/
theorem Fate.InSlot.cases {p : Posted} (hslot : f.InSlot e (some p)) :
    (f = .waiting ∧ p = e.posted) ∨ p.teller ≠ e.teller := by
  cases f with
  | waiting => cases hslot; exact .inl ⟨rfl, rfl⟩
  | away => exact .inr (hslot p rfl)
  | taken answer => exact .inr (hslot p rfl)

theorem Tracks.other_post (h : Tracks e m replies f) (s : σ) {e' : Envelope}
    (hne : e'.teller ≠ e.teller) :
    Tracks e (m.serve s (.post e')).2.1 (replies ++ [(m.serve s (.post e')).1]) f := by
  rw [Mailbox.serve]
  cases hslot : m.slot with
  | some p =>
    simp only [tryPost_of_some hslot]
    exact h.frame rfl rfl h.slot rfl rfl
  | none =>
    have hempty := h.slot
    rw [hslot] at hempty
    simp only [tryPost_of_none hslot]
    refine h.frame rfl rfl ?_ rfl rfl
    have hforeign : ∀ q ∈ some e'.posted, q.teller ≠ e.teller := by
      intro q hq
      cases hq
      exact hne
    cases f with
    | waiting => cases hempty
    | away => exact hforeign
    | taken answer => exact hforeign

theorem Tracks.other_retract (h : Tracks e m replies f) (s : σ) {teller : UInt32} (pid : Int32)
    (hne : teller ≠ e.teller) :
    Tracks e (m.serve s (.retract teller pid)).2.1
      (replies ++ [(m.serve s (.retract teller pid)).1]) f := by
  rw [Mailbox.serve]
  rcases m.retract_cases teller pid with ⟨p, hslot, rfl, rfl, hretract⟩ | ⟨_, hretract⟩
  · have hpayload := h.slot
    rw [hslot] at hpayload
    simp only [hretract]
    exact h.frame rfl rfl (Fate.inSlot_of_ne hpayload hne nofun) rfl rfl
  · simp only [hretract]
    exact h.frame rfl rfl h.slot rfl rfl

/-- A handler is called with nothing but what is in the slot. -/
theorem teller_of_mem_calls {p : Posted} {handler : Handler σ} {s : σ} {c : Call}
    (h : c ∈ (handle p (journaled handler) (s, [])).2.2) : c.envelope.teller = p.teller := by
  rw [handle] at h
  split at h
  · rw [List.mem_singleton.mp h]
  · exact absurd h List.not_mem_nil

/-- A waiting request that is taken has its answer from then on. -/
theorem Tracks.answered (h : Tracks e m replies .waiting) {answer : Option Response}
    (hfinal : ∀ r ∈ answer, r.isFinal = true) :
    Tracks e ((m.conclude e.teller answer).leave none)
      (replies ++ [.taken (some ⟨e.teller, e.pid, answer⟩) [⟨e, answer⟩]]) (.taken answer) where
  active := by simpa using h.active
  capacity := by simpa using h.capacity
  slot := nofun
  response := by
    rw [response_leave]
    cases answer with
    | none => exact h.response
    | some r => exact response_publish_self (Nat.lt_of_lt_of_le h.active h.capacity) h.active r
  final := hfinal
  replies := by
    rw [List.filter_append, h.replies]
    simp [Fate.replies, Reply.concerns]

/-- Taking a payload can end the waiting of this request, or it concerns
others. -/
theorem Tracks.other_take (h : Tracks e m replies f) (s : σ) {handler : Handler σ}
    (hfinal : ∀ e s, ∀ r ∈ (handler e s).1, r.isFinal = true) :
    ∃ f', Tracks e (m.serve s (.take handler)).2.1
        (replies ++ [(m.serve s (.take handler)).1]) f' ∧
      (f' = f ∨ f = .waiting ∧ ∃ answer, f' = .taken answer) := by
  rw [Mailbox.serve]
  cases hslot : m.slot with
  | none =>
    simp only [tryTake_of_none (journaled handler) (s, []) hslot]
    exact ⟨f, h.frame rfl rfl h.slot rfl rfl, .inl rfl⟩
  | some p =>
    have hpayload := h.slot
    rw [hslot] at hpayload
    rcases hpayload.cases with ⟨rfl, rfl⟩ | hne
    · refine ⟨.taken (handler e s).1, ?_, .inr ⟨rfl, _, rfl⟩⟩
      simp only [tryTake_of_posted (journaled handler) (s, []) hslot, journaled, List.nil_append]
      exact h.answered (hfinal e s)
    · -- the answer goes to the other teller, if there is one at all
      simp only [tryTake_of_some (journaled handler) (s, []) hslot]
      refine ⟨f, h.frame (by simp) (by simp) ?_ ?_ ?_, .inl rfl⟩
      · exact Fate.inSlot_of_ne hpayload hne nofun
      · rw [response_leave, m.response_conclude_of_ne hne]
      · have hcalls : (handle p (journaled handler) (s, [])).2.2.any
            (·.envelope.teller = e.teller) = false := by
          rw [List.any_eq_false]
          intro c hc
          rw [teller_of_mem_calls hc]
          simpa using hne
        simp [Reply.concerns, hcalls, hne]

/-- **A visit of somebody else** leaves the request as it is, or takes it
while it waits. -/
theorem Tracks.other (h : Tracks e m replies f) (s : σ) {request : Request σ}
    (hforeign : request.IsForeign e.teller) :
    ∃ f', Tracks e (m.serve s request).2.1 (replies ++ [(m.serve s request).1]) f' ∧
      (f' = f ∨ f = .waiting ∧ ∃ answer, f' = .taken answer) := by
  cases request with
  | beginBatch tellers => exact hforeign.elim
  | post e' => exact ⟨f, h.other_post s hforeign, .inl rfl⟩
  | take handler => exact h.other_take s hforeign
  | retract teller pid => exact ⟨f, h.other_retract s pid hforeign, .inl rfl⟩
  | look teller => exact ⟨f, h.frame rfl rfl h.slot rfl rfl, .inl rfl⟩

theorem Stage.Allows.other {stage : Stage} {f' : Fate} (h : stage.Allows e f)
    (hf : f' = f ∨ f = .waiting ∧ ∃ answer, f' = .taken answer) : stage.Allows e f' := by
  rcases hf with rfl | ⟨rfl, answer, rfl⟩
  · exact h
  · cases stage with
    | posting => cases h
    | awaiting => exact nofun
    | withdrawing => trivial
    | finished outcome => rcases h with ⟨v, _, h⟩ | ⟨_, h | h⟩ <;> cases h

/-! ## A visit of the teller -/

theorem Tracks.finalResponse_eq (h : Tracks e m replies f) :
    m.finalResponse e.teller = .ok f.answer := by
  rw [finalResponse_of_response h.response]
  cases hanswer : f.answer with
  | none => rfl
  | some r =>
    have hfinal := h.final r hanswer
    simp [hfinal]

/-- A teller that takes its request back looks at its answer when it has
left the critical section. It may do so as late as it likes: once the
request does not wait any more, nobody else can change the answer. -/
theorem Tracks.finalResponse_run (h : Tracks e m replies f) (hf : f ≠ .waiting) (s : σ)
    {requests : List (Request σ)} (hforeign : ∀ r ∈ requests, r.IsForeign e.teller) :
    (m.run s requests).2.1.finalResponse e.teller = m.finalResponse e.teller := by
  induction requests generalizing m replies s with
  | nil => rfl
  | cons request rest ih =>
    obtain ⟨f', htracks, hcases⟩ := h.other s (hforeign request List.mem_cons_self)
    obtain rfl : f' = f := hcases.resolve_right fun hwaiting => hf hwaiting.1
    have hrest := ih htracks (m.serve s request).2.2 fun r hr =>
      hforeign r (List.mem_cons_of_mem request hr)
    rw [run_cons]
    exact hrest.trans (htracks.finalResponse_eq.trans h.finalResponse_eq.symm)

theorem Tracks.enter (h : Tracks e m replies f) : Tracks e m.enter replies f :=
  ⟨h.active, h.capacity, h.slot, h.response, h.final, h.replies⟩

theorem Tracks.own_posting (h : Tracks e m replies .away) (expired : Bool) :
    ∃ f, Tracks e (step e expired .posting m).2 replies f ∧
      (step e expired .posting m).1.Allows e f := by
  cases hslot : m.slot with
  | none =>
    refine ⟨.waiting, ?_, ?_⟩
    · simp only [step, tryPost_of_none hslot]
      exact ⟨h.active, h.capacity, rfl, h.response, nofun, h.replies⟩
    · simp only [step, tryPost_of_none hslot]
      exact nofun
  | some p =>
    refine ⟨.away, ?_, ?_⟩
    · simp only [step, tryPost_of_some hslot]
      exact h.enter
    · simp only [step, tryPost_of_some hslot]
      cases expired with
      | true => trivial
      | false => rfl

theorem Tracks.own_awaiting (h : Tracks e m replies f) (haway : f ≠ .away) (expired : Bool) :
    Tracks e (step e expired .awaiting m).2 replies f ∧
      (step e expired .awaiting m).1.Allows e f := by
  simp only [step, h.finalResponse_eq]
  cases hanswer : f.answer with
  | none =>
    refine ⟨h, ?_⟩
    cases expired with
    | true => trivial
    | false => exact haway
  | some v =>
    refine ⟨h, .inl ⟨v, rfl, ?_⟩⟩
    cases f with
    | taken answer => exact congrArg Fate.taken hanswer
    | away => cases hanswer
    | waiting => cases hanswer

theorem Tracks.own_withdrawing (h : Tracks e m replies f) (expired : Bool) :
    ∃ f', Tracks e (step e expired .withdrawing m).2 replies f' ∧
      (step e expired .withdrawing m).1.Allows e f' := by
  have hpayload := h.slot
  rcases m.retract_cases e.teller e.pid with ⟨p, hslot, hteller, hpid, hretract⟩ | ⟨hslot, hretract⟩
  · rw [hslot] at hpayload
    rcases hpayload.cases with ⟨rfl, rfl⟩ | hne
    · -- it still waits, and is removed
      simp only [step, hretract]
      exact ⟨.away, ⟨h.active, h.capacity, nofun, h.response, nofun, h.replies⟩,
        .inr ⟨rfl, .inl rfl⟩⟩
    · exact absurd hteller hne
  · -- it was not posted, or it was taken, and then the answer tells
    refine ⟨f, ?_⟩
    simp only [step, hretract, h.finalResponse_eq, Except.map]
    cases f with
    | waiting => exact absurd rfl (hslot e.posted hpayload rfl)
    | away => exact ⟨h.enter, .inr ⟨rfl, .inl rfl⟩⟩
    | taken answer =>
      cases answer with
      | none => exact ⟨h.enter, .inr ⟨rfl, .inr rfl⟩⟩
      | some v => exact ⟨h.enter, .inl ⟨v, rfl, rfl⟩⟩

/-- **A visit of the teller** leads to a stage that allows what has become
of the request. -/
theorem Tracks.own (h : Tracks e m replies f) {stage : Stage} (hstage : stage.Allows e f)
    (expired : Bool) :
    ∃ f', Tracks e (step e expired stage m).2 replies f' ∧
      (step e expired stage m).1.Allows e f' := by
  cases stage with
  | posting =>
    obtain rfl : f = .away := hstage
    exact h.own_posting expired
  | awaiting => exact ⟨f, h.own_awaiting hstage expired⟩
  | withdrawing => exact h.own_withdrawing expired
  | finished outcome => exact ⟨f, h, hstage⟩

end

/-! ## Whole submissions -/

/-- What others do in a move is foreign to the teller. -/
def Move.IsForeign (teller : UInt32) : Move σ → Prop
  | .own _ => True
  | .other request => request.IsForeign teller

/-- Does the teller come to the mailbox after its deadline? -/
def Move.isLate : Move σ → Bool
  | .own expired => expired
  | .other _ => false

/-- How many visits after the deadline a submission can still make. -/
def Stage.remaining : Stage → Nat
  | .posting => 3
  | .awaiting => 2
  | .withdrawing => 1
  | .finished _ => 0

theorem remaining_step (e : Envelope) (expired : Bool) (stage : Stage) (m : Mailbox) :
    (step e expired stage m).1.remaining + expired.toNat ≤ stage.remaining ∨
      stage.remaining = 0 ∧ (step e expired stage m).1.remaining = 0 := by
  cases stage with
  | posting =>
    refine .inl ?_
    rw [step]
    cases hpost : m.tryPost e with
    | mk accepted m' => cases accepted <;> cases expired <;> simp [Stage.remaining]
  | awaiting =>
    refine .inl ?_
    rw [step]
    cases m.finalResponse e.teller with
    | error error => cases expired <;> simp [Stage.remaining]
    | ok answer => cases answer <;> cases expired <;> simp [Stage.remaining]
  | withdrawing =>
    refine .inl ?_
    have hfinished : ∃ outcome, (step e expired .withdrawing m).1 = .finished outcome := by
      simp only [step]
      split <;> exact ⟨_, rfl⟩
    obtain ⟨outcome, h⟩ := hfinished
    rw [h]
    cases expired <;> simp [Stage.remaining]
  | finished outcome => exact .inr ⟨rfl, rfl⟩

namespace World

/-- The request has a fate that the stage allows. -/
def Fits (e : Envelope) (w : World σ) : Prop :=
  ∃ f, Tracks e w.mailbox w.replies f ∧ w.stage.Allows e f

theorem Fits.move {e : Envelope} {w : World σ} (h : w.Fits e) {next : Move σ}
    (hforeign : next.IsForeign e.teller) : (w.move e next).Fits e := by
  obtain ⟨f, htracks, hallows⟩ := h
  cases next with
  | own expired => exact htracks.own hallows expired
  | other request =>
    obtain ⟨f', htracks', hf⟩ := htracks.other w.state hforeign
    exact ⟨f', htracks', hallows.other hf⟩

theorem Fits.moves {e : Envelope} {w : World σ} (h : w.Fits e) {ms : List (Move σ)}
    (hforeign : ∀ next ∈ ms, next.IsForeign e.teller) : (w.moves e ms).Fits e := by
  induction ms generalizing w with
  | nil => exact h
  | cons next ms ih =>
    exact ih (h.move (hforeign next List.mem_cons_self))
      fun other hother => hforeign other (List.mem_cons_of_mem next hother)

theorem remaining_moves (e : Envelope) (w : World σ) (ms : List (Move σ)) :
    (w.moves e ms).stage.remaining ≤ w.stage.remaining - ms.countP Move.isLate := by
  induction ms generalizing w with
  | nil => exact Nat.le_refl _
  | cons next ms ih =>
    have hrest := ih (w.move e next)
    rw [moves, List.foldl_cons, ← moves, List.countP_cons]
    cases next with
    | own expired =>
      have hstep : (w.move e (.own expired)).stage = (step e expired w.stage w.mailbox).1 := rfl
      have := remaining_step e expired w.stage w.mailbox
      rw [hstep] at hrest
      cases expired <;> simp [Move.isLate] at * <;> omega
    | other request => exact hrest

/-- What an outcome says of the request has happened to it, and nothing of
it is left in the slot. With an answer, the request was taken once, and
the handler gave this answer. With a timeout, the request was not taken
at all, or once and then discarded. -/
def BearsOut (e : Envelope) (w : World σ) (outcome : Except TellerError Response) : Prop :=
  (∀ p ∈ w.mailbox.slot, p.teller ≠ e.teller) ∧
  ((∃ v, outcome = .ok v ∧ v.isFinal = true ∧
      w.replies.filter (·.concerns e.teller) =
        [.taken (some ⟨e.teller, e.pid, some v⟩) [⟨e, some v⟩]]) ∨
    (outcome = .error (.timeout e.teller) ∧ w.mailbox.response e.teller = .ok .pending ∧
      (w.replies.filter (·.concerns e.teller) = [] ∨
        w.replies.filter (·.concerns e.teller) =
          [.taken (some ⟨e.teller, e.pid, none⟩) [⟨e, none⟩]])))

theorem Fits.bearsOut {e : Envelope} {w : World σ} (h : w.Fits e)
    {outcome : Except TellerError Response} (hstage : w.stage = .finished outcome) :
    w.BearsOut e outcome := by
  obtain ⟨f, htracks, hallows⟩ := h
  rw [hstage] at hallows
  rcases hallows with ⟨v, rfl, rfl⟩ | ⟨rfl, rfl | rfl⟩
  · exact ⟨htracks.slot, .inl ⟨v, rfl, htracks.final v rfl, htracks.replies⟩⟩
  · exact ⟨htracks.slot, .inr ⟨rfl, htracks.response, .inl htracks.replies⟩⟩
  · exact ⟨htracks.slot, .inr ⟨rfl, htracks.response, .inr htracks.replies⟩⟩

end World

/-- **A request is answered or taken back.** Whatever the server and the
other tellers do between the visits of a teller, a submission that is
finished has the outcome that the request has had, and it is finished
after three visits past its deadline at the latest. -/
theorem moves_answered_or_withdrawn {e : Envelope} {m : Mailbox}
    (hactive : e.teller.toNat < m.active) (hcapacity : m.active ≤ m.capacity)
    (hpending : m.response e.teller = .ok .pending) (hslot : ∀ p ∈ m.slot, p.teller ≠ e.teller)
    (s : σ) {ms : List (Move σ)} (hforeign : ∀ next ∈ ms, next.IsForeign e.teller) :
    (∀ outcome, ((World.start m s).moves e ms).stage = .finished outcome →
      ((World.start m s).moves e ms).BearsOut e outcome) ∧
    (3 ≤ ms.countP Move.isLate →
      ∃ outcome, ((World.start m s).moves e ms).stage = .finished outcome) := by
  have hstart : (World.start m s).Fits e :=
    ⟨.away, ⟨hactive, hcapacity, hslot, hpending, nofun, rfl⟩, rfl⟩
  refine ⟨fun outcome => (hstart.moves hforeign).bearsOut, fun hlate => ?_⟩
  have hremaining := World.remaining_moves e (World.start m s) ms
  have hstages : (World.start m s).stage.remaining = 3 := rfl
  cases hstage : ((World.start m s).moves e ms).stage with
  | finished outcome => exact ⟨outcome, rfl⟩
  | posting => rw [hstage, hstages] at hremaining; simp [Stage.remaining] at hremaining; omega
  | awaiting => rw [hstage, hstages] at hremaining; simp [Stage.remaining] at hremaining; omega
  | withdrawing => rw [hstage, hstages] at hremaining; simp [Stage.remaining] at hremaining; omega

/-- A teller that finds the slot full, posts later, and sees its answer only
after its deadline. -/
theorem moves_answered_or_withdrawn_late_answer :
    let id : BankId := ⟨"N", by decide⟩
    let e : Envelope := ⟨1, 12, ⟨id, .withdraw, 7⟩⟩
    let m := ((Mailbox.ofCapacity 2).beginBatch 2).2
    let answering : Handler Nat := fun _ n => (some .success, n + 1)
    let ms : List (Move Nat) :=
      [.other (.post ⟨0, 11, ⟨id, .deposit, 5⟩⟩), .own false, .other (.take answering), .own false,
        .own true, .other (.take answering), .own true]
    (e.teller.toNat < m.active ∧ m.active ≤ m.capacity ∧
      m.response e.teller = .ok .pending ∧ (∀ p ∈ m.slot, p.teller ≠ e.teller) ∧
      ∀ next ∈ ms, next.IsForeign e.teller) ∧
    (∀ outcome, ((World.start m 0).moves e ms).stage = .finished outcome →
      ((World.start m 0).moves e ms).BearsOut e outcome) ∧
    (3 ≤ ms.countP Move.isLate →
      ∃ outcome, ((World.start m 0).moves e ms).stage = .finished outcome) := by
  intro id e m answering ms
  have hactive : e.teller.toNat < m.active := by decide
  have hcapacity : m.active ≤ m.capacity := by decide
  have hpending : m.response e.teller = .ok .pending := rfl
  have hslot : ∀ p ∈ m.slot, p.teller ≠ e.teller := nofun
  have hforeign : ∀ next ∈ ms, next.IsForeign e.teller := by
    have hfinal : Request.IsForeign e.teller (.take answering) := by
      rintro e s r ⟨⟩
      rfl
    have hne : (0 : UInt32) ≠ 1 := by decide
    simp only [ms, List.forall_mem_cons]
    exact ⟨hne, trivial, hfinal, trivial, trivial, hfinal, trivial, nofun⟩
  exact ⟨⟨hactive, hcapacity, hpending, hslot, hforeign⟩,
    moves_answered_or_withdrawn hactive hcapacity hpending hslot 0 hforeign⟩

end Teller

end CountingHouse
