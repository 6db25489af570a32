/-
CountingHouse.Proofs.Teller.Serving — a client hears what became of its
request.

Three things can go wrong independently: the request cannot be read, the
server does not answer, and the client does not hear. They are told apart
where they happen. What a client asks for is a property of the bytes that
it sends (`Asks`), and a teller without such a request does nothing. A
submission comes to an end whatever the others do (`submitAmong_spec`),
and the end fixes what the server has done with the request
(`World.Fits.ended`). How much of the line is heard depends on the channel
alone (`relay_answer`, `relay_timeout`), and nothing the channel does
reaches back to the mailbox.
-/
import CountingHouse.Proofs.Stream
import CountingHouse.Proofs.Teller.Relay
import CountingHouse.Proofs.Teller.Submission

namespace CountingHouse.Teller

open Mailbox

/-! ## What a client asks for -/

/-- The client asks for a transaction: its first line is a text, and this
text without the blanks around it is the transaction as JSON. -/
def Asks (source : Source) (t : Transaction) : Prop :=
  ∃ text, source.FirstLine (Text.encode text) ∧ Message.decode? (Text.trim text) = some t

/-- **A teller reads what its client asks for**, and reads nothing else. -/
theorem readRequest_eq_ok_iff {source : Source} {t : Transaction} :
    readRequest source = .ok t ↔ Asks source t := by
  constructor
  · intro h
    rw [readRequest] at h
    split at h
    · cases h
    · cases h
    · next text hline =>
      split at h
      · next transaction hdecode =>
        cases h
        exact ⟨text, (Source.readLine_eq_ok_iff.mp hline).1, hdecode⟩
      · cases h
  · rintro ⟨text, hfirst, hdecode⟩
    have hne : text ≠ [] := by
      rintro rfl
      have hempty : Message.decode? (Text.trim []) = (none : Option Transaction) := rfl
      rw [hempty] at hdecode
      cases hdecode
    rw [readRequest, Source.readLine_eq_ok_iff.mpr ⟨hfirst, hne⟩]
    simp only [hdecode]

variable {σ : Type}

/-! ## Submissions that come to an end -/

/-- A submission among other visits. The deadline passes in the end, if not
before, and then the teller needs no more than three visits. -/
def submitAmong (ms : List (Move σ)) (e : Envelope) (w : World σ) :
    Except TellerError Response × World σ :=
  let w := w.moves e (ms ++ List.replicate 3 (.own true))
  (w.stage.outcome e, w)

/-- The deadline may have passed when the submission begins, and nobody else
may come. -/
theorem submitExpired_eq (e : Envelope) (m : Mailbox) (s : σ) :
    submitExpired e m =
      ((submitAmong [] e (World.start m s)).1, (submitAmong [] e (World.start m s)).2.mailbox) :=
  rfl

/-- The server may take one payload, once the request is posted. -/
theorem submitServed_eq (handler : Handler σ) (e : Envelope) (m : Mailbox) (s : σ) :
    let served := submitAmong [.own false, .other (.take handler), .own false] e (World.start m s)
    submitServed handler e (m, s) = (served.1, served.2.mailbox, served.2.state) := by
  have htake : ∀ m : Mailbox, (m.serve s (.take handler)).2 = (m.tryTake handler s).2 := by
    intro m
    obtain ⟨-, hmailbox, hstate⟩ := m.tryTake_journaled handler s []
    exact Prod.ext hmailbox hstate
  simp only [submitServed, submitAmong, World.moves, World.move, World.start, settle,
    List.cons_append, List.nil_append, List.replicate, List.foldl_cons, List.foldl_nil, htake]

namespace World

/-- The server took the request once and gave this answer. -/
def Answered (e : Envelope) (w : World σ) (v : Response) : Prop :=
  w.replies.filter (·.concerns e.teller) = [.taken (some ⟨e.teller, e.pid, some v⟩) [⟨e, some v⟩]]

/-- The server never saw the request, or took it once and discarded it. -/
def Unanswered (e : Envelope) (w : World σ) : Prop :=
  w.replies.filter (·.concerns e.teller) = [] ∨
    w.replies.filter (·.concerns e.teller) = [.taken (some ⟨e.teller, e.pid, none⟩) [⟨e, none⟩]]

theorem Answered.unique {e : Envelope} {w : World σ} {v v' : Response} (h : w.Answered e v)
    (h' : w.Answered e v') : v = v' := by
  rw [Answered, h] at h'
  cases h'
  rfl

theorem Answered.not_unanswered {e : Envelope} {w : World σ} {v : Response} (h : w.Answered e v) :
    ¬ w.Unanswered e := by
  rintro (hnone | hnone) <;> rw [h] at hnone <;> cases hnone

/-- The ends of a submission: the answer of the server, which stands in the
mailbox, or a timeout, and then there is no answer. -/
theorem Fits.ended {e : Envelope} {w : World σ} (h : w.Fits e)
    {outcome : Except TellerError Response} (hstage : w.stage = .finished outcome) :
    (∀ p ∈ w.mailbox.slot, p.teller ≠ e.teller) ∧
    ((∃ v, outcome = .ok v ∧ v.isFinal = true ∧ w.Answered e v ∧
        w.mailbox.response e.teller = .ok v) ∨
      (outcome = .error (.timeout e.teller) ∧ w.Unanswered e ∧
        w.mailbox.response e.teller = .ok .pending)) := by
  obtain ⟨f, htracks, hallows⟩ := h
  rw [hstage] at hallows
  rcases hallows with ⟨v, rfl, rfl⟩ | ⟨rfl, rfl | rfl⟩
  · exact ⟨htracks.slot, .inl ⟨v, rfl, htracks.final v rfl, htracks.replies, htracks.response⟩⟩
  · exact ⟨htracks.slot, .inr ⟨rfl, .inl htracks.replies, htracks.response⟩⟩
  · exact ⟨htracks.slot, .inr ⟨rfl, .inr htracks.replies, htracks.response⟩⟩

end World

theorem exists_outcome_of_remaining {stage : Stage} (h : stage.remaining = 0) :
    ∃ outcome, stage = .finished outcome := by
  cases stage with
  | finished outcome => exact ⟨outcome, rfl⟩
  | posting => cases h
  | awaiting => cases h
  | withdrawing => cases h

/-- **A submission comes to an end**, and the end is what became of the
request. -/
theorem submitAmong_spec {e : Envelope} {w : World σ} (h : w.Fits e) {ms : List (Move σ)}
    (hforeign : ∀ next ∈ ms, next.IsForeign e.teller) :
    (submitAmong ms e w).2.Fits e ∧
      (submitAmong ms e w).2.stage = .finished (submitAmong ms e w).1 := by
  have hmoves : ∀ next ∈ ms ++ List.replicate 3 (.own true), next.IsForeign e.teller := by
    intro next hnext
    rcases List.mem_append.mp hnext with hnext | hnext
    · exact hforeign next hnext
    · rw [List.eq_of_mem_replicate hnext]
      trivial
  have hremaining := World.remaining_moves e w (ms ++ List.replicate 3 (.own true))
  have hlate : 3 ≤ (ms ++ List.replicate 3 (Move.own (σ := σ) true)).countP Move.isLate := by
    rw [List.countP_append]
    exact Nat.le_add_left 3 _
  have hstages : w.stage.remaining ≤ 3 := by
    cases w.stage <;> simp [Stage.remaining]
  have hdone : (w.moves e (ms ++ List.replicate 3 (.own true))).stage.remaining = 0 := by omega
  obtain ⟨outcome, hstage⟩ := exists_outcome_of_remaining hdone
  refine ⟨h.moves hmoves, ?_⟩
  rw [submitAmong]
  simp only [hstage, Stage.outcome]

/-! ## Serving a client -/

/-- What a teller leaves behind that got a request: what its client has
heard and the exit code it ends with are what became of the request. -/
structure TellsTruth (e : Envelope) (before after : Sink) (result : Except TellerError Response)
    (w : World σ) : Prop where
  /-- The client hears one line, as far as its channel accepts it: the
  answer of the server, or failure when there is none. -/
  heard : ∃ r : Response, r ≠ .pending ∧
    (w.Answered e r ∨ r = .failure ∧ w.Unanswered e) ∧
    after.taken = before.taken ++ before.accepted (Channels.line r)
  /-- The teller ends well when the server has answered, the client has
  heard the whole line, and the channel could be flushed. -/
  served : exitCode result = 0 ↔ ∃ v, w.Answered e v ∧
    after.taken = before.taken ++ Channels.line v ∧ before.flushFault = none
  failed : exitCode result ≠ 0 → exitCode result = 1
  /-- Nothing of the teller is left in the slot. -/
  slot : ∀ p ∈ w.mailbox.slot, p.teller ≠ e.teller
  /-- An answer stands in the mailbox, whether or not it was delivered. -/
  answered : ∀ v, w.Answered e v → w.mailbox.response e.teller = .ok v
  unanswered : w.Unanswered e → w.mailbox.response e.teller = .ok .pending

theorem exitCode_cases (result : Except TellerError Response) :
    exitCode result = 0 ∨ exitCode result = 1 := by
  cases result with
  | ok v => exact .inl rfl
  | error e => exact .inr rfl

/-- The truth is told of a submission that came to an end. -/
theorem tellsTruth_relay {e : Envelope} {w : World σ} (h : w.Fits e)
    {outcome : Except TellerError Response} (hstage : w.stage = .finished outcome) (sink : Sink) :
    TellsTruth e sink (relay sink outcome).2 (relay sink outcome).1 w := by
  obtain ⟨hslot, ⟨v, rfl, hfinal, hanswered, hresponse⟩ | ⟨rfl, hunanswered, hresponse⟩⟩ :=
    h.ended hstage
  · obtain ⟨htaken, hcode⟩ := relay_answer sink v
    exact
      { heard := ⟨v, (by rintro rfl; cases hfinal), .inl hanswered, htaken⟩
        served := by
          rw [hcode]
          constructor
          · rintro ⟨hwhole, hflush⟩
            exact ⟨v, hanswered, by rw [htaken, hwhole], hflush⟩
          · rintro ⟨v', hanswered', htaken', hflush⟩
            obtain rfl := hanswered.unique hanswered'
            exact ⟨List.append_cancel_left (htaken.symm.trans htaken'), hflush⟩
        failed := (exitCode_cases _).resolve_left
        slot := hslot
        answered := fun v' hv' => hanswered.unique hv' ▸ hresponse
        unanswered := fun hnone => absurd hnone hanswered.not_unanswered }
  · obtain ⟨htaken, hcode⟩ := relay_timeout sink e.teller
    exact
      { heard := ⟨.failure, nofun, .inr ⟨rfl, hunanswered⟩, htaken⟩
        served := by
          rw [hcode]
          exact ⟨nofun, fun ⟨v, hv, _⟩ => absurd hunanswered hv.not_unanswered⟩
        failed := fun _ => hcode
        slot := hslot
        answered := fun v hv => absurd hunanswered hv.not_unanswered
        unanswered := fun _ => hresponse }

section
variable {teller : UInt32} {pid : Int32} {source : Source} {sink : Sink}
  {submit : Envelope → σ → Except TellerError Response × σ} {s : σ}

theorem serve_of_error {error : TellerError} (h : readRequest source = .error error) :
    serve teller pid source sink submit s = (.error error, sink, s) := by
  rw [serve, h]

theorem serve_of_ok {t : Transaction} (h : readRequest source = .ok t) :
    serve teller pid source sink submit s =
      ((relay sink (submit ⟨teller, pid, t⟩ s).1).1, (relay sink (submit ⟨teller, pid, t⟩ s).1).2,
        (submit ⟨teller, pid, t⟩ s).2) := by
  rw [serve, h]

end

/-- **A teller tells the truth.** A client that asks for nothing hears
nothing, and its teller leaves the mailbox alone. The submission of a
client that asks for something goes on as it would with any other way
back, so what becomes of the request does not depend on what the client
hears of it. -/
theorem serve_tellsTruth {teller : UInt32} {m : Mailbox} (hactive : teller.toNat < m.active)
    (hcapacity : m.active ≤ m.capacity) (hpending : m.response teller = .ok .pending)
    (hslot : ∀ p ∈ m.slot, p.teller ≠ teller) (pid : Int32) (s : σ) {ms : List (Move σ)}
    (hforeign : ∀ next ∈ ms, next.IsForeign teller) (source : Source) (sink : Sink) :
    let served := serve teller pid source sink (submitAmong ms) (World.start m s)
    ((∀ t, ¬ Asks source t) →
      served.2.1 = sink ∧ served.2.2 = World.start m s ∧ exitCode served.1 = 1) ∧
    ∀ t, Asks source t →
      served.2.2 = (submitAmong ms ⟨teller, pid, t⟩ (World.start m s)).2 ∧
      TellsTruth ⟨teller, pid, t⟩ sink served.2.1 served.1 served.2.2 := by
  intro served
  constructor
  · intro hnothing
    cases hrequest : readRequest source with
    | error error =>
      have hserved : served = _ := serve_of_error hrequest
      rw [hserved]
      exact ⟨rfl, rfl, rfl⟩
    | ok t => exact absurd (readRequest_eq_ok_iff.mp hrequest) (hnothing t)
  · intro t ht
    have hstart : (World.start m s).Fits ⟨teller, pid, t⟩ :=
      ⟨.away, ⟨hactive, hcapacity, hslot, hpending, nofun, rfl⟩, rfl⟩
    obtain ⟨hfits, hstage⟩ := submitAmong_spec hstart hforeign
    have hserved : served = _ := serve_of_ok (readRequest_eq_ok_iff.mpr ht)
    rw [hserved]
    exact ⟨rfl, tellsTruth_relay hfits hstage sink⟩

/-- A teller finds the slot full, and gets its answer after its deadline.
Its client asks for a withdrawal in a line without an end, and hangs up
after five bytes of the answer. -/
theorem serve_tellsTruth_hung_up :
    let id : BankId := ⟨"N", by decide⟩
    let t : Transaction := ⟨id, .withdraw, 7⟩
    let m := ((Mailbox.ofCapacity 2).beginBatch 2).2
    let answering : Handler Nat := fun _ n => (some .success, n + 1)
    let ms : List (Move Nat) :=
      [.other (.post ⟨0, 11, ⟨id, .deposit, 5⟩⟩), .own false, .other (.take answering), .own false,
        .own true, .other (.take answering)]
    let source := Source.ofBytes (Text.encode (' ' :: Message.encode t))
    let sink : Sink := ⟨[], some 5, .nothingWritten, none⟩
    let served := serve 1 12 source sink (submitAmong ms) (World.start m 0)
    (∀ next ∈ ms, next.IsForeign 1) ∧ Asks source t ∧
      TellsTruth ⟨1, 12, t⟩ sink served.2.1 served.1 served.2.2 ∧
      served.2.1.taken = Text.encode "\"Succ".toList ∧ exitCode served.1 = 1 ∧
      served.2.2.mailbox.response 1 = .ok .success := by
  intro id t m answering ms source sink served
  have hforeign : ∀ next ∈ ms, next.IsForeign 1 := by
    have hfinal : Request.IsForeign 1 (.take answering) := by
      rintro e s r ⟨⟩
      rfl
    have hne : (0 : UInt32) ≠ 1 := by decide
    simp only [ms, List.forall_mem_cons]
    exact ⟨hne, trivial, hfinal, trivial, trivial, hfinal, nofun⟩
  have hasks : Asks source t := readRequest_eq_ok_iff.mp (by decide +kernel)
  obtain ⟨-, htruth⟩ := serve_tellsTruth (m := m) (by decide) (by decide) rfl nofun 12 0 hforeign
    source sink
  refine ⟨hforeign, hasks, ?_, by decide +kernel, by decide +kernel, by decide +kernel⟩
  simp only [served]
  exact (htruth t hasks).2

end CountingHouse.Teller
