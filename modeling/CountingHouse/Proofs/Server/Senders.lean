/-
CountingHouse.Proofs.Server.Senders — whose payloads the server takes.

What is taken from the slot was in it before or has been posted since
(`took_of_mem_journal`). So when only the tellers of the batch post, each
for the client it was given, every payload has a mandate, in whatever order
the tellers post and the server takes its turns (`mandated_of_mem_journal`).
The log says of every payload that is turned away that it was, and of no
other (`turnedAway_play`).
-/
import CountingHouse.Proofs.Server.Moves

namespace CountingHouse

open Server

/-! ## What is turned away -/

/-- Is a payload turned away, because a stranger has sent it or because it
is about another client? -/
def Server.Event.isTurnedAway : Event → Bool
  | .discarded _ | .mismatched _ _ => true
  | .processed _ _ _ _ | .rejected _ _ | .publishFailed _ _ | .batchTooLarge _ _
  | .cleanupFailed _ | .servingStopped _ | .ledgerNotWritten _ | .tellerNotReaped _ _ => false

/-- Is a payload taken that has no mandate? -/
def Server.Entry.isTurnedAway : Entry → Bool
  | .took map p _ =>
    match p.payload.decode with
    | .ok x => !Books.hasMandate map ⟨p.teller, p.pid, x⟩
    | .error _ => false
  | .looked _ | .enrolled _ => false

namespace Server.Books

/-- How many payloads the log says were turned away. -/
def turnedAway (b : Books) : Nat :=
  b.events.countP Event.isTurnedAway

theorem turnedAway_note (b : Books) (event : Event) :
    (b.note event).turnedAway = b.turnedAway + if event.isTurnedAway then 1 else 0 := by
  rw [turnedAway, note, List.countP_append, List.countP_singleton]
  rfl

theorem turnedAway_submit (b : Books) (client : String) (x : Transaction) :
    (b.submit client x).2.turnedAway = b.turnedAway := by
  unfold submit
  rcases b.table.submit client x with ⟨error | ⟨position, response⟩, t⟩
  · exact turnedAway_note _ _
  · simp only
    split
    · exact turnedAway_note _ _
    · rfl

theorem turnedAway_persist (b : Books) : b.persist.turnedAway = b.turnedAway := by
  rcases b.persist_cases with ⟨_, heq⟩ | ⟨error, _, heq⟩ <;> rw [heq]
  · rfl
  · exact turnedAway_note _ _

theorem turnedAway_processEnvelope (map : TellerMap) (e : Envelope) (b : Books) :
    (processEnvelope map e b).2.turnedAway =
      b.turnedAway + if hasMandate map e then 0 else 1 := by
  cases hmandate : mandateOf map e with
  | some a =>
    rw [processEnvelope_of_mandate hmandate, turnedAway_persist, turnedAway_submit]
    simp [hasMandate, hmandate]
  | none =>
    have hevent : ∃ answer event, processEnvelope map e b = (answer, b.note event) ∧
        event.isTurnedAway = true := by
      unfold processEnvelope
      cases hsender : senderOf map e with
      | none => exact ⟨_, _, rfl, rfl⟩
      | some a =>
        have hother : e.transaction.bankId.text ≠ a.client := by
          intro hname
          rw [mandateOf_of_senderOf hsender hname] at hmandate
          cases hmandate
        simp only [ne_eq, if_pos hother]
        exact ⟨_, _, rfl, rfl⟩
    obtain ⟨answer, event, heq, haway⟩ := hevent
    rw [heq, turnedAway_note, haway]
    simp [hasMandate, hmandate]

theorem turnedAway_handle (map : TellerMap) (p : Posted) (answer : Option Response) (b : Books) :
    (Mailbox.handle p (processEnvelope map) b).2.turnedAway =
      b.turnedAway + if (Entry.took map p answer).isTurnedAway then 1 else 0 := by
  cases hdecode : p.payload.decode with
  | error e => simp [Mailbox.handle, Entry.isTurnedAway, hdecode]
  | ok x =>
    cases hmandate : hasMandate map ⟨p.teller, p.pid, x⟩ <;>
      simp [Mailbox.handle, Entry.isTurnedAway, hdecode, turnedAway_processEnvelope, hmandate]

/-- A teller that asks for its client has a mandate. -/
theorem mandateOf_of_mem {map : TellerMap} (hpids : (map.map Assignment.pid).Nodup)
    {a : Assignment} (ha : a ∈ map) {x : Transaction} (hname : x.bankId.text = a.client) :
    mandateOf map ⟨a.teller, a.pid, x⟩ = some a :=
  mandateOf_of_senderOf (senderOf_of_mem hpids ha x) hname

end Server.Books

/-! ## Where payloads come from -/

namespace Server.Floor

theorem map_move (f : Floor) (m : Move) : (f.move m).map = f.map := by
  cases m with
  | turn =>
    rcases f.turn_cases with ⟨_, hturn⟩ | ⟨_, _, _, hturn⟩ | ⟨_, _, hslot, _, hturn⟩ |
      ⟨p, _, _, hslot, _, hturn⟩ <;> rw [move, hturn]
    · rfl
    · rw [attend_of_empty (f := f.afterLook) hslot]; rfl
    · rw [attend_of_some (f := f.afterLook) hslot]; rfl
  | post e => rfl
  | retract teller pid => rfl
  | leave pid code => rfl

/-- A move leaves in the slot what was there, or what is posted, or
nothing. -/
theorem slot_move (f : Floor) (m : Move) {p : Posted} (h : (f.move m).mailbox.slot = some p) :
    f.mailbox.slot = some p ∨ ∃ e, m = .post e ∧ p = e.posted := by
  cases m with
  | turn =>
    rw [move] at h
    rcases f.turn_cases with ⟨_, hturn⟩ | ⟨_, _, _, hturn⟩ | ⟨_, _, hslot, _, hturn⟩ |
      ⟨p', _, _, hslot, _, hturn⟩ <;> rw [hturn] at h
    · exact .inl h
    · exact .inl h
    · rw [attend_of_empty (f := f.afterLook) hslot] at h
      exact .inl h
    · rw [attend_of_some (f := f.afterLook) hslot] at h
      cases h
  | post e =>
    cases hslot : f.mailbox.slot with
    | some p' =>
      rw [move, Mailbox.tryPost_of_some hslot] at h
      exact .inl (hslot.symm.trans h)
    | none =>
      rw [move, Mailbox.tryPost_of_none hslot] at h
      exact .inr ⟨e, rfl, (Option.some.inj h).symm⟩
  | retract teller pid =>
    rcases f.mailbox.retract_cases teller pid with ⟨p', _, _, _, heq⟩ | ⟨_, heq⟩ <;>
      rw [move, heq] at h
    · cases h
    · exact .inl h
  | leave pid code => exact .inl h

/-- **What is taken** was in the slot before, or has been posted since. -/
theorem took_of_mem_journal {f : Floor} {moves : List Move} {map : TellerMap} {p : Posted}
    {answer : Option Response} (h : .took map p answer ∈ f.journal moves) :
    map = f.map ∧ (f.mailbox.slot = some p ∨ ∃ e, .post e ∈ moves ∧ p = e.posted) := by
  induction moves generalizing f with
  | nil => cases h
  | cons m moves ih =>
    rcases List.mem_append.mp h with h | h
    · cases m with
      | turn =>
        rcases f.turn_cases with ⟨hseen, _⟩ | ⟨_, _, hseen, _⟩ | ⟨_, _, _, hseen, _⟩ |
          ⟨p', _, _, hslot, hseen, _⟩ <;> rw [hseen] at h
        · cases h
        · simp at h
        · simp at h
        · simp only [List.mem_cons, reduceCtorEq, Entry.took.injEq, List.not_mem_nil, or_false,
            false_or] at h
          obtain ⟨rfl, rfl, _⟩ := h
          exact ⟨rfl, .inl hslot⟩
      | post e => cases h
      | retract teller pid => cases h
      | leave pid code => cases h
    · obtain ⟨hmap, horigin⟩ := ih h
      refine ⟨hmap.trans (f.map_move m), ?_⟩
      rcases horigin with hslot | ⟨e, he, hposted⟩
      · rcases f.slot_move m hslot with hslot | ⟨e, rfl, hposted⟩
        · exact .inl hslot
        · exact .inr ⟨e, List.mem_cons_self, hposted⟩
      · exact .inr ⟨e, List.mem_cons_of_mem _ he, hposted⟩

/-- Does the envelope come from a teller of the batch, and is it about its
client? -/
def IsOwn (map : TellerMap) (e : Envelope) : Prop :=
  ∃ a ∈ map, e.teller = a.teller ∧ e.pid = a.pid ∧ e.transaction.bankId.text = a.client

/-- When the tellers of the batch ask for their clients and nobody else
posts, **every payload has a mandate**, unless it was there before. -/
theorem mandated_of_mem_journal {f : Floor} {moves : List Move}
    (hpids : (f.map.map Assignment.pid).Nodup) (hposts : ∀ e, .post e ∈ moves → IsOwn f.map e)
    {map : TellerMap} {p : Posted} {answer : Option Response}
    (h : .took map p answer ∈ f.journal moves) :
    f.mailbox.slot = some p ∨ ∃ e, p = e.posted ∧ .post e ∈ moves ∧
      Books.hasMandate map e = true := by
  obtain ⟨rfl, hslot | ⟨e, he, rfl⟩⟩ := took_of_mem_journal h
  · exact .inl hslot
  · obtain ⟨a, ha, hteller, hpid, hname⟩ := hposts e he
    have hmandate := Books.mandateOf_of_mem hpids ha hname
    rw [← hteller, ← hpid] at hmandate
    exact .inr ⟨e, rfl, he, by rw [Books.hasMandate, hmandate]; rfl⟩

/-! ## The log -/

theorem turnedAway_move (f : Floor) (m : Move) :
    (f.move m).books.turnedAway =
      f.books.turnedAway + (f.seen m).countP Entry.isTurnedAway := by
  cases m with
  | turn =>
    rcases f.turn_cases with ⟨hseen, hturn⟩ | ⟨_, _, hseen, hturn⟩ |
      ⟨_, _, hslot, hseen, hturn⟩ | ⟨p, _, _, hslot, hseen, hturn⟩ <;> rw [move, hturn, hseen]
    · rfl
    · rfl
    · rw [attend_of_empty (f := f.afterLook) hslot]
      rfl
    · rw [attend_of_some (f := f.afterLook) hslot, List.countP_cons, List.countP_singleton]
      exact Books.turnedAway_handle f.map p _ f.books
  | post e => rfl
  | retract teller pid => rfl
  | leave pid code => rfl

/-- **The log tells what was turned away**, whatever moves are made. -/
theorem turnedAway_play (f : Floor) (moves : List Move) :
    (f.play moves).books.turnedAway =
      f.books.turnedAway + (f.journal moves).countP Entry.isTurnedAway := by
  induction moves generalizing f with
  | nil => rfl
  | cons m moves ih =>
    have hrest := ih (f.move m)
    rw [turnedAway_move] at hrest
    rw [journal, List.countP_append, ← Nat.add_assoc]
    exact hrest

/-- When the slot was empty and the tellers of the batch ask for their
clients, nothing is turned away. -/
theorem turnedAway_play_of_own {f : Floor} {moves : List Move}
    (hpids : (f.map.map Assignment.pid).Nodup) (hposts : ∀ e, .post e ∈ moves → IsOwn f.map e)
    (hslot : f.mailbox.slot = none) :
    (f.play moves).books.turnedAway = f.books.turnedAway := by
  rw [turnedAway_play, Nat.add_eq_left, List.countP_eq_zero]
  rintro (raised | round | ⟨map, p, answer⟩) h
  · exact Bool.false_ne_true
  · exact Bool.false_ne_true
  · rcases mandated_of_mem_journal hpids hposts h with hfull | ⟨e, rfl, _, hmandate⟩
    · rw [hslot] at hfull
      cases hfull
    · have hdecode : e.posted.payload.decode = .ok e.transaction :=
        Payload.decode_encode e.transaction
      have hsame : (⟨e.posted.teller, e.posted.pid, e.transaction⟩ : Envelope) = e := rfl
      simp [Entry.isTurnedAway, hdecode, hsame, hmandate]

end Server.Floor

end CountingHouse
