/-
CountingHouse.Proofs.Mailbox.HandOff — nothing that is posted is lost,
altered or handed over twice.

The invariant says that whatever lies in the slot is a posted envelope.
One visit keeps it, and keeps an account: what was in the slot, followed
by what the visit posts, is what the visit removes, followed by what is
in the slot then (`visit_account`). A run adds these accounts up.
-/
import CountingHouse.Proofs.Mailbox.Basic
import CountingHouse.Proofs.Mailbox.Visits

namespace CountingHouse.Mailbox

variable {σ : Type}

/-! ## The account of a visit -/

/-- What lies in the slot, if it can be read. -/
def contents (m : Mailbox) : Option Envelope :=
  m.slot.bind fun p => p.payload.decode.toOption.map fun t => ⟨p.teller, p.pid, t⟩

namespace Visit

/-- The envelope that a visit has put into the slot, as the poster was
told. -/
def posted (v : Visit σ) : List Envelope :=
  match v.request, v.reply with
  | .post e, .posted true => [e]
  | _, _ => []

/-- The envelope that a visit has removed: what was in the slot before
and is not there any more. -/
def removed (v : Visit σ) : List Envelope :=
  if v.after.slot = v.before.slot then [] else v.before.contents.toList

/-- Nothing is reported to have left the slot, and no handler called. -/
def IsIdle (v : Visit σ) : Prop :=
  v.removed = [] ∧ v.reply ≠ .retracted (.ok .withdrawn) ∧
    ∀ receipt calls, v.reply = .taken receipt calls → receipt = none ∧ calls = []

/-- An envelope left the slot through a handler, which was called with it
and with nothing else. -/
def HandsOver (v : Visit σ) (e : Envelope) : Prop :=
  v.removed = [e] ∧ ∃ handler answer, v.request = .take handler ∧
    v.reply = .taken (some ⟨e.teller, e.pid, answer⟩) [⟨e, answer⟩]

/-- An envelope left the slot because its own teller took it back. -/
def TakesBack (v : Visit σ) (e : Envelope) : Prop :=
  v.removed = [e] ∧ v.request = .retract e.teller e.pid ∧ v.reply = .retracted (.ok .withdrawn)

end Visit

/-! ## The invariant -/

/-- What is in the slot is this envelope as it was posted, or nothing. -/
def Holds (m : Mailbox) (held : Option Envelope) : Prop :=
  m.slot = held.map Envelope.posted

theorem Holds.contents_eq {m : Mailbox} {held : Option Envelope} (h : m.Holds held) :
    m.contents = held := by
  rw [contents, h]
  cases held with
  | none => rfl
  | some e =>
    have hdecode : e.posted.payload.decode = .ok e.transaction :=
      Payload.decode_encode e.transaction
    rw [Option.map_some, Option.bind_some, hdecode]
    rfl

theorem Holds.decodes {m : Mailbox} {held : Option Envelope} (h : m.Holds held) :
    ∀ p ∈ m.slot, ∃ t, p.payload.decode = .ok t := by
  intro p hp
  rw [h] at hp
  obtain ⟨e, _, rfl⟩ := Option.map_eq_some_iff.mp hp
  exact ⟨e.transaction, Payload.decode_encode e.transaction⟩

/-! ## One visit -/

namespace Visit

/-- What was in the slot and is posted is what is removed and what is in
the slot then. -/
def Balances (v : Visit σ) (held : Option Envelope) : Prop :=
  ∃ held', v.after.Holds held' ∧ held.toList ++ v.posted = v.removed ++ held'.toList

variable {m after : Mailbox} (request : Request σ) (reply : Reply)

theorem removed_of_slot_eq (h : after.slot = m.slot) :
    (⟨request, reply, m, after⟩ : Visit σ).removed = [] :=
  if_pos h

theorem removed_of_empty (h : m.Holds none) :
    (⟨request, reply, m, after⟩ : Visit σ).removed = [] := by
  rw [removed, h.contents_eq]
  split <;> rfl

theorem removed_of_full {e : Envelope} (h : m.Holds (some e)) (hafter : after.slot = none) :
    (⟨request, reply, m, after⟩ : Visit σ).removed = [e] := by
  have hne : after.slot ≠ m.slot := by
    rw [hafter, h]
    exact (Option.some_ne_none _).symm
  rw [removed, if_neg hne, h.contents_eq]
  rfl

end Visit

section
variable {m : Mailbox} {held : Option Envelope} (h : m.Holds held) (s : σ)
include h

/-- A visit that neither posts nor changes the slot, and reports nothing. -/
theorem account_of_slot_eq {request : Request σ} {reply : Reply} {after : Mailbox}
    (hslot : after.slot = m.slot)
    (hposted : (⟨request, reply, m, after⟩ : Visit σ).posted = [])
    (hwithdrawn : reply ≠ .retracted (.ok .withdrawn))
    (htaken : ∀ receipt calls, reply = .taken receipt calls → receipt = none ∧ calls = []) :
    (⟨request, reply, m, after⟩ : Visit σ).Balances held ∧
      (⟨request, reply, m, after⟩ : Visit σ).IsIdle := by
  have hremoved := Visit.removed_of_slot_eq request reply hslot
  refine ⟨⟨held, hslot.trans h, ?_⟩, hremoved, hwithdrawn, htaken⟩
  rw [hposted, hremoved, List.append_nil, List.nil_append]

theorem visit_post (e : Envelope) :
    (m.visit s (.post e)).Balances held ∧ (m.visit s (.post e)).IsIdle := by
  cases held with
  | none =>
    have hvisit : m.visit s (.post e) =
        ⟨.post e, .posted true, m, m.leave (some e.posted)⟩ := by
      simp only [visit, serve, tryPost_of_none h]
    rw [hvisit]
    have hremoved : (⟨.post e, .posted true, m, m.leave (some e.posted)⟩ : Visit σ).removed = [] :=
      Visit.removed_of_empty _ _ h
    refine ⟨⟨some e, rfl, ?_⟩, hremoved, nofun, nofun⟩
    rw [hremoved]
    rfl
  | some e' =>
    have hvisit : m.visit s (.post e) = ⟨.post e, .posted false, m, m.enter⟩ := by
      simp only [visit, serve, tryPost_of_some h]
    rw [hvisit]
    exact account_of_slot_eq h rfl rfl nofun nofun

theorem visit_take (handler : Handler σ) :
    (m.visit s (.take handler)).Balances held ∧
      ((m.visit s (.take handler)).IsIdle ∨ ∃ e, (m.visit s (.take handler)).HandsOver e) := by
  cases held with
  | none =>
    have hvisit : m.visit s (.take handler) = ⟨.take handler, .taken none [], m, m.enter⟩ := by
      simp only [visit, serve, tryTake_of_none (journaled handler) (s, []) h]
    have htaken : ∀ receipt calls, Reply.taken none [] = .taken receipt calls →
        receipt = none ∧ calls = [] := by
      intro receipt calls hreply
      cases hreply
      exact ⟨rfl, rfl⟩
    rw [hvisit]
    exact And.imp_right .inl (account_of_slot_eq h rfl rfl nofun htaken)
  | some e =>
    have hvisit : m.visit s (.take handler) =
        ⟨.take handler,
          .taken (some ⟨e.teller, e.pid, (handler e s).1⟩) [⟨e, (handler e s).1⟩],
          m, (m.conclude e.teller (handler e s).1).leave none⟩ := by
      simp only [visit, serve, tryTake_of_posted (journaled handler) (s, []) h, journaled,
        List.nil_append]
    rw [hvisit]
    have hremoved := fun reply => Visit.removed_of_full (.take handler) reply h
      (slot_leave (m.conclude e.teller (handler e s).1) none)
    refine ⟨⟨none, rfl, ?_⟩, .inr ⟨e, hremoved _, handler, (handler e s).1, rfl, rfl⟩⟩
    rw [hremoved]
    rfl

theorem visit_retract (teller : UInt32) (pid : Int32) :
    (m.visit s (.retract teller pid)).Balances held ∧
      ((m.visit s (.retract teller pid)).IsIdle ∨
        ∃ e, (m.visit s (.retract teller pid)).TakesBack e) := by
  rcases m.retract_cases teller pid with ⟨p, hslot, rfl, rfl, hretract⟩ | ⟨_, hretract⟩
  · have hvisit : m.visit s (.retract p.teller p.pid) =
        ⟨.retract p.teller p.pid, .retracted (.ok .withdrawn), m, m.leave none⟩ := by
      simp only [visit, serve, hretract]
    obtain ⟨e, rfl, rfl⟩ := Option.map_eq_some_iff.mp (h.symm.trans hslot)
    have hremoved := fun request : Request σ => Visit.removed_of_full request
      (.retracted (.ok .withdrawn)) h (slot_leave m none)
    rw [hvisit]
    refine ⟨⟨none, rfl, ?_⟩, .inr ⟨e, hremoved _, rfl, rfl⟩⟩
    rw [hremoved]
    rfl
  · have hvisit : m.visit s (.retract teller pid) =
        ⟨.retract teller pid, .retracted (m.retract teller pid).1, m, m.enter⟩ := by
      simp only [visit, serve, hretract]
    have hreply : (m.retract teller pid).1 ≠ .ok .withdrawn := by
      rw [hretract]
      cases m.finalResponse teller with
      | error e => nofun
      | ok answer => cases answer <;> nofun
    rw [hvisit]
    exact And.imp_right .inl
      (account_of_slot_eq h rfl rfl (fun heq => hreply (Reply.retracted.inj heq)) nofun)

/-- **One visit keeps the account**, whatever is asked for. -/
theorem visit_account (request : Request σ) :
    (m.visit s request).Balances held ∧
      ((m.visit s request).IsIdle ∨
        ∃ e, (m.visit s request).HandsOver e ∨ (m.visit s request).TakesBack e) := by
  cases request with
  | beginBatch tellers =>
    exact And.imp_right .inl (account_of_slot_eq h (m.slot_beginBatch tellers) rfl nofun nofun)
  | post e =>
    exact (visit_post h s e).imp_right .inl
  | take handler =>
    obtain ⟨hbalance, hleaving⟩ := visit_take h s handler
    exact ⟨hbalance, hleaving.imp_right fun ⟨e, he⟩ => ⟨e, .inl he⟩⟩
  | retract teller pid =>
    obtain ⟨hbalance, hleaving⟩ := visit_retract h s teller pid
    exact ⟨hbalance, hleaving.imp_right fun ⟨e, he⟩ => ⟨e, .inr he⟩⟩
  | look teller =>
    exact And.imp_right .inl (account_of_slot_eq h rfl rfl nofun nofun)

end

/-! ## Many visits -/

/-- The accounts of the visits add up. -/
theorem run_account {m : Mailbox} {held : Option Envelope} (h : m.Holds held) (s : σ)
    (requests : List (Request σ)) :
    ∃ held', (m.run s requests).2.1.Holds held' ∧
      held.toList ++ (m.run s requests).1.flatMap Visit.posted =
        (m.run s requests).1.flatMap Visit.removed ++ held'.toList ∧
      ∀ v ∈ (m.run s requests).1,
        (v.IsIdle ∨ ∃ e, v.HandsOver e ∨ v.TakesBack e) ∧ ∃ held, v.before.Holds held := by
  induction requests generalizing m held s with
  | nil =>
    exact ⟨held, h, List.append_nil _, fun v hv => absurd hv List.not_mem_nil⟩
  | cons request rest ih =>
    obtain ⟨⟨held₁, hafter, hbalance⟩, hleaving⟩ := visit_account h s request
    have hserved : (m.serve s request).2.1.Holds held₁ := hafter
    obtain ⟨held₂, hlast, hrest, hvisits⟩ := ih hserved (m.serve s request).2.2
    rw [run_cons]
    refine ⟨held₂, hlast, ?_, ?_⟩
    · -- what the first visit leaves in the slot is what the others begin with
      rw [List.flatMap_cons, List.flatMap_cons, ← List.append_assoc, hbalance,
        List.append_assoc, List.append_assoc, hrest]
    · intro v hv
      rcases List.mem_cons.mp hv with rfl | hv
      · exact ⟨hleaving, held, h⟩
      · exact hvisits v hv

theorem holds_of_create {capacity : Nat} {machine : Machine} {m : Mailbox}
    (h : create capacity machine = .ok m) :
    m.Holds none := by
  simp only [create] at h
  split at h
  · cases h
  · cases h; rfl

/-- **Every posted envelope is handed over once.** The envelopes that were
posted are, in this order, those that left the slot and then the one
that is still in it. Each left in a visit of its own: either a handler was
called with this envelope alone, or the teller that had posted it took it
back. No payload is ever found that holds no transaction. -/
theorem run_exactlyOnce {capacity : Nat} {machine : Machine} {m : Mailbox}
    (h : create capacity machine = .ok m) (s : σ)
    (requests : List (Request σ)) :
    ∃ held : Option Envelope, (m.run s requests).2.1.Holds held ∧
      (m.run s requests).1.flatMap Visit.posted =
        (m.run s requests).1.flatMap Visit.removed ++ held.toList ∧
      ∀ v ∈ (m.run s requests).1,
        (v.IsIdle ∨ ∃ e, v.HandsOver e ∨ v.TakesBack e) ∧
          ∀ p ∈ v.before.slot, ∃ t, p.payload.decode = .ok t := by
  obtain ⟨held, hlast, haccount, hvisits⟩ := run_account (holds_of_create h) s requests
  refine ⟨held, hlast, haccount, fun v hv => ⟨(hvisits v hv).1, ?_⟩⟩
  obtain ⟨_, hbefore⟩ := (hvisits v hv).2
  exact hbefore.decodes

/-- Two tellers of which one is refused, waits for the other to take its
request back, and is then discarded. -/
theorem run_exactlyOnce_two_tellers :
    let id : BankId := ⟨"N", by decide⟩
    let requests : List (Request Unit) :=
      [.beginBatch 2, .post ⟨0, 11, ⟨id, .deposit, 5⟩⟩, .post ⟨1, 12, ⟨id, .withdraw, 7⟩⟩,
        .retract 1 12, .retract 0 11, .post ⟨1, 12, ⟨id, .withdraw, 7⟩⟩,
        .take fun _ s => (none, s)]
    create 2 = .ok (ofCapacity 2) ∧
    ∃ held : Option Envelope, ((ofCapacity 2).run () requests).2.1.Holds held ∧
      ((ofCapacity 2).run () requests).1.flatMap Visit.posted =
        ((ofCapacity 2).run () requests).1.flatMap Visit.removed ++ held.toList ∧
      ∀ v ∈ ((ofCapacity 2).run () requests).1,
        (v.IsIdle ∨ ∃ e, v.HandsOver e ∨ v.TakesBack e) ∧
          ∀ p ∈ v.before.slot, ∃ t, p.payload.decode = .ok t := by
  intro id requests
  have hcreate : create 2 = .ok (ofCapacity 2) := rfl
  exact ⟨hcreate, run_exactlyOnce hcreate () requests⟩

end CountingHouse.Mailbox
