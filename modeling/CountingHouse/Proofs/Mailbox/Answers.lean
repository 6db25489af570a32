/-
CountingHouse.Proofs.Mailbox.Answers — an answer reaches its teller, and
nobody else and nobody later.

What a teller finds in the table of answers is told here from what has
happened at the mailbox, without the table: `dueAnswer` looks for the last
answer to this teller since a batch was begun, and for the size of that
batch. The table agrees with it after every visit (`Reflects.visit`),
because a visit does one of three things: it begins a batch, it answers
one teller, or it leaves all answers as they are (`visit_cases`).
-/
import CountingHouse.Proofs.Mailbox.Basic
import CountingHouse.Proofs.Mailbox.Visits

namespace CountingHouse.Mailbox

variable {σ : Type}

/-! ## What has happened -/

namespace Visit

/-- The size of the batch that a visit has begun. -/
def begins? (v : Visit σ) : Option Nat :=
  match v.request, v.reply with
  | .beginBatch tellers, .begun (.ok _) => some tellers
  | _, _ => none

/-- The answer that a visit has given, and the teller whose payload was
taken. -/
def answers? (v : Visit σ) : Option (UInt32 × Response) :=
  match v.reply with
  | .taken (some receipt) _ => receipt.response.map (receipt.teller, ·)
  | _ => none

end Visit

/-- The size of the batch that was begun last. -/
def batchSize (past : List (Visit σ)) : Nat :=
  (past.filterMap Visit.begins?).getLastD 0

/-- The visits since a batch was begun, the latest first. -/
def sinceBegin (past : List (Visit σ)) : List (Visit σ) :=
  past.reverse.takeWhile fun v => v.begins?.isNone

/-- The last answer to a teller since a batch was begun. -/
def lastAnswer? (past : List (Visit σ)) (teller : UInt32) : Option Response :=
  ((sinceBegin past).filterMap Visit.answers?).lookup teller

/-- What a teller is to find: the last answer to it, if it belongs to the
batch and there is one. -/
def dueAnswer (past : List (Visit σ)) (teller : UInt32) : Response :=
  if teller.toNat < batchSize past then (lastAnswer? past teller).getD .pending else .pending

section
variable (past : List (Visit σ)) {v : Visit σ}

@[simp] theorem batchSize_concat :
    batchSize (past ++ [v]) = v.begins?.getD (batchSize past) := by
  cases h : v.begins? <;> simp [batchSize, h]

/-- Nobody has been answered when a batch begins. -/
theorem lastAnswer?_concat_of_begins {tellers : Nat} (h : v.begins? = some tellers)
    (teller : UInt32) : lastAnswer? (past ++ [v]) teller = none := by
  simp [lastAnswer?, sinceBegin, h]

theorem lastAnswer?_concat (h : v.begins? = none) (teller : UInt32) :
    lastAnswer? (past ++ [v]) teller =
      (v.answers?.toList.lookup teller).or (lastAnswer? past teller) := by
  cases hanswer : v.answers? with
  | none => simp [lastAnswer?, sinceBegin, h, hanswer]
  | some answer =>
    -- the latest visit comes first
    have hfirst : (sinceBegin (past ++ [v])).filterMap Visit.answers? =
        [answer] ++ (sinceBegin past).filterMap Visit.answers? := by
      simp [sinceBegin, h, hanswer]
    rw [lastAnswer?, hfirst, List.lookup_append]
    rfl

end

/-! ## One visit -/

/-- The tellers of the second mailbox find what those of the first find. -/
structure Agrees (m m' : Mailbox) : Prop where
  capacity : m'.capacity = m.capacity
  active : m'.active = m.active
  response : ∀ teller, m'.response teller = m.response teller

theorem agrees_leave (m : Mailbox) (slot : Option Posted) : m.Agrees (m.leave slot) :=
  ⟨rfl, rfl, fun _ => rfl⟩

theorem agrees_enter (m : Mailbox) : m.Agrees m.enter :=
  m.agrees_leave m.slot

/-- What a visit can do to the table of answers. -/
theorem visit_cases (m : Mailbox) (s : σ) (request : Request σ) :
    (∃ tellers ≤ m.capacity, (m.visit s request).begins? = some tellers ∧
      (m.visit s request).after =
        { m.enter with answers := [], active := tellers % UInt32.size }) ∨
    (∃ teller r, (m.visit s request).begins? = none ∧
      (m.visit s request).answers? = some (teller, r) ∧
      (m.publish teller r).Agrees (m.visit s request).after) ∨
    ((m.visit s request).begins? = none ∧ (m.visit s request).answers? = none ∧
      m.Agrees (m.visit s request).after) := by
  cases request with
  | beginBatch tellers =>
    by_cases hfits : tellers ≤ m.capacity
    · have hvisit : m.visit s (.beginBatch tellers) =
          ⟨.beginBatch tellers, .begun (.ok ()), m,
            { m.enter with answers := [], active := tellers % UInt32.size }⟩ := by
        simp only [visit, serve, beginBatch, if_neg (Nat.not_lt.mpr hfits)]
      rw [hvisit]
      exact .inl ⟨tellers, hfits, rfl, rfl⟩
    · have hvisit : m.visit s (.beginBatch tellers) =
          ⟨.beginBatch tellers, .begun (.error (.batchTooLarge tellers m.capacity)), m, m⟩ := by
        simp only [visit, serve, beginBatch, if_pos (Nat.not_le.mp hfits)]
      rw [hvisit]
      exact .inr (.inr ⟨rfl, rfl, rfl, rfl, fun _ => rfl⟩)
  | post e =>
    refine .inr (.inr ⟨rfl, rfl, ?_⟩)
    cases hslot : m.slot with
    | none =>
      simp only [visit, serve, tryPost_of_none hslot]
      exact m.agrees_leave _
    | some p =>
      simp only [visit, serve, tryPost_of_some hslot]
      exact m.agrees_enter
  | take handler =>
    cases hslot : m.slot with
    | none =>
      have hvisit : m.visit s (.take handler) = ⟨.take handler, .taken none [], m, m.enter⟩ := by
        simp only [visit, serve, tryTake_of_none (journaled handler) (s, []) hslot]
      rw [hvisit]
      exact .inr (.inr ⟨rfl, rfl, m.agrees_enter⟩)
    | some p =>
      rcases htaken : handle p (journaled handler) (s, []) with ⟨answer, s', calls⟩
      have hvisit : m.visit s (.take handler) =
          ⟨.take handler, .taken (some ⟨p.teller, p.pid, answer⟩) calls, m,
            (m.conclude p.teller answer).leave none⟩ := by
        simp only [visit, serve, tryTake_of_some (journaled handler) (s, []) hslot, htaken]
      rw [hvisit]
      cases answer with
      | none => exact .inr (.inr ⟨rfl, rfl, m.agrees_leave none⟩)
      | some r => exact .inr (.inl ⟨p.teller, r, rfl, rfl, (m.publish p.teller r).agrees_leave none⟩)
  | retract teller pid =>
    refine .inr (.inr ⟨rfl, rfl, ?_⟩)
    rcases m.retract_cases teller pid with ⟨p, _, _, _, heq⟩ | ⟨_, heq⟩ <;>
      simp only [visit, serve, heq]
    · exact m.agrees_leave none
    · exact m.agrees_enter
  | look teller => exact .inr (.inr ⟨rfl, rfl, rfl, rfl, fun _ => rfl⟩)

/-- A visit that begins no batch changes no answer but the one it gives. -/
theorem response_visit_of_others (m : Mailbox) (s : σ) (request : Request σ) {teller : UInt32}
    (hbegins : (m.visit s request).begins? = none)
    (hothers : ∀ r, (m.visit s request).answers? ≠ some (teller, r)) :
    (m.visit s request).after.response teller = m.response teller := by
  rcases m.visit_cases s request with
    ⟨tellers, _, hbegun, _⟩ | ⟨other, r, _, hanswer, hagrees⟩ | ⟨_, _, hagrees⟩
  · rw [hbegins] at hbegun
    cases hbegun
  · have hne : other ≠ teller := by
      rintro rfl
      exact hothers r hanswer
    rw [hagrees.response, m.response_publish_of_ne hne]
  · exact hagrees.response teller

/-! ## The table and the past -/

/-- The table of answers says what is due by what has happened. -/
structure Reflects (m : Mailbox) (past : List (Visit σ)) : Prop where
  active : m.active = batchSize past
  fits : batchSize past ≤ m.capacity
  response : ∀ teller, teller.toNat < m.capacity → m.response teller = .ok (dueAnswer past teller)

theorem Reflects.create {capacity : Nat} {machine : Machine} {m : Mailbox}
    (h : create capacity machine = .ok m) :
    m.capacity = max capacity 1 ∧ m.Reflects ([] : List (Visit σ)) := by
  simp only [Mailbox.create] at h
  split at h
  · cases h
  · cases h
    refine ⟨rfl, rfl, Nat.zero_le _, fun teller hteller => ?_⟩
    exact if_pos hteller

section
variable {m : Mailbox} {past : List (Visit σ)} (h : m.Reflects past)
include h

/-- An answer is found by its teller, if this belongs to the batch. -/
theorem Reflects.response_publish (other : UInt32) (r : Response) {teller : UInt32}
    (hteller : teller.toNat < m.capacity) :
    (m.publish other r).response teller =
      .ok (if teller.toNat < batchSize past then
        (([(other, r)].lookup teller).or (lastAnswer? past teller)).getD .pending
      else .pending) := by
  have hdue := h.response teller hteller
  rw [dueAnswer] at hdue
  by_cases hother : other = teller
  · subst hother
    by_cases hbatch : other.toNat < batchSize past
    · rw [if_pos hbatch, response_publish_self hteller (h.active ▸ hbatch)]
      simp
    · have houtside : m.publish other r = m := by
        rw [publish, if_neg fun hboth => hbatch (h.active ▸ hboth.2)]
      rw [if_neg hbatch, houtside, hdue, if_neg hbatch]
  · have hnone : [(other, r)].lookup teller = none := by
      simp [List.lookup_cons, beq_false_of_ne (Ne.symm hother)]
    rw [m.response_publish_of_ne hother, hnone, hdue]
    simp

/-- **After every visit the table says what is due**, and the capacity
stays. -/
theorem Reflects.visit (hcapacity : m.capacity < 0x100000000) (s : σ) (request : Request σ) :
    (m.visit s request).after.capacity = m.capacity ∧
      (m.visit s request).after.Reflects (past ++ [m.visit s request]) := by
  rcases m.visit_cases s request with
    ⟨tellers, hfits, hbegins, hafter⟩ | ⟨other, r, hbegins, hanswer, hagrees⟩ |
    ⟨hbegins, hanswer, hagrees⟩
  · have hword : tellers % UInt32.size = tellers :=
      Nat.mod_eq_of_lt (Nat.lt_of_le_of_lt hfits hcapacity)
    rw [hafter]
    refine ⟨rfl, ?_, ?_, fun teller hteller => ?_⟩
    · simp [hbegins, hword]
    · rw [batchSize_concat, hbegins]
      exact hfits
    · have hnone := lastAnswer?_concat_of_begins past hbegins teller
      rw [dueAnswer, hnone, Option.getD_none, ite_self]
      exact if_pos hteller
  · have hcap : (m.visit s request).after.capacity = m.capacity := by
      rw [hagrees.capacity, capacity_publish]
    refine ⟨hcap, ?_, ?_, fun teller hteller => ?_⟩
    · rw [hagrees.active, active_publish, h.active]
      simp [hbegins]
    · rw [hcap]
      simpa [hbegins] using h.fits
    · rw [hcap] at hteller
      rw [hagrees.response, h.response_publish other r hteller, dueAnswer,
        lastAnswer?_concat past hbegins, hanswer]
      simp [hbegins]
  · refine ⟨hagrees.capacity, ?_, ?_, fun teller hteller => ?_⟩
    · rw [hagrees.active, h.active]
      simp [hbegins]
    · rw [hagrees.capacity]
      simpa [hbegins] using h.fits
    · rw [hagrees.capacity] at hteller
      rw [hagrees.response, h.response teller hteller, dueAnswer, dueAnswer,
        lastAnswer?_concat past hbegins, hanswer]
      simp [hbegins]

end

/-! ## Many visits -/

/-- A run is made of visits, each of which finds the table as it is due by
those before it. -/
theorem Reflects.run {m : Mailbox} {past : List (Visit σ)} (h : m.Reflects past)
    (hcapacity : m.capacity < 0x100000000) (s : σ) (requests : List (Request σ)) :
    (m.run s requests).2.1.capacity = m.capacity ∧
      (m.run s requests).2.1.Reflects (past ++ (m.run s requests).1) ∧
      ∀ earlier v later, (m.run s requests).1 = earlier ++ v :: later →
        v.before.capacity = m.capacity ∧ v.before.Reflects (past ++ earlier) ∧
          ∃ s', v = v.before.visit s' v.request := by
  induction requests generalizing m past s with
  | nil =>
    refine ⟨rfl, by simpa [Mailbox.run] using h, ?_⟩
    intro earlier v later hsplit
    simp [Mailbox.run] at hsplit
  | cons request rest ih =>
    obtain ⟨hcap, hafter⟩ := h.visit hcapacity s request
    obtain ⟨hlast, hreflects, hvisits⟩ :=
      ih hafter (by rw [hcap]; exact hcapacity) (m.serve s request).2.2
    rw [run_cons]
    rw [List.append_assoc, List.singleton_append] at hreflects
    refine ⟨hlast.trans hcap, hreflects, ?_⟩
    intro earlier v later hsplit
    cases earlier with
    | nil =>
      obtain ⟨rfl, _⟩ := List.cons.inj hsplit
      rw [List.append_nil]
      exact ⟨rfl, h, s, rfl⟩
    | cons first earlier =>
      obtain ⟨rfl, hrest⟩ := List.cons.inj hsplit
      obtain ⟨hsame, hbefore, hvisit⟩ := hvisits earlier v later hrest
      rw [List.append_assoc, List.singleton_append] at hbefore
      exact ⟨hsame.trans hcap, hbefore, hvisit⟩

/-! ## What tellers learn -/

/-- What every teller learns at a mailbox of a capacity to which this has
happened. -/
structure Delivers (m : Mailbox) (capacity : Nat) (past : List (Visit σ)) : Prop where
  noSuchSlot : ∀ teller,
    m.response teller = .error (.noSuchSlot teller) ↔ capacity ≤ teller.toNat
  response : ∀ teller, teller.toNat < capacity → m.response teller = .ok (dueAnswer past teller)
  /-- Taking a request back gives the answer when there is a final one and
  the request is not in the slot. -/
  answered : ∀ teller pid r, (m.retract teller pid).1 = .ok (.answered r) ↔
    (m.retract teller pid).1 ≠ .ok .withdrawn ∧ m.response teller = .ok r ∧ r.isFinal = true

/-- A visit that reports what there is and changes no answer but the one
it gives. -/
structure Visit.Honest (v : Visit σ) : Prop where
  seen : ∀ teller, v.request = .look teller → v.reply = .seen (v.before.response teller)
  retracted : ∀ teller pid, v.request = .retract teller pid →
    v.reply = .retracted (v.before.retract teller pid).1
  others : v.begins? = none → ∀ teller, (∀ r, v.answers? ≠ some (teller, r)) →
    v.after.response teller = v.before.response teller

theorem honest_visit (m : Mailbox) (s : σ) (request : Request σ) : (m.visit s request).Honest where
  seen := by
    rintro teller rfl
    rfl
  retracted := by
    rintro teller pid rfl
    rfl
  others := fun hbegins _ hothers => m.response_visit_of_others s request hbegins hothers

theorem retract_eq_answered_iff (m : Mailbox) (teller : UInt32) (pid : Int32) (r : Response) :
    (m.retract teller pid).1 = .ok (.answered r) ↔
      (m.retract teller pid).1 ≠ .ok .withdrawn ∧ m.response teller = .ok r ∧
        r.isFinal = true := by
  rcases m.retract_cases teller pid with ⟨p, _, _, _, heq⟩ | ⟨_, heq⟩
  · simp [heq]
  · rw [heq, finalResponse]
    cases m.response teller with
    | error e => simp [Except.map]
    | ok r' =>
      by_cases hfinal : r'.isFinal = true <;> simp [Except.map, hfinal] <;> grind

theorem Reflects.delivers {m : Mailbox} {past : List (Visit σ)} (h : m.Reflects past) :
    m.Delivers m.capacity past where
  noSuchSlot := by
    intro teller
    rw [Mailbox.response]
    split
    · next hteller => simpa using hteller
    · next hteller => simpa using hteller
  response := h.response
  answered := m.retract_eq_answered_iff

/-- **An answer is found by its teller alone, and in its batch alone.**
Whatever has been asked for at a mailbox, a teller beyond the capacity has
no slot, and any other finds the last answer to it since a batch was begun,
if it belongs to that batch. This holds before and after each visit of a
run, and no visit changes an answer but by giving one or by beginning a
batch. -/
theorem run_delivers {capacity : Nat} {machine : Machine} {m : Mailbox}
    (h : create capacity machine = .ok m)
    (hcapacity : capacity < 0x100000000) (s : σ) (requests : List (Request σ)) :
    (m.run s requests).2.1.Delivers (max capacity 1) (m.run s requests).1 ∧
      ∀ earlier v later, (m.run s requests).1 = earlier ++ v :: later →
        v.before.Delivers (max capacity 1) earlier ∧ v.Honest := by
  obtain ⟨hmax, hempty⟩ := Reflects.create (σ := σ) h
  have hword : m.capacity < 0x100000000 := by omega
  obtain ⟨hcap, hlast, hvisits⟩ := hempty.run hword s requests
  rw [← hmax]
  refine ⟨hcap ▸ hlast.delivers, ?_⟩
  intro earlier v later hsplit
  obtain ⟨hsame, hbefore, s', hvisit⟩ := hvisits earlier v later hsplit
  exact ⟨hsame ▸ hbefore.delivers, hvisit ▸ honest_visit v.before s' v.request⟩

/-- A payload of the first batch is answered in the second, where its
teller no longer is; a batch that is too large is refused. -/
theorem run_delivers_two_batches :
    let id : BankId := ⟨"N", by decide⟩
    let requests : List (Request Unit) :=
      [.look 0, .beginBatch 3, .post ⟨0, 11, ⟨id, .deposit, 5⟩⟩, .take fun _ s => (some .success, s),
        .post ⟨2, 13, ⟨id, .deposit, 7⟩⟩, .beginBatch 2, .take fun _ s => (some .failure, s),
        .look 2, .beginBatch 4, .post ⟨1, 12, ⟨id, .withdraw, 7⟩⟩,
        .take fun _ s => (some .insufficientCredits, s), .retract 1 12, .look 3]
    create 3 = .ok (ofCapacity 3) ∧ 3 < 0x100000000 ∧
    ((ofCapacity 3).run () requests).2.1.Delivers (max 3 1) ((ofCapacity 3).run () requests).1 ∧
      ∀ earlier v later, ((ofCapacity 3).run () requests).1 = earlier ++ v :: later →
        v.before.Delivers (max 3 1) earlier ∧ v.Honest := by
  intro id requests
  have hcreate : create 3 = .ok (ofCapacity 3) := rfl
  exact ⟨hcreate, by decide, run_delivers hcreate (by decide) () requests⟩

end CountingHouse.Mailbox
