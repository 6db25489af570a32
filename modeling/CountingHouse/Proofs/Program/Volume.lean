/-
CountingHouse.Proofs.Program.Volume — the server and the rest of its volume.

While a bank is open, the server writes one file of its volume, the ledger,
and reads none. So what survives reports, changes of the accounts and
attempts to write the ledger survives whatever moves are made
(`Lasting.play`); that is how the pipes of a client program are left alone
(`Premises.Used.lasting`). And what stands on the volume makes no difference
to the server: on another volume the same moves come to the same
(`Elsewhere.play`).
-/
import CountingHouse.Program.Session
import CountingHouse.Proofs.Channels.Pipes
import CountingHouse.Proofs.Server.Moves

namespace CountingHouse

open Ledger Server

/-! ## What is left alone -/

/-- What all that the server does to its books leaves as it was. -/
structure Server.Books.Lasting (I : Books → Prop) : Prop where
  note : ∀ b event, I b → I (b.note event)
  change : ∀ (b : Books) (table : Table), I b → I { b with table }
  flush : ∀ b, I b → I b.flush.2

namespace Server.Books.Lasting

variable {I : Books → Prop} (h : Lasting I) {b : Books}
include h

theorem persist (hb : I b) : I b.persist := by
  rcases b.persist_cases with ⟨_, heq⟩ | ⟨error, _, heq⟩ <;> rw [heq]
  · exact h.flush b hb
  · exact h.note _ _ (h.flush b hb)

theorem submit (hb : I b) (client : String) (x : Transaction) : I (b.submit client x).2 := by
  unfold Books.submit
  rcases b.table.submit client x with ⟨error | ⟨position, response⟩, t⟩
  · exact h.note _ _ (h.change b t hb)
  · simp only
    split
    · exact h.note _ _ (h.change b t hb)
    · exact h.change b t hb

theorem processEnvelope (hb : I b) (map : TellerMap) (e : Envelope) :
    I (processEnvelope map e b).2 := by
  cases hmandate : mandateOf map e with
  | none =>
    obtain ⟨answer, event, heq, _⟩ := processEnvelope_of_no_mandate hmandate b
    rw [heq]
    exact h.note b event hb
  | some a =>
    rw [processEnvelope_of_mandate hmandate]
    exact h.persist (h.submit hb a.client e.transaction)

theorem handle (hb : I b) (map : TellerMap) (p : Posted) :
    I (Mailbox.handle p (Books.processEnvelope map) b).2 := by
  unfold Mailbox.handle
  split
  · exact h.processEnvelope hb map _
  · exact hb

theorem move {f : Floor} (hf : I f.books) (m : Move) : I (f.move m).books := by
  cases m with
  | turn =>
    rcases f.turn_cases with ⟨_, hturn⟩ | ⟨_, _, _, hturn⟩ | ⟨_, _, hslot, _, hturn⟩ |
      ⟨p, _, _, hslot, _, hturn⟩ <;> rw [Floor.move, hturn]
    · exact hf
    · exact hf
    · rw [Floor.attend_of_empty (f := f.afterLook) hslot]
      exact hf
    · rw [Floor.attend_of_some (f := f.afterLook) hslot]
      exact h.handle hf f.map p
  | post e => exact hf
  | retract teller pid => exact hf
  | leave pid code => exact hf

theorem play {f : Floor} (hf : I f.books) (moves : List Move) : I (f.play moves).books := by
  induction moves generalizing f with
  | nil => exact hf
  | cons m moves ih => exact ih (h.move hf m)

end Server.Books.Lasting

/-- The server has its ledger on the premises, and they are furnished. -/
structure Premises.Used (p : Premises) (held : String → List UInt8) (b : Books) : Prop where
  ledger : b.ledger.file.place = p.ledger
  furnished : p.Furnished b.volume held

/-- Writing the ledger leaves the pipes alone. -/
theorem Premises.Used.lasting (p : Premises) (held : String → List UInt8) :
    Books.Lasting (p.Used held) where
  note _ _ hb := ⟨hb.ledger, hb.furnished⟩
  change _ _ hb := ⟨hb.ledger, hb.furnished⟩
  flush b hb := by
    refine ⟨(b.ledger.place_flush _ _ _).trans hb.ledger, ?_⟩
    have hempty := hb.furnished.put_ledger []
    rw [Books.flush, LedgerFile.flush_eq, OpenFile.write_eq]
    simp only [OpenFile.truncate, OpenFile.rewind, hb.ledger]
    split
    · exact hempty
    · exact hempty.put_ledger _

/-! ## What makes no difference -/

/-- The same books on another volume. -/
def Server.Books.Elsewhere (b b' : Books) : Prop :=
  ∃ volume, b' = { b with volume }

namespace Server.Books.Elsewhere

variable {b b' : Books} (h : b.Elsewhere b')
include h

theorem note (event : Event) : (b.note event).Elsewhere (b'.note event) := by
  obtain ⟨v, rfl⟩ := h
  exact ⟨v, rfl⟩

/-- How writing the ledger ends does not depend on what the file held. -/
theorem flush : b'.flush.1 = b.flush.1 ∧ b.flush.2.Elsewhere b'.flush.2 := by
  obtain ⟨v, rfl⟩ := h
  simp only [Books.flush, LedgerFile.flush_eq, OpenFile.write_eq]
  exact ⟨trivial, _, rfl⟩

theorem persist : b.persist.Elsewhere b'.persist := by
  obtain ⟨hresult, hafter⟩ := h.flush
  rcases b.persist_cases with ⟨hok, heq⟩ | ⟨error, herror, heq⟩ <;>
    rcases b'.persist_cases with ⟨hok', heq'⟩ | ⟨error', herror', heq'⟩ <;> rw [heq, heq']
  · exact hafter
  · rw [hresult, hok] at herror'
    cases herror'
  · rw [hresult, herror] at hok'
    cases hok'
  · rw [hresult, herror] at herror'
    cases herror'
    exact hafter.note _

theorem submit (client : String) (x : Transaction) :
    (b'.submit client x).1 = (b.submit client x).1 ∧
      (b.submit client x).2.Elsewhere (b'.submit client x).2 := by
  obtain ⟨v, rfl⟩ := h
  unfold Books.submit
  rcases b.table.submit client x with ⟨error | ⟨position, response⟩, t⟩
  · exact ⟨rfl, v, rfl⟩
  · simp only
    split
    · exact ⟨rfl, v, rfl⟩
    · exact ⟨rfl, v, rfl⟩

theorem processEnvelope (map : TellerMap) (e : Envelope) :
    (Books.processEnvelope map e b').1 = (Books.processEnvelope map e b).1 ∧
      (Books.processEnvelope map e b).2.Elsewhere (Books.processEnvelope map e b').2 := by
  unfold Books.processEnvelope
  split
  · exact ⟨rfl, h.note _⟩
  · next a _ =>
    split
    · exact ⟨rfl, h.note _⟩
    · obtain ⟨hanswer, hafter⟩ := h.submit a.client e.transaction
      exact ⟨congrArg some hanswer, hafter.persist⟩

theorem handle (map : TellerMap) (p : Posted) :
    (Mailbox.handle p (Books.processEnvelope map) b').1 =
        (Mailbox.handle p (Books.processEnvelope map) b).1 ∧
      (Mailbox.handle p (Books.processEnvelope map) b).2.Elsewhere
        (Mailbox.handle p (Books.processEnvelope map) b').2 := by
  unfold Mailbox.handle
  split
  · exact h.processEnvelope map _
  · exact ⟨rfl, h⟩

end Server.Books.Elsewhere

namespace Server.Floor

variable {P : Envelope → Prop} {f f' g g' : Floor}

/-- The same floor on another volume. -/
def Elsewhere (f f' : Floor) : Prop :=
  ∃ volume, f' = f.onVolume volume

theorem Elsewhere.refl (f : Floor) : f.Elsewhere f :=
  ⟨f.volume, rfl⟩

theorem Elsewhere.trans (h : f.Elsewhere f') (h' : f'.Elsewhere g) : f.Elsewhere g := by
  obtain ⟨v, rfl⟩ := h
  obtain ⟨w, rfl⟩ := h'
  exact ⟨w, rfl⟩

theorem Elsewhere.attend (h : f.Elsewhere f') : f.attend.Elsewhere f'.attend := by
  obtain ⟨v, rfl⟩ := h
  cases hslot : f.mailbox.slot with
  | none =>
    have hslot' : (f.onVolume v).mailbox.slot = none := hslot
    rw [attend_of_empty hslot, attend_of_empty hslot']
    exact ⟨v, rfl⟩
  | some p =>
    have hslot' : (f.onVolume v).mailbox.slot = some p := hslot
    have hbooks : f.books.Elsewhere (f.onVolume v).books := ⟨v, rfl⟩
    obtain ⟨hanswer, w, hafter⟩ := hbooks.handle f.map p
    have hmap : (f.onVolume v).map = f.map := rfl
    rw [attend_of_some hslot, attend_of_some hslot', hmap, hanswer, hafter]
    exact ⟨w, rfl⟩

theorem Elsewhere.turn (h : f.Elsewhere f') : f.turn.Elsewhere f'.turn := by
  obtain ⟨v, rfl⟩ := h
  have hroll : (f.onVolume v).roll = f.roll := rfl
  have hsignal : (f.onVolume v).signal = f.signal := rfl
  rw [Floor.turn, Floor.turn, hroll, hsignal]
  by_cases hstill : (f.roll.report.interrupted || !f.roll.isAwaiting) = true
  · simp only [if_pos hstill]
    exact ⟨v, rfl⟩
  · simp only [if_neg hstill]
    by_cases hlook : f.signal.look.1 = true
    · simp only [if_pos hlook]
      exact ⟨v, rfl⟩
    · simp only [if_neg hlook]
      exact Elsewhere.attend ⟨v, rfl⟩

theorem Elsewhere.move (h : f.Elsewhere f') (m : Move) : (f.move m).Elsewhere (f'.move m) := by
  cases m with
  | turn => exact h.turn
  | post e => obtain ⟨v, rfl⟩ := h; exact ⟨v, rfl⟩
  | retract teller pid => obtain ⟨v, rfl⟩ := h; exact ⟨v, rfl⟩
  | leave pid code => obtain ⟨v, rfl⟩ := h; exact ⟨v, rfl⟩

/-- **Whatever moves are made**, they come to the same on another volume. -/
theorem Elsewhere.play (h : f.Elsewhere f') (moves : List Move) :
    (f.play moves).Elsewhere (f'.play moves) := by
  induction moves generalizing f f' with
  | nil => exact h
  | cons m moves ih => exact ih (h.move m)

/-! ## From floor to floor -/

/-- Some moves lead from one floor to the other, while somebody else may
change the volume. -/
def Leads (P : Envelope → Prop) (f g : Floor) : Prop :=
  ∃ moves, (∀ e, .post e ∈ moves → P e) ∧ (f.play moves).Elsewhere g

theorem Reaches.leads (h : Reaches P f g) : Leads P f g := by
  obtain ⟨moves, hposts, rfl⟩ := h
  exact ⟨moves, hposts, .refl _⟩

theorem Elsewhere.leads (h : f.Elsewhere g) : Leads P f g :=
  ⟨[], nofun, h⟩

theorem Leads.trans (h : Leads P f g) (h' : Leads P g g') : Leads P f g' := by
  obtain ⟨moves, hposts, hg⟩ := h
  obtain ⟨more, hmore, hg'⟩ := h'
  refine ⟨moves ++ more, fun e he => ?_, ?_⟩
  · rcases List.mem_append.mp he with he | he
    · exact hposts e he
    · exact hmore e he
  · rw [Floor.play, List.foldl_append]
    exact (hg.play more).trans hg'

end Server.Floor

/-! ## A floor on the premises -/

namespace Server.Floor

variable {p : Premises} {held : String → List UInt8} {f : Floor} {k : Nat}

theorem Ready.onVolume {map rest : TellerMap} {n : Nat} (h : f.Ready map n rest) (v : Volume) :
    (f.onVolume v).Ready map n rest :=
  ⟨h.map_eq, h.signal, h.slot, h.active, h.capacity, h.uninterrupted, h.tellers, h.running⟩

theorem publish_eq (h : p.Furnished f.volume held) :
    f.publish p.directory p.client.pid =
      f.onVolume (f.volume.send (p.place p.mapName) (Channels.line f.map)) := by
  unfold publish
  simp only [h.publish f.map]

/-- A teller takes its request out of its own pipe and writes to its own
pipe what it has to. -/
theorem serveTeller_eq (h : p.Furnished f.volume held) (hk : k < p.client.transactions.length)
    (process : Int32) :
    let out := (f.onVolume (f.volume.drain (p.place (p.requestName k)))).comeForward (.ofNat k)
      ⟨process, some (.ofBytes (held (p.requestName k))), .unbounded⟩
    f.serveTeller p.directory p.client.pid (.ofNat k) process =
      (some ((out.1.map Sink.taken).getD []),
        out.2.onVolume (out.2.volume.send (p.place (p.responseName k))
          ((out.1.map Sink.taken).getD []))) := by
  unfold serveTeller
  simp only [h.opens hk, h.openWritable_request hk]

/-- What the server does leaves the pipes alone. -/
theorem Reaches.used {P : Envelope → Prop} {g : Floor} (h : Reaches P f g)
    (hf : p.Used held f.books) : p.Used held g.books := by
  obtain ⟨moves, _, rfl⟩ := h
  exact (Premises.Used.lasting p held).play hf moves

end Server.Floor

end CountingHouse
