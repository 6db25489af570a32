/-
CountingHouse.Proofs.Program.Session — client and server agree.

A client program and the server share nothing but the volume. What one of
them writes to a pipe the other reads from it, and each side counts the
clients for itself; each client is named twice, in the batch and in its
request. That all of this fits together is put together here from what every
stage does: the batch is read as it was written
(`Enrollment.next_receive_line`), what is sent on a pipe is received by the
side it is meant for and by nobody else (`Premises.Furnished`), every payload
has a mandate (`Floor.mandated_of_mem_journal`), and each teller takes the step
of the bank (`Floor.Ready.comeForward`).

The proof follows the program. Between two clients all pipes are empty and
the floor is ready for the next (`Underway`). What a client asks goes through
its own pipes and leads to that state again (`Underway.converse`). In the end
it is as if the client program had gone to the accounts itself
(`Table.submitAll`).
-/
import CountingHouse.Proofs.Program.Verdicts
import CountingHouse.Proofs.Program.Volume
import CountingHouse.Proofs.Server.Batch
import CountingHouse.Proofs.Server.Senders

namespace CountingHouse

open Program Server

/-! ## The batch of the program -/

/-- What the tellers of the program post: the transaction of the client at
a place, under the number of that place. -/
def Program.Client.Enrolled.Sends (c : Client.Enrolled) (pidOf : Nat → Int32)
    (e : Envelope) : Prop :=
  ∃ k, c.transactions[k]? = some e.transaction ∧ e.teller = UInt32.ofNat k ∧ e.pid = pidOf k

namespace Program.RunningServer

open Client

variable (s : RunningServer) (c : Enrolled) (pidOf : Nat → Int32)

/-- The server when it has read what the program has sent it. -/
def told : RunningServer :=
  (s.onVolume (c.enroll s.volume)).collect

/-- The floor on which the clients of the program are served. -/
def floorOf : Floor :=
  (s.told c).server.begin (batchOf c.pid c.transactions)
    ((List.range c.transactions.length).map pidOf)
    (s.server.mailbox.beginBatch c.transactions.length).2

/-- The floor when the teller map has been published. -/
def publishedOf : Floor :=
  ((s.floorOf c pidOf).publish s.directory c.pid).turn

/-- The floor when the program has got its teller map. -/
def learnedOf : Floor :=
  match c.awaitMap (s.publishedOf c pidOf).volume with
  | .ok (_, v) => (s.publishedOf c pidOf).onVolume v
  | .error _ => s.publishedOf c pidOf

/-- What the first `k` clients hear, what keeps the program from going on
and the floor they leave. -/
def visits (k : Nat) : List (List UInt8) × Option Halt × Floor :=
  converseAll s.directory c c.pid pidOf (s.floorOf c pidOf).map (s.learnedOf c pidOf) 0
    (c.transactions.take k)

/-- Where the pipes of the program stand. -/
def premises : Premises where
  client := c
  directory := s.directory
  place name := ((s.volume.openWritable (Path.join c.directory name)).toOption).getD []
  ledger := s.server.books.ledger.file.place

/-- Nothing keeps the clients of the program from being served. The program
has found the server, the server waits for a batch, and no other batch and
no line that is not finished stands before its own. The program and the
server find the same pipes, each on its own way, and these are empty; the
pipe of the server is another one, and the ledger is a file. There is room
for the batch. Every client gets a teller that runs as a process of its own
and has time to wait. Nobody asks the server to stop, no teller of an earlier
batch is left, and what such a one may have left in the slot is its own. -/
structure Unhindered : Prop where
  server : c.server = s.fifo.place
  fifo : s.volume.node? s.fifo.place = some .pipe
  held : s.held = false
  waiting : s.enrollment.waiting = []
  unfinished : Text.unfinished s.enrollment.pending = []
  transactions : c.transactions ≠ []
  capacity : c.transactions.length ≤ s.server.mailbox.capacity
  distinct : ∀ j < c.transactions.length, ∀ k < c.transactions.length,
    pidOf j = pidOf k → j = k
  positive : ∀ k < c.transactions.length, 0 < (pidOf k).toInt
  pipes : ∀ name ∈ Channels.names c.pid c.transactions.length, ∃ place,
    s.volume.openWritable (Path.join c.directory name) = .ok place ∧
      s.volume.openWritable (Path.join s.directory name) = .ok place ∧
      s.volume.node? place = some .pipe ∧ place ≠ s.fifo.place
  ledger : ∃ bytes, s.volume.node? s.server.books.ledger.file.place = some (.file bytes)
  patience : s.server.patience.isZero = false
  deadline : s.server.patience.hasEnd s.server.machine.uptime = true
  signal : s.server.signal = none
  tellers : s.server.tellers = []
  slot : ∀ p ∈ s.server.mailbox.slot, ∀ k < c.transactions.length, p.pid ≠ pidOf k

theorem size_batchOf (pid : Int32) (xs : List Transaction) : (batchOf pid xs).size = xs.length :=
  List.length_map _

theorem map_floorOf :
    (s.floorOf c pidOf).map = assignmentsFrom 0 (c.transactions.map (·.bankId.text))
      ((List.range c.transactions.length).map pidOf) := rfl

/-- The teller map: the client at place `k` has the teller of number `k`
under its own id. -/
theorem getElem?_map_floorOf (k : Nat) :
    (s.floorOf c pidOf).map[k]? =
      c.transactions[k]?.map fun x => ⟨UInt32.ofNat k, x.bankId.text, pidOf k⟩ := by
  rw [map_floorOf, getElem?_assignmentsFrom]
  cases hx : c.transactions[k]? with
  | none => simp [hx]
  | some x =>
    obtain ⟨hk, rfl⟩ := List.getElem?_eq_some_iff.mp hx
    simp [hk]

variable {c} in
theorem mem_map_floorOf {k : Nat} {x : Transaction} (hx : c.transactions[k]? = some x) :
    ⟨UInt32.ofNat k, x.bankId.text, pidOf k⟩ ∈ (s.floorOf c pidOf).map := by
  have hmap := s.getElem?_map_floorOf c pidOf k
  rw [hx] at hmap
  exact List.mem_of_getElem? hmap

theorem map_pid_floorOf :
    (s.floorOf c pidOf).map.map Assignment.pid =
      (List.range c.transactions.length).map pidOf := by
  rw [map_floorOf]
  exact map_pid_assignmentsFrom 0 (by simp)

theorem length_map_floorOf : (s.floorOf c pidOf).map.length = c.transactions.length := by
  have hpids := congrArg List.length (s.map_pid_floorOf c pidOf)
  simpa using hpids

variable {c pidOf} in
theorem isOwn_of_sends {e : Envelope} (he : c.Sends pidOf e) :
    Floor.IsOwn (s.floorOf c pidOf).map e := by
  obtain ⟨k, hx, hteller, hpid⟩ := he
  exact ⟨_, s.mem_map_floorOf pidOf hx, hteller, hpid, rfl⟩

variable {c} in
/-- The client program finds every teller in the map. -/
theorem isSome_byTeller? {k : Nat} (hk : k < c.transactions.length) :
    (TellerMap.byTeller? (s.floorOf c pidOf).map (UInt32.ofNat k)).isSome = true := by
  rw [TellerMap.byTeller?, List.find?_isSome]
  exact ⟨_, s.mem_map_floorOf pidOf (List.getElem?_eq_getElem hk), by simp⟩

theorem slot_floorOf : (s.floorOf c pidOf).mailbox.slot = s.server.mailbox.slot :=
  s.server.mailbox.slot_beginBatch _

theorem turnedAway_floorOf :
    (s.floorOf c pidOf).books.turnedAway = s.server.books.turnedAway := rfl

variable {s c pidOf}

/-! ## Before the first client -/

namespace Unhindered

variable (h : s.Unhindered c pidOf)
include h

theorem nodup_map_floorOf : ((s.floorOf c pidOf).map.map Assignment.pid).Nodup := by
  rw [map_pid_floorOf]
  refine List.Nodup.map_on (fun j hj k hk => ?_) List.nodup_range
  exact h.distinct j (List.mem_range.mp hj) k (List.mem_range.mp hk)

theorem length_lt : c.transactions.length < UInt32.size := by
  have hpids : (((List.range c.transactions.length).map fun k =>
      (⟨pidOf k, none, .unbounded⟩ : Seat)).map Seat.pid).Nodup := by
    rw [List.map_map]
    have hnodup := h.nodup_map_floorOf
    rwa [map_pid_floorOf] at hnodup
  have hlength := length_lt_of_pids hpids ?_
  · simpa using hlength
  · intro seat hseat
    obtain ⟨k, hk, rfl⟩ := List.mem_map.mp hseat
    exact h.positive k (List.mem_range.mp hk)

/-- No two clients have the same number. -/
theorem toNat_place {k : Nat} (hk : k < c.transactions.length) : (UInt32.ofNat k).toNat = k :=
  UInt32.toNat_ofNat_of_lt' (Nat.lt_trans hk h.length_lt)

/-- All pipes are there and hold nothing. -/
theorem furnished : (s.premises c).Furnished s.volume fun _ => [] where
  here name hname := by
    obtain ⟨place, hhere, _⟩ := h.pipes name hname
    simp [premises, hhere, Except.toOption]
  there name hname := by
    obtain ⟨place, hhere, hthere, _⟩ := h.pipes name hname
    simp [premises, hhere, hthere, Except.toOption]
  holds name hname := by
    obtain ⟨place, hhere, _, hnode, _⟩ := h.pipes name hname
    simp [premises, hhere, hnode, Except.toOption, Node.pipe]
  ledger := h.ledger

theorem place_ne_fifo :
    ∀ name ∈ (s.premises c).names, (s.premises c).place name ≠ s.fifo.place := by
  intro name hname
  obtain ⟨place, hhere, _, _, hother⟩ := h.pipes name hname
  simpa [premises, hhere, Except.toOption] using hother

/-- The server reads from its pipe what the program has written to it. -/
theorem told_eq :
    ∃ v, s.told c = { s.onVolume v with enrollment := s.enrollment.receive c.enrollment } ∧
      (s.premises c).Furnished v fun _ => [] := by
  have hsent : s.volume.send s.fifo.place c.enrollment =
      s.volume.put s.fifo.place (.fifo c.enrollment) := Volume.send_of_fifo h.fifo _
  have hroot := Volume.ne_root_of_node? h.fifo nofun
  have hholds := s.volume.node?_put_self hroot (.fifo c.enrollment)
  refine ⟨(s.volume.put s.fifo.place (.fifo c.enrollment)).put s.fifo.place .pipe, ?_, ?_⟩
  · rw [told, Enrolled.enroll, h.server, hsent, collect]
    simp only [onVolume, volume] at hholds ⊢
    rw [Volume.read_of_fifo hholds]
  · exact (h.furnished.put_other h.fifo h.place_ne_fifo _).put_other hholds h.place_ne_fifo _

end Unhindered

/-! ## Between two clients -/

/-- What the teller of a client finds that has asked: the transaction of the
client, and room for an answer. -/
def seatOf (process : Int32) (x : Transaction) : Seat :=
  ⟨process, some (.ofBytes (Channels.line x)), .unbounded⟩

theorem submission?_seatOf {machine : Machine} {patience : Span}
    (h : patience.hasEnd machine.uptime = true) (process : Int32) (x : Transaction) :
    (seatOf process x).submission? machine patience = some x := by
  rw [Seat.submission?, if_pos h]
  simp [seatOf, Teller.readRequest_ofBytes, Except.toOption]

/-- What a client asks is put in its pipe and taken out by its teller, and what
the teller writes is put in the other pipe and heard by the client. So in
between the teller comes forward with this very request, on a volume on which
no pipe holds anything. -/
theorem exists_converse_eq {p : Premises} {f : Floor} {k : Nat}
    (h : p.Furnished f.volume fun _ => []) (hk : k < p.client.transactions.length)
    (process : Int32) (x : Transaction) :
    ∃ v, p.Furnished v (fun _ => []) ∧ ∀ {sink : Sink} {g : Floor} {r : Response},
      (f.onVolume v).comeForward (.ofNat k) (seatOf process x) = (some sink, g) →
        sink.taken = Channels.line r → p.Furnished g.volume (fun _ => []) →
        ∃ w, p.Furnished w (fun _ => []) ∧
          converse p.directory p.client p.client.pid process f k x =
            (.ok (Channels.line r), g.onVolume w) := by
  have hrequest := Premises.requestName_mem hk
  have hresponse := Premises.responseName_mem hk
  have hasked := h.ask hk x
  have hsent := h.send_first hrequest (Channels.line x)
  generalize f.volume.send (p.place (p.requestName k)) (Channels.line x) = v₁ at hasked hsent
  have hserve := Floor.serveTeller_eq (f := f.onVolume v₁) hsent hk process
  rw [Function.update_self] at hserve
  refine ⟨v₁.drain (p.place (p.requestName k)), hsent.drain_last hrequest, ?_⟩
  intro sink g r hcome htaken hg
  have hcome : ((f.onVolume v₁).onVolume ((f.onVolume v₁).volume.drain
      (p.place (p.requestName k)))).comeForward (.ofNat k)
      ⟨process, some (.ofBytes (Channels.line x)), .unbounded⟩ = (some sink, g) := hcome
  simp only [hcome, Option.map_some, Option.getD_some, htaken] at hserve
  have hanswered := hg.send_first hresponse (Channels.line r)
  have hheard := hanswered.hear hk (Function.update_self ..)
  refine ⟨_, hanswered.drain_last hresponse, ?_⟩
  unfold converse
  simp only [hasked, hserve]
  have hheard : p.client.hear (g.onVolume (g.volume.send (p.place (p.responseName k))
      (Channels.line r))).volume k = _ := hheard
  simp only [hheard]
  rfl

/-- The first `k` clients of the program have been served, and the floor
waits for the others. No pipe holds anything, and what has happened is what
the tellers of the program and the server can do. -/
structure Underway (s : RunningServer) (c : Enrolled) (pidOf : Nat → Int32) (f : Floor)
    (k : Nat) : Prop where
  ready : f.Ready (s.floorOf c pidOf).map c.transactions.length
    ((s.floorOf c pidOf).map.drop k)
  patience : f.patience = s.server.patience
  machine : f.machine = s.server.machine
  used : (s.premises c).Used (fun _ => []) f.books
  leads : Floor.Leads (c.Sends pidOf) (s.floorOf c pidOf) f

namespace Unhindered

variable (h : s.Unhindered c pidOf)
include h

theorem used_floorOf : (s.premises c).Used (fun _ => []) (s.floorOf c pidOf).books := by
  obtain ⟨v, htold, hfurnished⟩ := h.told_eq
  have hbooks : (s.floorOf c pidOf).books = (s.told c).server.books := rfl
  rw [hbooks, htold]
  exact ⟨rfl, hfurnished⟩

theorem roll_floorOf : (s.floorOf c pidOf).roll =
    ⟨(s.floorOf c pidOf).map.map startedTeller, .blank c.transactions.length⟩ := by
  have hroll : (s.floorOf c pidOf).roll =
      ⟨s.server.tellers ++ (s.floorOf c pidOf).map.map startedTeller,
        .blank (batchOf c.pid c.transactions).size⟩ := rfl
  rw [hroll, h.tellers, Batch.size, batchOf, List.length_map]
  rfl

/-- The map goes to the pipe of the program. -/
theorem publish_floorOf :
    ∃ v, (s.floorOf c pidOf).publish s.directory c.pid = (s.floorOf c pidOf).onVolume v ∧
      (s.premises c).Furnished v (Function.update (fun _ => []) (s.premises c).mapName
        (Channels.line (s.floorOf c pidOf).map)) := by
  have hfurnished := h.used_floorOf.furnished
  exact ⟨_, Floor.publish_eq (p := s.premises c) hfurnished,
    hfurnished.send_first (s.premises c).mapName_mem _⟩

/-- When the map has been published, its pipe holds it, and the floor is
ready for the first client. -/
theorem published :
    let p := s.premises c
    let f := s.publishedOf c pidOf
    f.Ready (s.floorOf c pidOf).map c.transactions.length (s.floorOf c pidOf).map ∧
      f.books.table = s.server.books.table ∧ f.patience = s.server.patience ∧
      f.machine = s.server.machine ∧
      p.Used (Function.update (fun _ => []) p.mapName (Channels.line (s.floorOf c pidOf).map))
        f.books ∧
      Floor.Leads (c.Sends pidOf) (s.floorOf c pidOf) f := by
  intro p f
  obtain ⟨v, hpublish, hfurnished⟩ := h.publish_floorOf
  have hf : f = ((s.floorOf c pidOf).onVolume v).turn := congrArg Floor.turn hpublish
  have hne : (s.floorOf c pidOf).map ≠ [] := by
    rw [← List.length_pos_iff, length_map_floorOf, List.length_pos_iff]
    exact h.transactions
  have hslot : ∀ posted ∈ (s.floorOf c pidOf).mailbox.slot,
      posted.pid ∉ (s.floorOf c pidOf).map.map Assignment.pid := by
    rw [slot_floorOf, map_pid_floorOf]
    intro posted hposted hmem
    obtain ⟨k, hk, heq⟩ := List.mem_map.mp hmem
    exact h.slot posted hposted k (List.mem_range.mp hk) heq.symm
  have hmailbox : (s.floorOf c pidOf).mailbox =
      { s.server.mailbox.enter with
        answers := []
        active := c.transactions.length % UInt32.size } :=
    congrArg Prod.snd (beginBatch_of_le h.capacity)
  obtain ⟨hready, htable, hpatience, _⟩ := Floor.ready_turn
    (f := (s.floorOf c pidOf).onVolume v) (n := c.transactions.length) hne rfl h.signal hslot
    (by rw [Floor.onVolume, hmailbox]; exact Nat.mod_eq_of_lt h.length_lt)
    (by rw [Floor.onVolume, hmailbox]; exact h.capacity) h.roll_floorOf
    (children_start _)
  have hreaches : Floor.Reaches (c.Sends pidOf) ((s.floorOf c pidOf).onVolume v) f :=
    hf ▸ Floor.reaches_turn _
  rw [← hf] at hready htable hpatience
  refine ⟨hready, htable, hpatience, ?_, ?_, ?_⟩
  · rw [hf, Floor.machine_turn]
    rfl
  · exact hreaches.used ⟨h.used_floorOf.ledger, hfurnished⟩
  · exact (Floor.Elsewhere.leads ⟨v, rfl⟩).trans hreaches.leads

/-- The program gets its map, and no pipe holds anything any more. -/
theorem learned :
    ∃ v, c.awaitMap (s.publishedOf c pidOf).volume =
        .ok (Channels.line (s.floorOf c pidOf).map, v) ∧
      s.learnedOf c pidOf = (s.publishedOf c pidOf).onVolume v ∧
      s.Underway c pidOf (s.learnedOf c pidOf) 0 ∧
      (s.learnedOf c pidOf).books.table = s.server.books.table := by
  obtain ⟨hready, htable, hpatience, hmachine, hused, hleads⟩ := h.published
  unfold learnedOf
  generalize s.publishedOf c pidOf = f at hready htable hpatience hmachine hused hleads ⊢
  have hawait := hused.furnished.awaitMap (Function.update_self ..)
  have hdrained := hused.furnished.drain_last (s.premises c).mapName_mem
  generalize f.books.volume.drain _ = v at hawait hdrained
  have hawait : c.awaitMap f.volume = .ok (Channels.line (s.floorOf c pidOf).map, v) := hawait
  simp only [hawait]
  refine ⟨v, rfl, rfl, ?_, htable⟩
  exact
    { ready := hready.onVolume v
      patience := hpatience
      machine := hmachine
      used := ⟨hused.ledger, hdrained⟩
      leads := hleads.trans (Floor.Elsewhere.leads ⟨v, rfl⟩) }

end Unhindered

/-! ## One client after another -/

/-- A teller that has an answer writes it as a line. -/
theorem taken_heard (r : Response) :
    (Teller.writeResponse .unbounded r).2.taken = Channels.line r := by
  have hroom : ∀ room ∈ Sink.unbounded.room, (Channels.line r).length ≤ room := nofun
  exact Teller.taken_writeResponse hroom

/-- What the teller of a client posts is the transaction of the client. -/
theorem reaches_seatOf (f : Floor) {k : Nat} {x : Transaction}
    (hx : c.transactions[k]? = some x) :
    Floor.Reaches (c.Sends pidOf) f (f.comeForward (.ofNat k) (seatOf (pidOf k) x)).2 := by
  refine Floor.reaches_comeForward _ _ _ fun source x' hsource hread => ?_
  cases hsource
  rw [Teller.readRequest_ofBytes] at hread
  cases hread
  exact ⟨k, hx, rfl, rfl⟩

namespace Underway

variable {f : Floor} {k : Nat}

/-- The next teller is that of the client at place `k`, and it is none of
those after it. -/
theorem next (hf : s.Underway c pidOf f k) (h : s.Unhindered c pidOf) {x : Transaction}
    (hx : c.transactions[k]? = some x) :
    f.Ready (s.floorOf c pidOf).map c.transactions.length
        (⟨UInt32.ofNat k, x.bankId.text, pidOf k⟩ :: (s.floorOf c pidOf).map.drop (k + 1)) ∧
      pidOf k ∉ ((s.floorOf c pidOf).map.drop (k + 1)).map Assignment.pid := by
  have hnext := s.getElem?_map_floorOf c pidOf k
  rw [hx] at hnext
  obtain ⟨hlength, hnext⟩ := List.getElem?_eq_some_iff.mp hnext
  have hdrop := List.drop_eq_getElem_cons hlength
  rw [hnext] at hdrop
  have hpids := h.nodup_map_floorOf.sublist
    ((List.drop_sublist k (s.floorOf c pidOf).map).map Assignment.pid)
  rw [hdrop, List.map_cons, List.nodup_cons] at hpids
  exact ⟨hdrop ▸ hf.ready, hpids.1⟩

/-- **A client is served by its teller**: what it hears is the answer of the
accounts, and the floor waits for the others. -/
theorem converse (hf : s.Underway c pidOf f k) (h : s.Unhindered c pidOf) {x : Transaction}
    (hx : c.transactions[k]? = some x) :
    ∃ g, RunningServer.converse s.directory c c.pid (pidOf k) f k x =
        (.ok (Channels.line (f.books.table.submitOwn x).1), g) ∧
      g.books.table = (f.books.table.submitOwn x).2 ∧ s.Underway c pidOf g (k + 1) := by
  have hk := (List.getElem?_eq_some_iff.mp hx).1
  obtain ⟨v, hfurnished, hconverse⟩ :=
    exists_converse_eq (p := s.premises c) hf.used.furnished hk (pidOf k) x
  obtain ⟨hready, hpids⟩ := hf.next h hx
  have hsubmission : (seatOf (pidOf k) x).submission? (f.onVolume v).machine
      (f.onVolume v).patience = some x :=
    submission?_seatOf (by rw [Floor.onVolume, hf.machine, hf.patience]; exact h.deadline) _ x
  obtain ⟨hsink, hafter, htable, hpatience, _⟩ := (hready.onVolume v).comeForward hpids
    h.nodup_map_floorOf (s.mem_map_floorOf pidOf hx) (by rw [h.toNat_place hk]; exact hk)
    (by rw [Floor.onVolume, hf.patience]; exact h.patience) (seatOf (pidOf k) x) rfl
  have hmachine := Floor.machine_comeForward (f.onVolume v) (.ofNat k) (seatOf (pidOf k) x)
  have hreaches : Floor.Reaches (c.Sends pidOf) (f.onVolume v) _ :=
    reaches_seatOf (f.onVolume v) hx
  have hused := hreaches.used (p := s.premises c) ⟨hf.used.ledger, hfurnished⟩
  rw [hsubmission] at hsink htable
  rw [Table.submitOwn_eq_answer]
  generalize (f.onVolume v).comeForward (.ofNat k) (seatOf (pidOf k) x) = out at *
  obtain ⟨w, hempty, hheard⟩ := hconverse (Prod.ext hsink rfl) (taken_heard _) hused.furnished
  exact ⟨_, hheard, htable,
    { ready := hafter.onVolume w
      patience := hpatience.trans hf.patience
      machine := hmachine.trans hf.machine
      used := ⟨hused.ledger, hempty⟩
      leads := (hf.leads.trans (Floor.Elsewhere.leads ⟨v, rfl⟩)).trans
        (hreaches.leads.trans (Floor.Elsewhere.leads ⟨w, rfl⟩)) }⟩

/-- Client after client, what they hear are the answers of the accounts. -/
theorem converseAll (hf : s.Underway c pidOf f k) (h : s.Unhindered c pidOf)
    {xs : List Transaction} (hxs : ∀ j x, xs[j]? = some x → c.transactions[k + j]? = some x) :
    ∃ g, RunningServer.converseAll s.directory c c.pid pidOf (s.floorOf c pidOf).map f k xs =
        ((f.books.table.submitAll xs).1.map Channels.line, none, g) ∧
      g.books.table = (f.books.table.submitAll xs).2 ∧ s.Underway c pidOf g (k + xs.length) := by
  induction xs generalizing f k with
  | nil => exact ⟨f, rfl, rfl, hf⟩
  | cons x xs ih =>
    have hx : c.transactions[k]? = some x := hxs 0 x rfl
    obtain ⟨g, hheard, htable, hg⟩ := hf.converse h hx
    have hrest : ∀ j y, xs[j]? = some y → c.transactions[k + 1 + j]? = some y := by
      intro j y hy
      rw [Nat.add_assoc, Nat.add_comm 1 j]
      exact hxs (j + 1) y hy
    obtain ⟨g', hothers, htables, hg'⟩ := ih hg hrest
    have hteller := s.isSome_byTeller? pidOf (List.getElem?_eq_some_iff.mp hx).1
    refine ⟨g', ?_, ?_, ?_⟩
    · simp only [RunningServer.converseAll, hteller, if_true, hheard, hothers]
      rw [htable]
      rfl
    · rw [htables, htable]
      rfl
    · rw [List.length_cons, Nat.add_comm xs.length, ← Nat.add_assoc]
      exact hg'

/-- When all clients have been served, the floor waits for nobody. -/
theorem isAwaiting (hf : s.Underway c pidOf f c.transactions.length) :
    f.roll.isAwaiting = false := by
  obtain ⟨gone, htellers, hgone⟩ := hf.ready.tellers
  rw [← s.length_map_floorOf c pidOf, List.drop_length, List.map_nil,
    List.append_nil] at htellers
  rw [Roll.isAwaiting, htellers, List.any_eq_false]
  intro t ht
  rw [(hgone t ht).1]
  exact Bool.false_ne_true

theorem release_eq {t : RunningServer} (htellers : t.server.tellers = [])
    (hf : s.Underway c pidOf f c.transactions.length) :
    t.release f = { t with server := finish f } := by
  rw [release, htellers, Floor.lapse]
  simp only [hf.isAwaiting, Bool.false_eq_true, if_false]

end Underway

/-! ## The whole program -/

/-- Client and server agree about the clients of a program. -/
structure Agrees (s : RunningServer) (c : Enrolled) (pidOf : Nat → Int32) : Prop where
  /-- The batch that the server reads from its pipe is the one that the
  program has written, and there is no other. -/
  enrolled : (s.told c).enrollment.next.1 = some (batchOf c.pid c.transactions) ∧
    (s.told c).enrollment.next.2.waiting = []
  /-- The floor on which it is served is the one that is started for it. -/
  started : (s.told c).server.startBatch (batchOf c.pid c.transactions)
    ((List.range c.transactions.length).map pidOf) = .ok (s.floorOf c pidOf)
  /-- Every client is enrolled under its own id, with the teller of its
  place. -/
  assigned : ∀ k, (s.floorOf c pidOf).map[k]? =
    c.transactions[k]?.map fun x => Assignment.mk (UInt32.ofNat k) x.bankId.text (pidOf k)
  numbered : ∀ k < c.transactions.length, (UInt32.ofNat k).toNat = k
  /-- No two pipes of the program have the same name. -/
  named : (Channels.names c.pid c.transactions.length).Nodup
  /-- What the program reads from its own pipe is the teller map. -/
  learned : ∃ mapLine v, c.awaitMap (s.publishedOf c pidOf).volume = .ok (mapLine, v) ∧
    mapOf? mapLine = some (s.floorOf c pidOf).map
  /-- When it is the turn of a client, its teller reads the transaction of
  the client from its own pipe, and no other teller finds anything. -/
  requested : ∀ k x, c.transactions[k]? = some x → ∃ v,
    c.ask (s.visits c pidOf k).2.2.volume k x = .ok v ∧
      (∃ source answers, Channels.open? v s.directory c.pid (UInt32.ofNat k) =
        .ok (source, answers) ∧ Teller.readRequest source = .ok x) ∧
      ∀ j < c.transactions.length, j ≠ k → ∃ answers,
        Channels.open? v s.directory c.pid (UInt32.ofNat j) = .ok (.ofBytes [], answers)
  /-- In whatever order such tellers post and the server takes its turns, a
  payload of theirs comes from a teller of the batch and is about its
  client. -/
  mandated : ∀ moves, (∀ e, .post e ∈ moves → c.Sends pidOf e) →
    ∀ map p answer, .took map p answer ∈ (s.floorOf c pidOf).journal moves →
      s.server.mailbox.slot = some p ∨
        ∃ e, p = e.posted ∧ c.Sends pidOf e ∧ Books.hasMandate map e = true
  /-- If nothing else was in the slot, nothing is turned away. -/
  quiet : ∀ moves, (∀ e, .post e ∈ moves → c.Sends pidOf e) → s.server.mailbox.slot = none →
    ((s.floorOf c pidOf).play moves).books.turnedAway = s.server.books.turnedAway
  /-- What the server and the tellers do is among this. -/
  played : ∃ moves g, (∀ e, .post e ∈ moves → c.Sends pidOf e) ∧
    ((s.floorOf c pidOf).play moves).Elsewhere g ∧
    (s.serveClient c pidOf).2.server = finish g
  /-- So nothing is turned away here. -/
  welcome : s.server.mailbox.slot = none →
    (s.serveClient c pidOf).2.server.books.turnedAway = s.server.books.turnedAway
  /-- Every client hears the answer of the accounts, and nothing keeps the
  program from going on. -/
  verdicts : (s.visits c pidOf c.transactions.length).1.map verdict? =
    (s.server.books.table.submitAll c.transactions).1.map some
  unhalted : (s.visits c pidOf c.transactions.length).2.1 = none
  table : (s.serveClient c pidOf).2.server.books.table =
    (s.server.books.table.submitAll c.transactions).2
  /-- The answers are what it prints. -/
  outcome : (s.serveClient c pidOf).1 = .success (c.output ++
    verdictLines 0 c.transactions (s.server.books.table.submitAll c.transactions).1 ++
      "exiting..\n")

namespace Unhindered

variable (h : s.Unhindered c pidOf)
include h

/-- The first `k` clients hear the answers of the accounts. -/
theorem visits_eq {k : Nat} (hk : k ≤ c.transactions.length) :
    ∃ g, s.visits c pidOf k =
        ((s.server.books.table.submitAll (c.transactions.take k)).1.map Channels.line, none, g) ∧
      g.books.table = (s.server.books.table.submitAll (c.transactions.take k)).2 ∧
      s.Underway c pidOf g k := by
  obtain ⟨_, _, _, hfirst, htable⟩ := h.learned
  have hprefix : ∀ j x, (c.transactions.take k)[j]? = some x →
      c.transactions[0 + j]? = some x := by
    intro j x hx
    rw [Nat.zero_add]
    rw [List.getElem?_take] at hx
    split at hx
    · exact hx
    · cases hx
  obtain ⟨g, hheard, htables, hg⟩ := hfirst.converseAll h hprefix
  rw [htable] at hheard htables
  rw [List.length_take, Nat.min_eq_left hk, Nat.zero_add] at hg
  exact ⟨g, hheard, htables, hg⟩

theorem startBatch_eq :
    (s.told c).server.startBatch (batchOf c.pid c.transactions)
      ((List.range c.transactions.length).map pidOf) = .ok (s.floorOf c pidOf) := by
  obtain ⟨v, htold, _⟩ := h.told_eq
  have hclients : (batchOf c.pid c.transactions).isEmpty = false := by
    simpa [batchOf, Batch.isEmpty] using h.transactions
  have hroom : (batchOf c.pid c.transactions).size ≤ (s.told c).server.mailbox.capacity := by
    rw [htold, Batch.size, batchOf, List.length_map]
    exact h.capacity
  rw [startBatch_of_room hclients hroom, size_batchOf]
  rfl

/-- The teller of the client whose turn it is reads the transaction of the
client, and no other teller finds a request. -/
theorem requested (k : Nat) (x : Transaction) (hx : c.transactions[k]? = some x) :
    ∃ v, c.ask (s.visits c pidOf k).2.2.volume k x = .ok v ∧
      (∃ source answers, Channels.open? v s.directory c.pid (UInt32.ofNat k) =
        .ok (source, answers) ∧ Teller.readRequest source = .ok x) ∧
      ∀ j < c.transactions.length, j ≠ k → ∃ answers,
        Channels.open? v s.directory c.pid (UInt32.ofNat j) = .ok (.ofBytes [], answers) := by
  have hk := (List.getElem?_eq_some_iff.mp hx).1
  obtain ⟨g, hvisits, _, hg⟩ := h.visits_eq (Nat.le_of_lt hk)
  rw [hvisits]
  have hfurnished := hg.used.furnished
  have hsent := hfurnished.send_first (Premises.requestName_mem hk) (Channels.line x)
  refine ⟨_, hfurnished.ask (p := s.premises c) hk x, ?_, fun j hj hne => ?_⟩
  · have hopens := hsent.opens hk
    rw [Function.update_self] at hopens
    exact ⟨_, _, hopens, Teller.readRequest_ofBytes x⟩
  · have hopens := hsent.opens hj
    have hother : (s.premises c).requestName j ≠ (s.premises c).requestName k := by
      intro heq
      have hnumber := congrArg UInt32.toNat (Channels.tellerName_injective _ _ heq)
      rw [h.toNat_place hj, h.toNat_place hk] at hnumber
      exact hne hnumber
    rw [Function.update_of_ne hother] at hopens
    exact ⟨_, hopens⟩

/-- What the program is told, and what the server goes on with. -/
theorem serveBatch_eq {t : RunningServer} (hserver : t.server = (s.told c).server)
    (hdirectory : t.directory = s.directory) :
    t.serveBatch c pidOf (batchOf c.pid c.transactions) =
      (.success (c.output ++
        verdictLines 0 c.transactions (s.server.books.table.submitAll c.transactions).1 ++
          "exiting..\n"), t.release (s.visits c pidOf c.transactions.length).2.2) := by
  obtain ⟨v, hawait, hlearned, _⟩ := h.learned
  obtain ⟨g, hvisits, _⟩ := h.visits_eq (Nat.le_refl _)
  have hall : RunningServer.converseAll s.directory c c.pid pidOf (s.floorOf c pidOf).map
      ((s.publishedOf c pidOf).onVolume v) 0 c.transactions =
        s.visits c pidOf c.transactions.length := by
    rw [visits, hlearned, List.take_length]
  have hstart := h.startBatch_eq
  rw [← hserver] at hstart
  have hprinted := reports_lines (s.floorOf c pidOf).map 0
    (Table.length_submitAll s.server.books.table c.transactions)
    fun k hk => by rw [Nat.zero_add]; exact s.isSome_byTeller? pidOf hk
  rw [hvisits, List.take_length] at hall
  have hpublished : ((s.floorOf c pidOf).publish s.directory c.pid).turn =
      s.publishedOf c pidOf := rfl
  have hpid : (batchOf c.pid c.transactions).pid = c.pid := rfl
  unfold serveBatch
  rw [size_batchOf, hstart]
  simp only [hdirectory, hpid, hpublished, hawait, mapOf?_line, hall, finish_line, hprinted,
    hvisits]

/-- The server finds the batch of the program. -/
theorem exists_serveClient_eq :
    ∃ t : RunningServer, t.server = (s.told c).server ∧ t.directory = s.directory ∧
      s.serveClient c pidOf = t.serveBatch c pidOf (batchOf c.pid c.transactions) := by
  obtain ⟨v, htold, _⟩ := h.told_eq
  have hheld : (s.onVolume (c.enroll s.volume)).held = false := h.held
  have hnext : (s.told c).enrollment.next =
      (some (batchOf c.pid c.transactions), (s.told c).enrollment.next.2) := by
    rw [htold]
    exact Prod.ext (Enrollment.next_receive_line h.waiting h.unfinished _).1 rfl
  refine ⟨{ s.told c with enrollment := (s.told c).enrollment.next.2 }, rfl, ?_, ?_⟩
  · rw [htold]
    rfl
  · rw [serveClient]
    simp only [hheld, Bool.false_eq_true, if_false]
    rw [← told, hnext]

/-- The program ends when it has printed the answers. -/
theorem serveClient_eq :
    (s.serveClient c pidOf).1 = .success (c.output ++
        verdictLines 0 c.transactions (s.server.books.table.submitAll c.transactions).1 ++
          "exiting..\n") ∧
      (s.serveClient c pidOf).2.server = finish (s.visits c pidOf c.transactions.length).2.2 := by
  obtain ⟨v, htold, _⟩ := h.told_eq
  obtain ⟨g, hvisits, _, hg⟩ := h.visits_eq (Nat.le_refl _)
  obtain ⟨t, hserver, hdirectory, hclient⟩ := h.exists_serveClient_eq
  have htellers : t.server.tellers = [] := by
    rw [hserver, htold]
    exact h.tellers
  rw [hclient, h.serveBatch_eq hserver hdirectory, hvisits, hg.release_eq htellers]
  exact ⟨rfl, rfl⟩

end Unhindered

/-- **Client and server agree.** The batch, the map, the requests and the
answers are read from the pipes as they were written, every client is known
by its place and its own id, no payload is turned away, and the answers that
the program prints are those that the accounts give when the transactions
are submitted one after another. -/
theorem serveClient_agrees (h : s.Unhindered c pidOf) : s.Agrees c pidOf := by
  obtain ⟨houtcome, hserver⟩ := h.serveClient_eq
  obtain ⟨g, hvisits, htable, hg⟩ := h.visits_eq (Nat.le_refl _)
  rw [List.take_length] at hvisits htable
  obtain ⟨moves, hposts, hplayed⟩ := hg.leads
  rw [hvisits] at hserver
  have hquiet : ∀ moves, (∀ e, .post e ∈ moves → c.Sends pidOf e) →
      s.server.mailbox.slot = none →
      ((s.floorOf c pidOf).play moves).books.turnedAway = s.server.books.turnedAway := by
    intro moves hposts hslot
    rw [← s.turnedAway_floorOf c pidOf]
    exact Floor.turnedAway_play_of_own h.nodup_map_floorOf
      (fun e he => s.isOwn_of_sends (hposts e he)) ((s.slot_floorOf c pidOf).trans hslot)
  exact
    { enrolled := by
        obtain ⟨v, htold, _⟩ := h.told_eq
        rw [htold]
        exact Enrollment.next_receive_line h.waiting h.unfinished _
      started := h.startBatch_eq
      assigned := s.getElem?_map_floorOf c pidOf
      numbered := fun k hk => h.toNat_place hk
      named := Channels.nodup_names c.pid (Nat.le_of_lt h.length_lt)
      learned := by
        obtain ⟨v, hawait, _⟩ := h.learned
        exact ⟨_, v, hawait, mapOf?_line _⟩
      requested := h.requested
      mandated := by
        intro moves hposts map p answer htook
        rw [← s.slot_floorOf c pidOf]
        rcases Floor.mandated_of_mem_journal h.nodup_map_floorOf
          (fun e he => s.isOwn_of_sends (hposts e he)) htook with hleft | ⟨e, hp, he, hmandate⟩
        · exact .inl hleft
        · exact .inr ⟨e, hp, hposts e he, hmandate⟩
      quiet := hquiet
      played := ⟨moves, g, hposts, hplayed, hserver⟩
      welcome := by
        intro hslot
        rw [hserver, ← hquiet moves hposts hslot]
        obtain ⟨v, rfl⟩ := hplayed
        rfl
      verdicts := by
        rw [hvisits, List.map_map]
        exact List.map_congr_left fun r _ => Channels.received_line r
      unhalted := by rw [hvisits]
      table := by rw [hserver]; exact htable
      outcome := houtcome }

/-- Four clients: one opens an account, the next uses it, the third has an
id with a quotation mark, and the last opens an account that stays empty. A
payload of an earlier batch is still in the slot, a malformed line has come
before the batch, and the two sides write the directory of the pipes in
different ways. -/
theorem serveClient_agrees_four_clients :
    let table := (Table.empty.insertLoaded (.opened ⟨"é\"1", by decide⟩)).2
    let xs : List Transaction := [⟨⟨"N", by decide⟩, .deposit, 5⟩,
      ⟨⟨"BankID_2", by decide⟩, .withdraw, 3⟩, ⟨⟨"é\"1", by decide⟩, .deposit, 7⟩,
      ⟨⟨"N", by decide⟩, .deposit, 0⟩]
    let c : Enrolled := ⟨10, "server.fifo", ["server.fifo".toList], ".", xs, ""⟩
    let v : Volume := (makePipes (((Volume.scratch "/").put ["server.fifo".toList] .pipe).put
      ["a.bankLog".toList] (.file [])) c.pipes).2
    let s : RunningServer :=
      { server :=
          { books := ⟨table, ⟨"a.bankLog", "a", ⟨["a.bankLog".toList], 0⟩⟩, v,
              fun _ => ⟨"", none⟩, 0, []⟩
            mailbox := { Mailbox.ofCapacity 4 with slot := some ⟨0, 99, .blank⟩ }
            tellers := []
            signal := none
            patience := .ofSeconds 5 }
        enrollment := ⟨"/server.fifo", Text.encode "batch?\n".toList, 0⟩
        fifo := ⟨["server.fifo".toList], 0⟩
        directory := "/" }
    let pidOf (place : Nat) : Int32 := Int32.ofInt (11 + place)
    (table.submitAll xs).1 = [.success, .success, .success, .accountDeleted] ∧
    s.Unhindered c pidOf ∧ s.Agrees c pidOf := by
  intro table xs c v s pidOf
  have h : s.Unhindered c pidOf :=
    { server := rfl
      fifo := by decide +kernel
      held := rfl
      waiting := by decide +kernel
      unfinished := by decide +kernel
      transactions := List.cons_ne_nil _ _
      capacity := by decide
      distinct := by decide
      positive := by decide
      pipes := by
        have hpipes : ∀ name ∈ Channels.names c.pid c.transactions.length,
            s.volume.openWritable (Path.join c.directory name) = .ok [name.toList] ∧
              s.volume.openWritable (Path.join s.directory name) = .ok [name.toList] ∧
              s.volume.node? [name.toList] = some .pipe ∧ [name.toList] ≠ s.fifo.place := by
          decide +kernel
        exact fun name hname => ⟨[name.toList], hpipes name hname⟩
      ledger := ⟨[], by decide +kernel⟩
      patience := by decide
      deadline := by decide
      signal := rfl
      tellers := rfl
      slot := by
        rintro p ⟨⟩
        decide }
  exact ⟨by decide +kernel, h, serveClient_agrees h⟩

end Program.RunningServer

end CountingHouse
