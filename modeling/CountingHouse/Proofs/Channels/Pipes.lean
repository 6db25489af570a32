/-
CountingHouse.Proofs.Channels.Pipes — what is sent on a pipe stays there
until it is received.

A client program and the server share the pipes of the program. They may
write the directory of the pipes in different ways, as long as both find the
same pipes in it, and the ledger of the server has to be something else. On
such `Premises` it is enough to know what each pipe holds. Sending and
receiving change that for one pipe (`Furnished.send`, `Furnished.drain`), and
writing the ledger changes it for none (`Furnished.put_ledger`). With this, what
the client program sends is what the server and its tellers read, and the
other way round.
-/
import CountingHouse.Proofs.Channels
import CountingHouse.Proofs.Channels.Names
import Mathlib.Logic.Function.Basic

namespace CountingHouse

open Channels Program

/-- A client program, the directory of its pipes as the server writes it, and
where the pipes and the ledger of the server stand. -/
structure Premises where
  client : Client.Enrolled
  directory : String
  place : String → Place
  ledger : Place

namespace Premises

/-- The names of the pipes. -/
def names (p : Premises) : List String :=
  Channels.names p.client.pid p.client.transactions.length

/-- The name of the pipe for the teller map. -/
def mapName (p : Premises) : String :=
  clientName p.client.pid

/-- The name of the pipe for the request of a client. -/
def requestName (p : Premises) (k : Nat) : String :=
  Channels.requestName p.client.pid (.ofNat k)

/-- The name of the pipe for the answer to a client. -/
def responseName (p : Premises) (k : Nat) : String :=
  Channels.responseName p.client.pid (.ofNat k)

/-- Both sides find every pipe at its place, and it holds what `held` says.
The ledger is a file. -/
structure Furnished (p : Premises) (v : Volume) (held : String → List UInt8) : Prop where
  here : ∀ name ∈ p.names, v.openWritable (Path.join p.client.directory name) = .ok (p.place name)
  there : ∀ name ∈ p.names, v.openWritable (Path.join p.directory name) = .ok (p.place name)
  holds : ∀ name ∈ p.names, v.node? (p.place name) = some (.fifo (held name))
  ledger : ∃ bytes, v.node? p.ledger = some (.file bytes)

variable {p : Premises} {v : Volume} {held : String → List UInt8} {name : String} {k : Nat}

theorem mapName_mem (p : Premises) : p.mapName ∈ p.names :=
  List.mem_cons_self

theorem requestName_mem (hk : k < p.client.transactions.length) : p.requestName k ∈ p.names :=
  requestName_mem_names _ hk

theorem responseName_mem (hk : k < p.client.transactions.length) : p.responseName k ∈ p.names :=
  responseName_mem_names _ hk

namespace Furnished

variable (h : p.Furnished v held)
include h

/-! ## Places -/

/-- Different pipes stand at different places. -/
theorem place_inj {name' : String} (hname : name ∈ p.names) (hname' : name' ∈ p.names)
    (hplace : p.place name = p.place name') : name = name' := by
  have hlast := Volume.getLast?_of_openWritable_join (plain_of_mem_names hname) (h.here name hname)
  have hlast' := Volume.getLast?_of_openWritable_join (plain_of_mem_names hname')
    (h.here name' hname')
  rw [hplace, hlast'] at hlast
  exact (String.toList_inj.mp (Option.some.inj hlast)).symm

theorem place_ne_ledger (hname : name ∈ p.names) : p.place name ≠ p.ledger := by
  intro heq
  obtain ⟨bytes, hfile⟩ := h.ledger
  have hpipe := h.holds name hname
  rw [heq, hfile] at hpipe
  cases hpipe

/-! ## Changes -/

/-- The paths still lead to the pipes when something is put where no directory
is, so only what the pipes hold has to be looked at. -/
theorem put {place : Place} (node : Node) (hplace : v.node? place ≠ some .directory)
    (hnode : node ≠ .directory) {held' : String → List UInt8}
    (hholds : ∀ name ∈ p.names,
      (v.put place node).node? (p.place name) = some (.fifo (held' name)))
    (hledger : ∃ bytes, (v.put place node).node? p.ledger = some (.file bytes)) :
    p.Furnished (v.put place node) held' where
  here name hname := Volume.openWritable_put (h.here name hname) hplace hnode
  there name hname := Volume.openWritable_put (h.there name hname) hplace hnode
  holds := hholds
  ledger := hledger

/-- A pipe gets something else to hold. -/
theorem put_pipe (hname : name ∈ p.names) (bytes : List UInt8) :
    p.Furnished (v.put (p.place name) (.fifo bytes)) (Function.update held name bytes) := by
  have hpipe := h.holds name hname
  refine h.put (.fifo bytes) (by rw [hpipe]; nofun) nofun (fun other hother => ?_) ?_
  · by_cases hsame : other = name
    · subst hsame
      rw [v.node?_put_self (Volume.ne_root_of_node? hpipe nofun), Function.update_self]
    · rw [v.node?_put_of_ne fun heq => hsame (h.place_inj hother hname heq), h.holds other hother,
        Function.update_of_ne hsame]
  · rw [v.node?_put_of_ne (h.place_ne_ledger hname).symm]
    exact h.ledger

/-- The ledger is written. -/
theorem put_ledger (bytes : List UInt8) : p.Furnished (v.put p.ledger (.file bytes)) held := by
  obtain ⟨old, hfile⟩ := h.ledger
  refine h.put (.file bytes) (by rw [hfile]; nofun) nofun (fun name hname => ?_) ⟨bytes, ?_⟩
  · rw [v.node?_put_of_ne (h.place_ne_ledger hname), h.holds name hname]
  · rw [v.node?_put_self (Volume.ne_root_of_node? hfile nofun)]

/-- Some other pipe is used. -/
theorem put_other {place : Place} {old : List UInt8} (hold : v.node? place = some (.fifo old))
    (hplace : ∀ name ∈ p.names, p.place name ≠ place) (bytes : List UInt8) :
    p.Furnished (v.put place (.fifo bytes)) held := by
  obtain ⟨text, hfile⟩ := h.ledger
  have hledger : p.ledger ≠ place := by
    rintro heq
    rw [← heq, hfile] at hold
    cases hold
  refine h.put (.fifo bytes) (by rw [hold]; nofun) nofun (fun name hname => ?_) ⟨text, ?_⟩
  · rw [v.node?_put_of_ne (hplace name hname), h.holds name hname]
  · rw [v.node?_put_of_ne hledger, hfile]

theorem send (hname : name ∈ p.names) (bytes : List UInt8) :
    p.Furnished (v.send (p.place name) bytes)
      (Function.update held name (held name ++ bytes)) := by
  rw [Volume.send_of_fifo (h.holds name hname)]
  exact h.put_pipe hname _

theorem drain (hname : name ∈ p.names) :
    p.Furnished (v.drain (p.place name)) (Function.update held name []) := by
  rw [Volume.drain_of_fifo (h.holds name hname)]
  exact h.put_pipe hname _

omit h in
/-- What is sent when no pipe holds anything is all that there is. -/
theorem send_first (h : p.Furnished v fun _ => []) (hname : name ∈ p.names) (bytes : List UInt8) :
    p.Furnished (v.send (p.place name) bytes) (Function.update (fun _ => []) name bytes) :=
  h.send hname bytes

omit h in
/-- When the only pipe that holds something is drained, none does. -/
theorem drain_last {bytes : List UInt8}
    (h : p.Furnished v (Function.update (fun _ => []) name bytes)) (hname : name ∈ p.names) :
    p.Furnished (v.drain (p.place name)) fun _ => [] := by
  have hdrained := h.drain hname
  rwa [Function.update_idem, Function.update_eq_self] at hdrained

/-! ## Both sides -/

/-- The server publishes the teller map. -/
theorem publish (map : TellerMap) :
    Channels.publish v p.directory p.client.pid map = .ok (p.place p.mapName, line map) := by
  have hpipe : v.openWritable (clientPipe p.directory p.client.pid) = .ok (p.place p.mapName) :=
    h.there _ p.mapName_mem
  rw [Channels.publish, hpipe]
  rfl

/-- The client program sends the transaction of a client. -/
theorem ask (hk : k < p.client.transactions.length) (x : Transaction) :
    p.client.ask v k x = .ok (v.send (p.place (p.requestName k)) (line x)) := by
  have hpipe : v.openWritable (requestPipe p.client.directory p.client.pid (.ofNat k)) =
      .ok (p.place (p.requestName k)) := h.here _ (requestName_mem hk)
  rw [Client.Enrolled.ask, hpipe]
  rfl

theorem openWritable_request (hk : k < p.client.transactions.length) :
    v.openWritable (requestPipe p.directory p.client.pid (.ofNat k)) =
      .ok (p.place (p.requestName k)) :=
  h.there _ (requestName_mem hk)

/-- A teller opens its pipes. -/
theorem opens (hk : k < p.client.transactions.length) :
    open? v p.directory p.client.pid (.ofNat k) =
      .ok (.ofBytes (held (p.requestName k)), p.place (p.responseName k)) := by
  have hanswers : v.openWritable (responsePipe p.directory p.client.pid (.ofNat k)) =
      .ok (p.place (p.responseName k)) := h.there _ (responseName_mem hk)
  have hrequests : v.contents (p.place (p.requestName k)) = held (p.requestName k) :=
    Volume.contents_of_fifo (h.holds _ (requestName_mem hk))
  unfold open? Volume.read
  simp only [h.openWritable_request hk, hanswers]
  rw [hrequests]

/-- A line that a pipe holds is received from it. -/
theorem receive {α : Type} [Message α] [LawfulMessage α] (hname : name ∈ p.names) {a : α}
    (hheld : held name = line a) :
    Channels.receive v (Path.join p.client.directory name) =
      .ok (line a, v.drain (p.place name)) := by
  have hline : (Source.ofBytes (line a)).readLine = .ok (some (Message.encode a ++ ['\n'])) := by
    simpa [Source.ofBytes] using readLine_line a [] none
  rw [Channels.receive, h.here name hname]
  simp only [Volume.contents_of_fifo (h.holds name hname), hheld, hline, Option.getD_some]
  rw [line_eq_encode]

/-- The client program gets its teller map. -/
theorem awaitMap {map : TellerMap} (hheld : held p.mapName = line map) :
    p.client.awaitMap v = .ok (line map, v.drain (p.place p.mapName)) := by
  have hreceive : Channels.receive v (clientPipe p.client.directory p.client.pid) =
      .ok (line map, v.drain (p.place p.mapName)) :=
    h.receive (a := (map : List Assignment)) p.mapName_mem hheld
  have hopen : v.open? (clientPipe p.client.directory p.client.pid) =
      .ok (p.place p.mapName, .fifo (line map)) :=
    hheld ▸ Volume.open?_of_openWritable (h.here _ p.mapName_mem) (h.holds _ p.mapName_mem)
  obtain ⟨byte, rest, hbytes⟩ : ∃ byte rest, line map = byte :: rest :=
    List.exists_cons_of_ne_nil (by simp [line])
  unfold Client.Enrolled.awaitMap
  simp only [hopen, hreceive, hbytes]
  rfl

/-- The client program hears an answer. -/
theorem hear (hk : k < p.client.transactions.length) {r : Response}
    (hheld : held (p.responseName k) = line r) :
    p.client.hear v k = .ok (line r, v.drain (p.place (p.responseName k))) :=
  h.receive (responseName_mem hk) hheld

end Furnished

end Premises

end CountingHouse
