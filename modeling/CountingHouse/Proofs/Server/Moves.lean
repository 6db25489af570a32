/-
CountingHouse.Proofs.Server.Moves — a batch while anybody does anything.

On a floor the server takes turns, and between two turns processes post
into the mailbox, take back what they have posted, and end. `Floor.play`
makes any such moves in any order. The tellers of `Floor.serveSeats`, who
come forward one at a time, do nothing else (`reaches_serveSeats`), so
what holds of all moves holds of them.

A journal is kept of what the server does: when it looks whether it is
asked to stop and what it takes from the mailbox. `turn_cases` is all that
can happen in a turn. From it follows for any moves that the books are
those that the journal leads to, and that the journal ends when the server
has seen the request to stop (`moved_play`).
-/
import CountingHouse.Proofs.Server.Flushes
import CountingHouse.Proofs.Server.Floor
import CountingHouse.Proofs.Server.Payloads
import CountingHouse.Server.Source

namespace CountingHouse.Server

/-! ## Journals -/

/-- What is seen of a server at work. -/
inductive Entry where
  /-- It looks whether it is asked to stop. -/
  | looked (raised : Bool)
  /-- It gets a batch. -/
  | enrolled (round : Round)
  /-- It takes a payload while a teller map is in force, and gives an answer
  or none. -/
  | took (map : TellerMap) (posted : Posted) (answer : Option Response)

namespace Entry

/-- The payload that is taken. -/
def payload? : Entry → Option (TellerMap × Posted)
  | .took map p _ => some (map, p)
  | .looked _ | .enrolled _ => none

/-- The answer that is given, if a payload is taken. -/
def answer? : Entry → Option (Option Response)
  | .took _ _ answer => some answer
  | .looked _ | .enrolled _ => none

/-- The batch that comes. -/
def round? : Entry → Option Round
  | .enrolled round => some round
  | .looked _ | .took _ _ _ => none

/-- Is a payload taken that is about the client of its teller? -/
def isMandated : Entry → Bool
  | .took map p _ =>
    match p.payload.decode with
    | .ok x => Books.hasMandate map ⟨p.teller, p.pid, x⟩
    | .error _ => false
  | .looked _ | .enrolled _ => false

end Entry

/-- The payloads that were taken, each with the teller map in force. -/
def payloads (journal : List Entry) : List (TellerMap × Posted) :=
  journal.filterMap Entry.payload?

/-- The answers to them. -/
def answersTo (journal : List Entry) : List (Option Response) :=
  journal.filterMap Entry.answer?

/-- Nothing else is done once the request to stop has been seen. -/
def Heeds (journal : List Entry) : Prop :=
  journal.Pairwise fun earlier later => earlier = .looked true → later = .looked true

/-! ## The books -/

namespace Books

/-- The books have come to be what they are by the payloads of a journal:
the accounts and the answers are those of the rule, the ledger was written
once for each payload with a mandate, and it is still the ledger of its
bank. -/
structure Follows (b : Books) (journal : List Entry) (b' : Books) : Prop where
  table : b'.table = (b.table.ruleAll (payloads journal)).2
  answers : answersTo journal = (b.table.ruleAll (payloads journal)).1.map Ruling.answer
  flushes : b'.flushes = b.flushes + journal.countP Entry.isMandated
  conditions : b'.conditions = b.conditions
  keeps : ∀ directory bank, b.Keeps directory bank → b'.Keeps directory bank

theorem Follows.refl (b : Books) : b.Follows [] b :=
  ⟨rfl, rfl, rfl, rfl, fun _ _ => id⟩

theorem Follows.note (b : Books) (event : Event) : b.Follows [] (b.note event) :=
  ⟨rfl, rfl, rfl, rfl, fun _ _ h => ⟨h.named, h.leads, h.sound⟩⟩

theorem Follows.trans {b b' b'' : Books} {journal more : List Entry} (h : b.Follows journal b')
    (h' : b'.Follows more b'') : b.Follows (journal ++ more) b'' := by
  have hpayloads : payloads (journal ++ more) = payloads journal ++ payloads more :=
    List.filterMap_append
  have hanswers : answersTo (journal ++ more) = answersTo journal ++ answersTo more :=
    List.filterMap_append
  refine ⟨?_, ?_, ?_, h'.conditions.trans h.conditions, fun d n hk => h'.keeps d n (h.keeps d n hk)⟩
  · rw [hpayloads, Table.ruleAll_append, h'.table, h.table]
  · rw [hpayloads, hanswers, Table.ruleAll_append, List.map_append, h.answers, h'.answers, h.table]
  · rw [h'.flushes, h.flushes, List.countP_append, Nat.add_assoc]

/-- Looking and waiting change nothing. -/
theorem Follows.idle (b : Books) {entry : Entry} (hpayload : entry.payload? = none) :
    b.Follows [entry] b := by
  cases entry with
  | took map p answer => cases hpayload
  | looked raised => exact ⟨rfl, rfl, rfl, rfl, fun _ _ => id⟩
  | enrolled round => exact ⟨rfl, rfl, rfl, rfl, fun _ _ => id⟩

/-- The ledger is written for a payload with a mandate. -/
theorem flushes_handle (map : TellerMap) (p : Posted) (answer : Option Response) (b : Books) :
    (Mailbox.handle p (processEnvelope map) b).2.flushes =
      b.flushes + if (Entry.took map p answer).isMandated then 1 else 0 := by
  cases hdecode : p.payload.decode with
  | error e => simp [Mailbox.handle, Entry.isMandated, hdecode]
  | ok x =>
    cases hmandate : mandateOf map ⟨p.teller, p.pid, x⟩ with
    | none =>
      obtain ⟨reply, event, heq, _⟩ := processEnvelope_of_no_mandate hmandate b
      simp [Mailbox.handle, Entry.isMandated, hasMandate, hdecode, hmandate, heq, Books.note]
    | some a =>
      have hwritten : (processEnvelope map ⟨p.teller, p.pid, x⟩ b).2.flushes = b.flushes + 1 :=
        (writes_handle hmandate b).flushes
      simp [Mailbox.handle, Entry.isMandated, hasMandate, hdecode, hmandate, hwritten]

theorem conditions_handle (map : TellerMap) (p : Posted) (b : Books) :
    (Mailbox.handle p (processEnvelope map) b).2.conditions = b.conditions := by
  unfold Mailbox.handle
  cases p.payload.decode with
  | error e => rfl
  | ok x => exact b.conditions_deed (.handle map ⟨p.teller, p.pid, x⟩)

theorem Keeps.handle {b : Books} {directory bank : String} (h : b.Keeps directory bank)
    (map : TellerMap) (p : Posted) :
    (Mailbox.handle p (processEnvelope map) b).2.Keeps directory bank := by
  unfold Mailbox.handle
  cases p.payload.decode with
  | error e => exact h
  | ok x => exact h.deed (.handle map ⟨p.teller, p.pid, x⟩)

/-- Payload after payload, the books follow the journal. -/
theorem Follows.took (b : Books) (map : TellerMap) (p : Posted) :
    b.Follows [.took map p (Mailbox.handle p (processEnvelope map) b).1]
      (Mailbox.handle p (processEnvelope map) b).2 where
  table := (handle_eq_rule map p b).2
  answers := congrArg (fun answer => [answer]) (handle_eq_rule map p b).1
  flushes := by
    rw [List.countP_singleton]
    exact flushes_handle map p _ b
  conditions := conditions_handle map p b
  keeps := fun _ _ h => h.handle map p

end Books

/-! ## The request to stop -/

theorem Signal.look_of_raised {s : Signal} (h : s.look.1 = true) : s = some 0 := by
  match s, h with
  | some 0, _ => rfl

theorem Signal.snd_look_of_raised {s : Signal} (h : s.look.1 = true) : s.look.2 = some 0 := by
  rw [look_of_raised h]
  rfl

/-! ## Moves -/

/-- What may happen while a batch is served. -/
inductive Move where
  /-- The server takes a turn. -/
  | turn
  /-- A process tries to hand over a transaction. -/
  | post (e : Envelope)
  /-- A process takes back what it has posted. -/
  | retract (teller : UInt32) (pid : Int32)
  /-- A teller ends. -/
  | leave (pid code : Int32)

namespace Floor

/-- The floor after one move. -/
def move (f : Floor) : Move → Floor
  | .turn => f.turn
  | .post e => { f with mailbox := (f.mailbox.tryPost e).2 }
  | .retract teller pid => { f with mailbox := (f.mailbox.retract teller pid).2 }
  | .leave pid code => f.leave pid code

/-- The floor after some moves. -/
def play (f : Floor) (moves : List Move) : Floor :=
  moves.foldl move f

/-- What the server does in a move. -/
def seen (f : Floor) : Move → List Entry
  | .turn =>
    if f.roll.report.interrupted || !f.roll.isAwaiting then []
    else if f.signal.look.1 then [.looked true]
    else
      match f.mailbox.slot with
      | none => [.looked false]
      | some p =>
        [.looked false, .took f.map p (Mailbox.handle p (Books.processEnvelope f.map) f.books).1]
  | .post _ | .retract _ _ | .leave _ _ => []

/-- What the server does while some moves are made. -/
def journal (f : Floor) : List Move → List Entry
  | [] => []
  | m :: rest => f.seen m ++ (f.move m).journal rest

/-- The floor after the server has looked whether it is asked to stop. -/
def afterLook (f : Floor) : Floor :=
  { f with signal := f.signal.look.2 }

/-- What can happen in a turn: nothing any more, the request to stop, no
payload, or one that is taken. -/
theorem turn_cases (f : Floor) :
    (f.seen .turn = [] ∧ f.turn = f) ∨
    (f.roll.report.interrupted = false ∧ f.signal.look.1 = true ∧ f.seen .turn = [.looked true] ∧
      f.turn = f.afterLook.interrupt) ∨
    (f.roll.report.interrupted = false ∧ f.signal.look.1 = false ∧ f.mailbox.slot = none ∧
      f.seen .turn = [.looked false] ∧ f.turn = f.afterLook.attend) ∨
    ∃ p, f.roll.report.interrupted = false ∧ f.signal.look.1 = false ∧ f.mailbox.slot = some p ∧
      f.seen .turn = [.looked false,
        .took f.map p (Mailbox.handle p (Books.processEnvelope f.map) f.books).1] ∧
      f.turn = f.afterLook.attend := by
  unfold seen turn
  cases hstill : f.roll.report.interrupted || !f.roll.isAwaiting with
  | true => exact .inl ⟨rfl, rfl⟩
  | false =>
    have hinterrupted := (Bool.or_eq_false_iff.mp hstill).1
    simp only [Bool.false_eq_true, if_false]
    cases hlook : f.signal.look.1 with
    | true => exact .inr (.inl ⟨hinterrupted, rfl, rfl, rfl⟩)
    | false =>
      simp only [Bool.false_eq_true, if_false]
      cases hslot : f.mailbox.slot with
      | none => exact .inr (.inr (.inl ⟨hinterrupted, trivial, rfl, rfl, rfl⟩))
      | some p => exact .inr (.inr (.inr ⟨p, hinterrupted, trivial, rfl, rfl, rfl⟩))

/-- What moves do to a floor while the server does what the entries say. -/
structure Moved (f : Floor) (entries : List Entry) (g : Floor) : Prop where
  /-- A floor that was left because of the request to stop is left for
  good. -/
  left : f.roll.report.interrupted = true → g.roll.report.interrupted = true ∧ entries = []
  /-- When the request is seen, it is the last thing and the floor is left. -/
  heeds : Heeds entries
  seen : .looked true ∈ entries → g.roll.report.interrupted = true ∧ g.signal = some 0
  signal : f.roll.report.interrupted = true → g.signal = f.signal
  rounds : entries.filterMap Entry.round? = []
  follows : f.books.Follows entries g.books

theorem moved_turn (f : Floor) : f.Moved (f.seen .turn) f.turn := by
  rcases f.turn_cases with ⟨hseen, hturn⟩ | ⟨hrunning, hlook, hseen, hturn⟩ |
    ⟨hrunning, hlook, hslot, hseen, hturn⟩ | ⟨p, hrunning, hlook, hslot, hseen, hturn⟩ <;>
    rw [hseen, hturn]
  · exact ⟨fun h => ⟨h, rfl⟩, .nil, nofun, fun _ => rfl, rfl, .refl _⟩
  · exact
      { left := by simp [hrunning]
        heeds := List.pairwise_singleton _ _
        seen := fun _ => ⟨rfl, Signal.snd_look_of_raised hlook⟩
        signal := by simp [hrunning]
        rounds := rfl
        follows := .idle _ rfl }
  · have hempty : f.afterLook.mailbox.slot = none := hslot
    rw [attend_of_empty hempty]
    exact
      { left := by simp [hrunning]
        heeds := List.pairwise_singleton _ _
        seen := by simp
        signal := by simp [hrunning]
        rounds := rfl
        follows := .idle _ rfl }
  · have hfull : f.afterLook.mailbox.slot = some p := hslot
    rw [attend_of_some hfull]
    exact
      { left := by simp [hrunning]
        heeds := by simp [Heeds]
        seen := by simp
        signal := by simp [hrunning]
        rounds := rfl
        follows := (Books.Follows.idle f.books rfl).trans (.took f.books f.map p) }

theorem moved_move (f : Floor) (m : Move) : f.Moved (f.seen m) (f.move m) := by
  cases m with
  | turn => exact f.moved_turn
  | post e => exact ⟨fun h => ⟨h, rfl⟩, .nil, nofun, fun _ => rfl, rfl, .refl _⟩
  | retract teller pid => exact ⟨fun h => ⟨h, rfl⟩, .nil, nofun, fun _ => rfl, rfl, .refl _⟩
  | leave pid code => exact ⟨fun h => ⟨h, rfl⟩, .nil, nofun, fun _ => rfl, rfl, .refl _⟩

/-- **Whatever moves are made**, the books follow the journal and the
journal heeds the request to stop. -/
theorem moved_play (f : Floor) (moves : List Move) : f.Moved (f.journal moves) (f.play moves) := by
  induction moves generalizing f with
  | nil => exact ⟨fun h => ⟨h, rfl⟩, .nil, nofun, fun _ => rfl, rfl, .refl _⟩
  | cons m moves ih =>
    have hfirst := f.moved_move m
    have hrest := ih (f.move m)
    refine
      { left := ?_
        heeds := ?_
        seen := ?_
        signal := ?_
        rounds := ?_
        follows := hfirst.follows.trans hrest.follows }
    · intro h
      obtain ⟨hleft, hnone⟩ := hfirst.left h
      obtain ⟨hlast, hnothing⟩ := hrest.left hleft
      exact ⟨hlast, by rw [journal, hnone, hnothing]; rfl⟩
    · -- when the first move has seen the request, the others see nothing
      refine List.pairwise_append.mpr ⟨hfirst.heeds, hrest.heeds, ?_⟩
      rintro earlier hearlier later hlater rfl
      have hleft := (hfirst.seen hearlier).1
      rw [(hrest.left hleft).2] at hlater
      cases hlater
    · intro h
      rcases List.mem_append.mp h with h | h
      · obtain ⟨hleft, hsignal⟩ := hfirst.seen h
        exact ⟨(hrest.left hleft).1, (hrest.signal hleft).trans hsignal⟩
      · exact hrest.seen h
    · intro h
      exact (hrest.signal (hfirst.left h).1).trans (hfirst.signal h)
    · rw [journal, List.filterMap_append, hfirst.rounds, hrest.rounds, List.nil_append]

/-! ## The tellers of a batch -/

section

variable {P : Envelope → Prop}

/-- Some moves lead from one floor to the other, and what is posted in them
is such as `P` says. -/
def Reaches (P : Envelope → Prop) (f g : Floor) : Prop :=
  ∃ moves, (∀ e, .post e ∈ moves → P e) ∧ f.play moves = g

theorem Reaches.refl (f : Floor) : Reaches P f f :=
  ⟨[], nofun, rfl⟩

theorem Reaches.trans {f g h : Floor} (hfg : Reaches P f g) (hgh : Reaches P g h) :
    Reaches P f h := by
  obtain ⟨moves, hposts, rfl⟩ := hfg
  obtain ⟨more, hmore, rfl⟩ := hgh
  refine ⟨moves ++ more, fun e he => ?_, List.foldl_append⟩
  rcases List.mem_append.mp he with he | he
  · exact hposts e he
  · exact hmore e he

theorem reaches_post (f : Floor) {e : Envelope} (he : P e) : Reaches P f (f.move (.post e)) := by
  refine ⟨[.post e], fun e' hmem => ?_, rfl⟩
  obtain rfl := Move.post.inj (List.mem_singleton.mp hmem)
  exact he

theorem reaches_turn (f : Floor) : Reaches P f f.turn :=
  ⟨[.turn], by simp, rfl⟩

theorem reaches_retract (f : Floor) (teller : UInt32) (pid : Int32) :
    Reaches P f (f.move (.retract teller pid)) :=
  ⟨[.retract teller pid], by simp, rfl⟩

theorem reaches_leave (f : Floor) (pid code : Int32) : Reaches P f (f.leave pid code) :=
  ⟨[.leave pid code], by simp, rfl⟩

/-- A teller that visits the mailbox posts, takes back, or only looks. -/
theorem reaches_step (f : Floor) {e : Envelope} (he : P e) (expired : Bool)
    (stage : Teller.Stage) :
    Reaches P f { f with mailbox := (Teller.step e expired stage f.mailbox).2 } := by
  cases stage with
  | posting =>
    have hpost : (Teller.step e expired .posting f.mailbox).2 = (f.mailbox.tryPost e).2 := by
      rw [Teller.step]
      split <;> next h => rw [h]
    rw [hpost]
    exact f.reaches_post he
  | awaiting =>
    have hlook : (Teller.step e expired .awaiting f.mailbox).2 = f.mailbox := by
      rw [Teller.step]
      split <;> rfl
    rw [hlook]
    exact .refl f
  | withdrawing =>
    have hretract : (Teller.step e expired .withdrawing f.mailbox).2 =
        (f.mailbox.retract e.teller e.pid).2 := by
      rw [Teller.step]
      split <;> next h => rw [h]
    rw [hretract]
    exact f.reaches_retract e.teller e.pid
  | finished outcome => exact .refl f

theorem reaches_settle (f : Floor) {e : Envelope} (he : P e) (stage : Teller.Stage) :
    Reaches P f { f with mailbox := (Teller.settle e stage f.mailbox).2 } := by
  have hfirst := f.reaches_step he true stage
  have hsecond := hfirst.trans (reaches_step _ he true (Teller.step e true stage f.mailbox).1)
  exact hsecond.trans (reaches_step _ he true _)

theorem reaches_conclude (f : Floor) (pid : Int32) (sink : Sink)
    (outcome : Except TellerError Response) : Reaches P f (f.conclude pid sink outcome).2 :=
  (f.reaches_leave pid _).trans (reaches_turn _)

theorem reaches_submit (f : Floor) {e : Envelope} (he : P e) (sink : Sink) :
    Reaches P f (f.submit e sink).2 := by
  unfold submit
  split
  · exact (f.reaches_settle he .posting).trans (reaches_conclude _ _ _ _)
  · have hposted := (f.reaches_step he false .posting).trans (reaches_turn _)
    dsimp only
    split
    · exact hposted
    · exact ((hposted.trans (reaches_step _ he false _)).trans (reaches_settle _ he _)).trans
        (reaches_conclude _ _ _ _)

theorem reaches_comeForward (f : Floor) (teller : UInt32) (seat : Seat)
    (hseat : ∀ source x, seat.request = some source → Teller.readRequest source = .ok x →
      P ⟨teller, seat.pid, x⟩) : Reaches P f (f.comeForward teller seat).2 := by
  unfold comeForward
  split
  · exact (f.reaches_leave _ _).trans (reaches_turn _)
  · next source hsource =>
    rcases Teller.prepare_cases f.machine f.patience source with
      ⟨x, hread, _, hprepare⟩ | ⟨_, code, hprepare⟩ <;> simp only [hprepare]
    · split
      · exact .refl f
      · exact f.reaches_submit (hseat source x hsource hread) _
    · exact (f.reaches_leave _ _).trans (reaches_turn _)

/-- **The tellers of a batch** make some of the moves that anybody could
make, and post what they have read from their clients. -/
theorem reaches_serveSeats (f : Floor) (place : Nat) (seats : List Seat)
    (hseats : ∀ k seat source x, seats[k]? = some seat → seat.request = some source →
      Teller.readRequest source = .ok x → P ⟨UInt32.ofNat (place + k), seat.pid, x⟩) :
    Reaches P f (f.serveSeats place seats).2 := by
  induction seats generalizing f place with
  | nil => exact .refl f
  | cons seat seats ih =>
    refine (f.reaches_comeForward _ seat fun source x => hseats 0 seat source x rfl).trans
      (ih _ _ fun k seat' source x hseat' => ?_)
    have hplace : place + 1 + k = place + (k + 1) := by omega
    rw [hplace]
    exact hseats (k + 1) seat' source x hseat'

/-- Nor do the tellers that were left behind do anything else. -/
theorem reaches_lapse (f : Floor) (tellers : List TellerProcess) :
    Reaches P f (f.lapse tellers) := by
  induction tellers generalizing f with
  | nil => exact .refl f
  | cons t rest ih =>
    rw [lapse]
    split
    · exact .refl f
    · exact ((f.reaches_leave t.pid 1).trans (reaches_turn _)).trans (ih _)

end

end Floor

end CountingHouse.Server
