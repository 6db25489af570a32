/-
CountingHouse.Proofs.Server.Closing — however serving ends, the bank is
closed properly.

`Serves` is serving with any moves made during each batch, step by step as
the server serves, and with a journal of what the server does. What
`Server.serveBatches` does is one such run (`serves_serveBatches`). Along
every run the books follow the journal, no batch of the source is lost or
taken twice, and nothing is taken once the request to stop was seen
(`Serves.serving`). Closing then dismisses the tellers that are left, adds
one attempt to write the ledger and removes the source once, whatever
serving has come to (`serve_closes`).
-/
import CountingHouse.Proofs.Server.Children

namespace CountingHouse.Server

open Ledger

/-! ## One batch -/

/-- Serves a batch while the given moves are made; one that is not admitted
leaves no time for any. -/
def serveRound (s : Server) (round : Round) (source : BatchSource) (moves : List Move) :
    List Entry × Server × BatchSource :=
  if s.admits round then
    ((s.floorFor round).journal moves, finish ((s.floorFor round).play moves),
      (source.publish round (s.floorFor round).map).2)
  else ([], (s.runBatch round source).2)

/-- Serving a batch comes to some moves. -/
theorem runBatch_eq (s : Server) (round : Round) (source : BatchSource) :
    ∃ served moves, s.runBatch round source = (.ok served, (s.serveRound round source moves).2) := by
  cases hadmits : s.admits round with
  | true =>
    obtain ⟨moves, _, hmoves⟩ := (((s.floorFor round).reaches_turn (P := fun _ => True)).trans
      (Floor.reaches_serveSeats _ 0 round.seats fun _ _ _ _ _ _ _ => trivial)).trans
        (Floor.reaches_lapse _ s.tellers)
    have hround : (s.serveRound round source moves).2 =
        (finish (((s.floorFor round).turn.serveSeats 0 round.seats).2.lapse s.tellers),
          (source.publish round (s.floorFor round).map).2) := by
      rw [serveRound, if_pos hadmits, hmoves]
    exact ⟨_, moves, (runBatch_of_admits hadmits source).trans (congrArg (Prod.mk _) hround.symm)⟩
  | false =>
    obtain ⟨served, s', hrun, _⟩ := runBatch_of_not_admits hadmits source
    refine ⟨served, [], ?_⟩
    rw [serveRound, if_neg (Bool.eq_false_iff.mp hadmits), hrun]

/-- What one batch does to the server and to its source. -/
structure Attended (s : Server) (source : BatchSource)
    (out : List Entry × Server × BatchSource) : Prop where
  follows : s.books.Follows out.1 out.2.1.books
  heeds : Heeds out.1
  seen : .looked true ∈ out.1 → out.2.1.signal = some 0
  nobody : out.1.filterMap Entry.round? = []
  rounds : out.2.2.rounds = source.rounds
  ending : out.2.2.ending = source.ending
  cleanups : out.2.2.cleanups = source.cleanups

theorem follows_floorFor (s : Server) (round : Round) :
    s.books.Follows [] (s.floorFor round).books := by
  unfold floorFor
  cases round.publishFault with
  | none => exact .refl _
  | some fault => exact .note _ _

theorem attended_serveRound (s : Server) (round : Round) (source : BatchSource)
    (moves : List Move) : s.Attended source (s.serveRound round source moves) := by
  unfold serveRound
  cases hadmits : s.admits round with
  | true =>
    have hmoved := (s.floorFor round).moved_play moves
    rw [if_pos rfl, publish_frame]
    exact
      { follows := (s.follows_floorFor round).trans hmoved.follows
        heeds := hmoved.heeds
        seen := fun h => (hmoved.seen h).2
        nobody := hmoved.rounds
        rounds := rfl
        ending := rfl
        cleanups := rfl }
  | false =>
    obtain ⟨served, s', hrun, hsame⟩ := runBatch_of_not_admits hadmits source
    rw [if_neg Bool.false_ne_true, hrun]
    refine ⟨?_, .nil, nofun, rfl, rfl, rfl, rfl⟩
    rcases hsame with rfl | ⟨event, rfl⟩
    · exact .refl _
    · exact .note _ _

/-! ## Batch after batch -/

/-- The server after it has looked whether it is asked to stop. -/
def afterLook (s : Server) : Server :=
  { s with signal := s.signal.look.2 }

/-- Serving until it ends, whatever moves are made during each batch and
whatever the tellers write to their clients. While the server waits for a
batch it looks once more whether it is asked to stop. -/
inductive Serves :
    Server → BatchSource → List Entry → Except ServerError Unit → Server → BatchSource → Prop
  /-- The server is asked to stop before it waits for a batch. -/
  | asked {s : Server} {source : BatchSource} (hlook : s.signal.look.1 = true) :
    Serves s source [.looked true] (.ok ()) s.afterLook source
  /-- No batch comes: the server is asked to stop while it waits, or the
  source has ended. -/
  | ended {s : Server} {source : BatchSource} (hlook : s.signal.look.1 = false)
    (hnext : source.next s.afterLook.signal = (.ok none, s.afterLook.afterLook.signal, source)) :
    Serves s source [.looked false, .looked s.afterLook.signal.look.1] (.ok ())
      s.afterLook.afterLook source
  /-- The source fails. -/
  | broken {s : Server} {source : BatchSource} {fault : Fault} (hlook : s.signal.look.1 = false)
    (hnext : source.next s.afterLook.signal =
      (.error fault, s.afterLook.afterLook.signal, source)) :
    Serves s source [.looked false, .looked s.afterLook.signal.look.1] (.error (.bootstrap fault))
      s.afterLook.afterLook source
  /-- A batch comes and is served, and then the server goes on. -/
  | batch {s s' : Server} {source source' source'' : BatchSource} {round : Round}
    {journal : List Entry} {result : Except ServerError Unit} (hlook : s.signal.look.1 = false)
    (hnext : source.next s.afterLook.signal =
      (.ok (some round), s.afterLook.afterLook.signal, source'))
    (moves : List Move) (answers : List (Option Sink))
    (hrest : Serves (s.afterLook.afterLook.serveRound round source' moves).2.1
      ((s.afterLook.afterLook.serveRound round source' moves).2.2.keepAnswers answers)
      journal result s' source'') :
    Serves s source
      (.looked false :: .looked s.afterLook.signal.look.1 :: .enrolled round ::
        ((s.afterLook.afterLook.serveRound round source' moves).1 ++ journal))
      result s' source''

/-- What waiting for a batch can come to. -/
theorem next_cases (source : BatchSource) (signal : Signal) :
    (source.next signal = (.ok none, signal.look.2, source) ∧
      (signal.look.1 = true ∨ source.rounds = [] ∧ source.ending = none)) ∨
    (∃ fault, source.next signal = (.error fault, signal.look.2, source) ∧
      signal.look.1 = false ∧ source.rounds = [] ∧ source.ending = some fault) ∨
    ∃ round rest, source.next signal =
        (.ok (some round), signal.look.2, { source with rounds := rest }) ∧
      signal.look.1 = false ∧ source.rounds = round :: rest := by
  unfold BatchSource.next
  rcases signal.look with ⟨raised, signal'⟩
  cases raised with
  | true => exact .inl ⟨rfl, .inl rfl⟩
  | false =>
    cases hrounds : source.rounds with
    | cons round rest => exact .inr (.inr ⟨round, rest, rfl, rfl, rfl⟩)
    | nil =>
      cases hending : source.ending with
      | some fault => exact .inr (.inl ⟨fault, rfl, rfl, rfl, rfl⟩)
      | none => exact .inl ⟨rfl, .inr ⟨rfl, rfl⟩⟩

/-- **What the server does is one such run.** -/
theorem serves_serveBatches (s : Server) (source : BatchSource) {rounds : Nat}
    (h : source.rounds.length < rounds) :
    ∃ journal, Serves s source journal (s.serveBatches source rounds).1
      (s.serveBatches source rounds).2.1 (s.serveBatches source rounds).2.2 := by
  induction rounds generalizing s source with
  | zero => exact absurd h (Nat.not_lt_zero _)
  | succ rounds ih =>
    rw [serveBatches]
    cases hlook : s.signal.look.1 with
    | true =>
      have hpair : s.signal.look = (true, s.signal.look.2) := by rw [← hlook]
      rw [hpair]
      exact ⟨_, .asked hlook⟩
    | false =>
      have hpair : s.signal.look = (false, s.signal.look.2) := by rw [← hlook]
      rw [hpair]
      rcases next_cases source s.signal.look.2 with
        ⟨hnext, _⟩ | ⟨fault, hnext, _⟩ | ⟨round, rest, hnext, _, hrounds⟩
      · simp only [hnext]
        exact ⟨_, .ended hlook hnext⟩
      · simp only [hnext]
        exact ⟨_, .broken hlook hnext⟩
      · simp only [hnext]
        obtain ⟨served, moves, hrun⟩ :=
          s.afterLook.afterLook.runBatch_eq round { source with rounds := rest }
        have hattended := s.afterLook.afterLook.attended_serveRound round
          { source with rounds := rest } moves
        have hfewer : (((s.afterLook.afterLook.serveRound round { source with rounds := rest }
            moves).2.2.keepAnswers served.responses).rounds).length < rounds := by
          have hleft : ((s.afterLook.afterLook.serveRound round { source with rounds := rest }
            moves).2.2.keepAnswers served.responses).rounds = rest := hattended.rounds
          rw [hrounds, List.length_cons] at h
          rw [hleft]
          omega
        obtain ⟨journal, hrest⟩ := ih _ _ hfewer
        have hsame : ({ s with signal := s.signal.look.2.look.2 } : Server) =
            s.afterLook.afterLook := rfl
        rw [hsame, hrun]
        exact ⟨_, .batch hlook hnext moves served.responses hrest⟩

/-- Why serving has ended: the server was asked to stop or the source has
nothing more, or else the source has failed. -/
def EndedFor (journal : List Entry) (left : List Round) (ending : Option Fault) :
    Except ServerError Unit → Prop
  | .ok () => .looked true ∈ journal ∨ left = [] ∧ ending = none
  | .error e => .looked true ∉ journal ∧ left = [] ∧
      ∃ fault, ending = some fault ∧ e = .bootstrap fault

/-- What serving does to the server and to its source. -/
structure Serving (s : Server) (source : BatchSource) (journal : List Entry)
    (result : Except ServerError Unit) (s' : Server) (source' : BatchSource) : Prop where
  heeds : Heeds journal
  rounds : source.rounds = journal.filterMap Entry.round? ++ source'.rounds
  ended : EndedFor journal source'.rounds source.ending result
  cleanups : source'.cleanups = source.cleanups
  follows : s.books.Follows journal s'.books

/-- A server that has been asked to stop before does nothing more. -/
theorem Serves.of_raised {s s' : Server} {source source' : BatchSource} {journal : List Entry}
    {result : Except ServerError Unit} (h : Serves s source journal result s' source')
    (hraised : s.signal = some 0) : journal = [.looked true] := by
  cases h with
  | asked hlook => rfl
  | ended hlook hnext => rw [hraised] at hlook; cases hlook
  | broken hlook hnext => rw [hraised] at hlook; cases hlook
  | batch hlook hnext moves answers hrest => rw [hraised] at hlook; cases hlook

/-- **What holds of every run**, by following it batch after batch. -/
theorem Serves.serving {s s' : Server} {source source' : BatchSource} {journal : List Entry}
    {result : Except ServerError Unit} (h : Serves s source journal result s' source') :
    s.Serving source journal result s' source' := by
  induction h with
  | asked hlook =>
    exact ⟨List.pairwise_singleton _ _, rfl, .inl (List.mem_singleton.mpr rfl), rfl, .idle _ rfl⟩
  | @ended s source hlook hnext =>
    refine ⟨by simp [Heeds], rfl, ?_, rfl, (Books.Follows.idle _ rfl).trans (.idle _ rfl)⟩
    rcases next_cases source s.afterLook.signal with ⟨_, hwhy⟩ | ⟨fault, hother, _⟩ |
      ⟨round, rest, hother, _⟩
    · rcases hwhy with hraised | hended
      · exact .inl (by simp [hraised])
      · exact .inr hended
    · rw [hnext] at hother; cases hother
    · rw [hnext] at hother; cases hother
  | @broken s source fault hlook hnext =>
    refine ⟨by simp [Heeds], rfl, ?_, rfl, (Books.Follows.idle _ rfl).trans (.idle _ rfl)⟩
    rcases next_cases source s.afterLook.signal with ⟨hother, _⟩ |
      ⟨fault', hother, hquiet, hrounds, hending⟩ | ⟨round, rest, hother, _⟩
    · rw [hnext] at hother; cases hother
    · rw [hnext] at hother
      cases hother
      exact ⟨by simp [hquiet], hrounds, fault, hending, rfl⟩
    · rw [hnext] at hother; cases hother
  | @batch s s' source source₁ source' round journal result hlook hnext moves answers hrest ih =>
    have hattended := s.afterLook.afterLook.attended_serveRound round source₁ moves
    rcases next_cases source s.afterLook.signal with ⟨hother, _⟩ | ⟨fault, hother, _⟩ |
      ⟨round', rest, hother, hquiet, hrounds⟩
    · rw [hnext] at hother; cases hother
    · rw [hnext] at hother; cases hother
    · rw [hnext] at hother
      cases hother
      rw [hquiet]
      -- a request that is seen during the batch ends what comes after it
      have hstops : .looked true ∈ (s.afterLook.afterLook.serveRound round
          { source with rounds := rest } moves).1 → journal = [.looked true] :=
        fun hseen => hrest.of_raised (hattended.seen hseen)
      refine ⟨?_, ?_, ?_, ih.cleanups.trans hattended.cleanups, ?_⟩
      · have hlater : Heeds ((s.afterLook.afterLook.serveRound round
            { source with rounds := rest } moves).1 ++ journal) := by
          refine List.pairwise_append.mpr ⟨hattended.heeds, ih.heeds, ?_⟩
          rintro earlier hearlier later hlater rfl
          rw [hstops hearlier] at hlater
          exact List.mem_singleton.mp hlater
        simpa [Heeds] using hlater
      · have hleft : ((s.afterLook.afterLook.serveRound round { source with rounds := rest }
            moves).2.2.keepAnswers answers).rounds = rest := hattended.rounds
        have hcome := ih.rounds
        rw [hleft] at hcome
        simp only [List.filterMap_cons, Entry.round?, List.filterMap_append, hattended.nobody,
          List.nil_append, List.cons_append, ← hcome, hrounds]
      · have hending : ((s.afterLook.afterLook.serveRound round { source with rounds := rest }
            moves).2.2.keepAnswers answers).ending = source.ending := hattended.ending
        have hended := ih.ended
        rw [hending] at hended
        cases result with
        | ok done =>
          rcases hended with hseen | hnothing
          · exact .inl (by simp [hseen])
          · exact .inr hnothing
        | error e =>
          obtain ⟨hunseen, hnothing, hfault⟩ := hended
          refine ⟨?_, hnothing, hfault⟩
          have hquietly : .looked true ∉ (s.afterLook.afterLook.serveRound round
              { source with rounds := rest } moves).1 := by
            intro hseen
            rw [hstops hseen] at hunseen
            exact hunseen (List.mem_singleton.mpr rfl)
          simp [hunseen, hquietly]
      · exact (Books.Follows.idle s.books rfl).trans ((Books.Follows.idle s.books rfl).trans
          ((Books.Follows.idle s.books rfl).trans (hattended.follows.trans ih.follows)))

/-- Along every run the children are the tellers whose end is not known. -/
theorem Serves.tended {s s' : Server} {source source' : BatchSource} {journal : List Entry}
    {result : Except ServerError Unit} (h : Serves s source journal result s' source')
    (htended : Tended s.tellers s.children) : Tended s'.tellers s'.children := by
  induction h with
  | asked hlook => exact htended
  | ended hlook hnext => exact htended
  | broken hlook hnext => exact htended
  | @batch s s' source source₁ source' round journal result hlook hnext moves answers hrest ih =>
    refine ih ?_
    unfold serveRound
    cases hadmits : s.afterLook.afterLook.admits round with
    | true =>
      exact tended_finish (Floor.tended_play (tended_floorFor (s := s.afterLook.afterLook)
        htended round) moves)
    | false =>
      obtain ⟨served, s'', hrun, hsame⟩ := runBatch_of_not_admits hadmits source₁
      rw [if_neg Bool.false_ne_true, hrun]
      rcases hsame with rfl | ⟨event, rfl⟩ <;> exact htended

/-! ## Closing -/

/-- Closes the bank when serving has come to a result, and tells what the
whole has come to. -/
def close (served : Except ServerError Unit) (s : Server) (source : BatchSource) :
    Except ServerError Unit × Server × BatchSource :=
  let s := match served with
    | .ok () => s
    | .error e => s.note (.servingStopped e)
  let (stopped, s, source) := s.stop source
  match served with
  | .ok () => (stopped, s, source)
  | .error e => (.error e, s, source)

theorem serve_eq (s : Server) (source : BatchSource) :
    s.serve source =
      close (s.serveBatches source (source.rounds.length + 1)).1
        (s.serveBatches source (source.rounds.length + 1)).2.1
        (s.serveBatches source (source.rounds.length + 1)).2.2 := rfl

/-- The result of the whole: the serving error if there is one, otherwise
the error of the last attempt to write the ledger, otherwise none. -/
def resultOf : Except ServerError Unit → Except LedgerError Unit → Except ServerError Unit
  | .error e, _ => .error e
  | .ok (), written => written.mapError .ledger

theorem cleanup_frame (source : BatchSource) :
    source.cleanup.2 = { source with cleanups := source.cleanups + 1 } := by
  unfold BatchSource.cleanup
  simp only
  split <;> rfl

/-- The server when the tellers that were left have been dismissed and the
ledger has been written a last time, but for its log. -/
def afterStop (s : Server) : Server :=
  { s with
    tellers := []
    children := s.children.await (runsAs s.tellers)
    books := s.books.flush.2 }

/-- Stopping dismisses all tellers, writes the ledger once and removes the
source once, whatever these come to, and the log is all that depends on
it. -/
theorem stop_eq (s : Server) (source : BatchSource) :
    (s.stop source).1 = s.books.flush.1.mapError .ledger ∧
      (∃ events, (s.stop source).2.1 = { s.afterStop with books.events := events }) ∧
      (s.stop source).2.2 = { source with cleanups := source.cleanups + 1 } := by
  have hremoved := cleanup_frame source
  obtain ⟨events, hdismissed⟩ := s.dismissAll_eq
  unfold stop afterStop
  rw [hdismissed]
  simp only
  rcases hcleanup : source.cleanup with ⟨cleaned, removed⟩
  have hflush : ({ s.books with events } : Books).flush =
      (s.books.flush.1, { s.books.flush.2 with events }) := rfl
  rw [hflush]
  rcases s.books.flush with ⟨error | done, books⟩
  all_goals
    rw [hcleanup] at hremoved
    rw [← hremoved]
    cases cleaned <;> exact ⟨rfl, ⟨_, rfl⟩, rfl⟩

theorem close_eq (served : Except ServerError Unit) (s : Server) (source : BatchSource) :
    (close served s source).1 = resultOf served s.books.flush.1 ∧
      (∃ events, (close served s source).2.1 = { s.afterStop with books.events := events }) ∧
      (close served s source).2.2 = { source with cleanups := source.cleanups + 1 } := by
  cases served with
  | ok done => exact s.stop_eq source
  | error e =>
    obtain ⟨_, ⟨events, hserver⟩, hsource⟩ := (s.note (.servingStopped e)).stop_eq source
    exact ⟨rfl, ⟨events, hserver⟩, hsource⟩

/-- What is said of a run that has been closed. -/
structure Closed (directory bank : String) (s : Server) (source : BatchSource)
    (journal : List Entry) (served : Except ServerError Unit) (last : Server)
    (closed : Except ServerError Unit × Server × BatchSource) : Prop where
  /-- Once the request to stop has been seen, no batch and no payload is
  taken. -/
  heeds : Heeds journal
  /-- The batches come in the order of the source, and none is lost. -/
  rounds : source.rounds = journal.filterMap Entry.round? ++ closed.2.2.rounds
  ended : EndedFor journal closed.2.2.rounds source.ending served
  /-- No teller is left: those that had not ended for the server were killed
  and reaped. When all children are tellers, as they are of a server that
  has just been opened, there is no child any more. -/
  tellers : closed.2.1.tellers = []
  dismissed : ∀ t ∈ last.tellers, t.exit = none → closed.2.1.children t.pid = .reaped
  children : Tended s.tellers s.children → closed.2.1.children = .none
  /-- The source has been removed once. -/
  cleanups : closed.2.2.cleanups = source.cleanups + 1
  /-- The ledger was written once for each payload with a mandate, and once
  more in the end. -/
  flushes : closed.2.1.books.flushes =
    s.books.flushes + journal.countP Entry.isMandated + 1
  result : closed.1 = resultOf served last.books.flush.1
  /-- The accounts and the answers are what the rule makes of the payloads
  that were taken. -/
  table : closed.2.1.books.table = (s.books.table.ruleAll (payloads journal)).2
  answers : answersTo journal = (s.books.table.ruleAll (payloads journal)).1.map Ruling.answer
  /-- What was answered with success or with the deletion of an account is in
  the accounts, and nothing else is. -/
  accounts : s.books.table.Ruled (s.books.table.ruleAll (payloads journal)).1
    closed.2.1.books.table
  /-- The file holds all accounts if the last attempt has succeeded, and
  else the beginning of their text. -/
  file : closed.2.1.books.file <+: render closed.2.1.books.table bank
      (s.books.conditions (s.books.flushes + journal.countP Entry.isMandated)).stamp ∧
    (last.books.flush.1 = .ok () → closed.2.1.books.file = render closed.2.1.books.table bank
      (s.books.conditions (s.books.flushes + journal.countP Entry.isMandated)).stamp)
  /-- It is still the file that the path of the bank leads to. -/
  leads : closed.2.1.books.volume.openWritable (pathFor directory bank) =
    .ok closed.2.1.books.ledger.file.place

theorem Serving.closed {s last : Server} {source source' : BatchSource} {journal : List Entry}
    {served : Except ServerError Unit} {directory bank : String}
    (h : s.Serving source journal served last source')
    (htended : Tended s.tellers s.children → Tended last.tellers last.children)
    (hkeeps : s.books.Keeps directory bank) :
    s.Closed directory bank source journal served last (close served last source') := by
  obtain ⟨hresult, ⟨events, hserver⟩, hsource⟩ := close_eq served last source'
  have hlast := h.follows.keeps directory bank hkeeps
  have hplace : last.books.ledger.file.place ≠ [] := Volume.ne_root_of_openWritable hlast.leads
  have htable : (close served last source').2.1.books.table =
      (s.books.table.ruleAll (payloads journal)).2 := by
    rw [hserver]
    exact h.follows.table
  have hfile : (close served last source').2.1.books.file =
      last.books.flush.2.file := by rw [hserver]; rfl
  have hwritten : last.books.flush.2.file <+: render last.books.table last.books.ledger.bank
        (last.books.conditions last.books.flushes).stamp ∧
      (last.books.flush.1 = .ok () → last.books.flush.2.file =
        render last.books.table last.books.ledger.bank
          (last.books.conditions last.books.flushes).stamp) :=
    last.books.ledger.contents_flush last.books.table _ last.books.volume hplace
  rw [hlast.named, h.follows.conditions, h.follows.flushes, h.follows.table] at hwritten
  refine
    { heeds := h.heeds
      rounds := by rw [hsource]; exact h.rounds
      ended := by rw [hsource]; exact h.ended
      tellers := by rw [hserver]; rfl
      dismissed := ?_
      children := ?_
      cleanups := by rw [hsource, h.cleanups]
      flushes := ?_
      result := hresult
      table := htable
      answers := h.follows.answers
      accounts := by rw [htable]; exact hkeeps.sound.ruled_ruleAll _
      file := by rw [htable, hfile]; exact hwritten
      leads := ?_ }
  · intro t ht hexit
    have hruns : runsAs last.tellers t.pid = true :=
      List.any_eq_true.mpr ⟨t, ht, by simp [hexit]⟩
    rw [hserver]
    exact if_pos hruns
  · intro hall
    rw [hserver]
    exact (htended hall).await
  · rw [hserver, ← h.follows.flushes]
    rfl
  · rw [hserver]
    exact (hlast.deed .flush).leads

/-- A server is opened on the ledger of its bank. -/
theorem open?_of_openFile {config : ServerConfig} {v v' : Volume} {ledger : LedgerFile}
    {table : Table} {mailbox : Mailbox}
    (hfile : openFile v config.ledgerDir config.bankName = (.ok (ledger, table), v'))
    {machine : Machine} (hmailbox : Mailbox.create config.maxBatch.toNat machine = .ok mailbox)
    (conditions : Nat → Conditions) :
    open? config v conditions machine =
      (.ok
        { books := ⟨table, ledger, v', conditions, 0, []⟩
          mailbox
          tellers := []
          signal := none
          patience := config.teller.responseTimeout
          machine }, v') := by
  unfold open?
  rw [hfile]
  dsimp only
  rw [hmailbox]

/-- A server that has just been opened keeps the ledger of its bank. -/
theorem keeps_of_open? {config : ServerConfig} {v v' : Volume} {conditions : Nat → Conditions}
    {machine : Machine} {s : Server} (h : open? config v conditions machine = (.ok s, v')) :
    s.books.Keeps config.ledgerDir config.bankName := by
  unfold open? at h
  split at h
  · cases h
  · next ledger table volume hopen =>
    split at h
    · cases h
    · cases h
      exact Books.keeps_of_openFile hopen

/-- **However serving ends, the bank is closed properly.** The request to
stop may come at any moment, the source may have any batches and may fail,
and while a batch is served anything may be posted, taken back and left
undone. What the server does itself is among this. -/
theorem serve_closes {s : Server} {directory bank : String} (h : s.books.Keeps directory bank)
    (source : BatchSource) :
    (∃ journal served last source', Serves s source journal served last source' ∧
      s.serve source = close served last source') ∧
    ∀ journal served last source', Serves s source journal served last source' →
      s.Closed directory bank source journal served last (close served last source') := by
  obtain ⟨journal, hrun⟩ := s.serves_serveBatches source (Nat.lt_succ_self _)
  exact ⟨⟨journal, _, _, _, hrun, s.serve_eq source⟩,
    fun _ _ _ _ hserves => hserves.serving.closed hserves.tended h⟩

/-- An empty batch, one that is too large, and one of two clients, during
which the request to stop comes; the source would have failed after it. -/
theorem serve_closes_interrupted :
    let v : Volume := ⟨[(["AdaBank.bankLog".toList],
      .file (lineBytes "BankID_1 D 5 D 7 W 3 9".toList))], []⟩
    let config : ServerConfig := { ServerConfig.default with maxBatch := 2 }
    let request : Option Source :=
      some (.ofBytes (Channels.line (Transaction.mk ⟨"BankID_1", by decide⟩ .withdraw 9)))
    let source : BatchSource := .ofRounds
      [⟨⟨10, []⟩, [], none⟩, ⟨⟨20, ["N", "N", "N"]⟩, [], none⟩,
        ⟨⟨30, ["BankID_1", "BankID_1"]⟩, [⟨31, request, .unbounded⟩, ⟨32, request, .unbounded⟩],
          none⟩]
      (some (.reported .brokenPipe "gone")) none
    ∃ opened v', open? config v (fun _ => ⟨"09:30 March 02 2025", none⟩) = (.ok opened, v') ∧
      let s : Server := { opened with signal := some 8 }
      s.books.Keeps "." "AdaBank" ∧
      (∃ journal served last source', Serves s source journal served last source' ∧
        s.serve source = close served last source') ∧
      ∀ journal served last source', Serves s source journal served last source' →
        s.Closed "." "AdaBank" source journal served last (close served last source') := by
  intro v config request source
  have hleads : v.openWritable (pathFor "." "AdaBank") = .ok ["AdaBank.bankLog".toList] := by
    decide
  have hmailbox : Mailbox.create config.maxBatch.toNat = .ok (.ofCapacity 2) := rfl
  have hfile := openFile_of_leads hleads
  obtain ⟨opened, v', hopen⟩ : ∃ opened v',
      open? config v (fun _ => ⟨"09:30 March 02 2025", none⟩) = (.ok opened, v') :=
    ⟨_, _, open?_of_openFile hfile hmailbox _⟩
  have hkeeps : ({ opened with signal := some 8 } : Server).books.Keeps "." "AdaBank" :=
    keeps_of_open? hopen
  exact ⟨opened, v', hopen, hkeeps, serve_closes hkeeps source⟩

end CountingHouse.Server
