/-
CountingHouse.Proofs.Teller.Relay — what a client hears.

An answer is sent as one line (`Channels.line`), and the client hears as
much of it as its channel accepts. It makes no difference that the line
is sent in two parts (`Sink.write_append`). The answer counts as delivered
when nothing of the line was refused and the channel could be flushed
(`writeResponse_spec`); only then does a teller end with exit code zero.
-/
import CountingHouse.Channels
import CountingHouse.Proofs.Stream
import CountingHouse.Teller

namespace CountingHouse.Teller

/-! ## Answers -/

/-- An answer is sent as one line, as far as the channel accepts it. It is
delivered when the whole line is and the channel can be flushed. -/
theorem writeResponse_spec (sink : Sink) (r : Response) :
    (writeResponse sink r).2.taken = sink.taken ++ sink.accepted (Channels.line r) ∧
    ((writeResponse sink r).1 = .ok () ↔
      sink.accepted (Channels.line r) = Channels.line r ∧ sink.flushFault = none) := by
  have hparts := sink.write_append (Text.encode (Message.encode r)) [Text.lineFeed]
  rw [← Channels.line, Sink.write_eq] at hparts
  rw [writeResponse]
  cases hname : sink.write (Text.encode (Message.encode r)) with
  | mk result after =>
    rw [hname] at hparts
    cases result with
    | error fault =>
      obtain ⟨hresult, rfl⟩ := Prod.mk.inj hparts
      have hcut : sink.accepted (Channels.line r) ≠ Channels.line r := by
        intro hwhole
        rw [if_pos hwhole] at hresult
        cases hresult
      simp [hcut]
    | ok _ =>
      simp only at hparts ⊢
      rw [← hparts]
      by_cases hwhole : sink.accepted (Channels.line r) = Channels.line r
      · rw [if_pos hwhole]
        cases hflush : sink.flush <;> simp [hwhole, hflush, ← Sink.flush_eq_ok_iff]
      · simp [hwhole]

/-- A client whose channel has room for it hears the answer. -/
theorem taken_writeResponse {sink : Sink} {r : Response}
    (h : ∀ room ∈ sink.room, (Channels.line r).length ≤ room) :
    (writeResponse sink r).2.taken = sink.taken ++ Channels.line r := by
  rw [(writeResponse_spec sink r).1, Sink.accepted_of_room h]

theorem relay_ok (sink : Sink) (r : Response) :
    (relay sink (.ok r)).2 = (writeResponse sink r).2 := by
  rw [relay]
  split <;> next h => rw [h]

/-! ## The outcome as the client and the server learn it -/

/-- An answer is relayed as it is. -/
theorem relay_answer (sink : Sink) (r : Response) :
    (relay sink (.ok r)).2.taken = sink.taken ++ sink.accepted (Channels.line r) ∧
    (exitCode (relay sink (.ok r)).1 = 0 ↔
      sink.accepted (Channels.line r) = Channels.line r ∧ sink.flushFault = none) := by
  obtain ⟨htaken, hdelivered⟩ := writeResponse_spec sink r
  rw [relay_ok, ← hdelivered]
  refine ⟨htaken, ?_⟩
  rw [relay]
  split <;> next h => simp [h, exitCode]

/-- When there is no answer in time the client is told of a failure. -/
theorem relay_timeout (sink : Sink) (teller : UInt32) :
    (relay sink (.error (.timeout teller))).2.taken =
      sink.taken ++ sink.accepted (Channels.line Response.failure) ∧
    exitCode (relay sink (.error (.timeout teller))).1 = 1 := by
  have htaken := (writeResponse_spec sink .failure).1
  rw [relay]
  split <;> next h => rw [h] at htaken; exact ⟨htaken, rfl⟩

/-- A teller submits what it has read, if it can set its deadline. -/
theorem prepare_cases (machine : Machine) (patience : Span) (source : Source) :
    (∃ x, readRequest source = .ok x ∧ patience.hasEnd machine.uptime = true ∧
      prepare machine patience source = .ok x) ∨
    (((∃ error, readRequest source = .error error) ∨ patience.hasEnd machine.uptime = false) ∧
      ∃ code, prepare machine patience source = .error code) := by
  rw [prepare]
  cases hrequest : readRequest source with
  | error error => exact .inr ⟨.inl ⟨error, rfl⟩, _, rfl⟩
  | ok x =>
    cases hend : patience.hasEnd machine.uptime with
    | true => exact .inl ⟨x, rfl, rfl, rfl⟩
    | false => exact .inr ⟨.inr rfl, _, rfl⟩

end CountingHouse.Teller
