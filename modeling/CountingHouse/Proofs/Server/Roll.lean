/-
CountingHouse.Proofs.Server.Roll — who is still to be served after a
receipt and after looking for tellers that have ended.

The tellers of a roll fall into two sorts. One that is no longer awaiting
stays so, whatever is noted, and is not counted as abandoned any more. One
that is awaiting changes only when a receipt is about it or when it has
ended.
-/
import CountingHouse.Server.Roll

namespace CountingHouse.Server

/-! ## Looking for tellers that have ended -/

section
variable {ended : Int32 → Option ExitStatus} {t : TellerProcess}

theorem TellerProcess.isAwaiting_eq_false :
    t.isAwaiting = false ↔ t.served = true ∨ t.exit.isSome = true := by
  cases hserved : t.served <;> simp [isAwaiting, hserved, Option.isSome_iff_ne_none]

namespace Roll

@[simp] theorem pid_reapOne : (reapOne ended t).pid = t.pid := by
  rw [reapOne]; split <;> rfl

theorem isAwaiting_reapOne (h : t.isAwaiting = false) : (reapOne ended t).isAwaiting = false := by
  rw [TellerProcess.isAwaiting_eq_false] at h ⊢
  rw [reapOne]
  split
  · exact h
  · next hexit =>
    rw [hexit] at h
    simpa using Or.inl (h.resolve_right (by simp))

theorem reapOne_of_ended {status : ExitStatus} (h : ended t.pid = some status) :
    (reapOne ended t).isAwaiting = false := by
  rw [TellerProcess.isAwaiting_eq_false, reapOne]
  split
  · next hexit => exact .inr (by simp [hexit])
  · exact .inr (by simp [h])

theorem isLost_of_not_awaiting (h : t.isAwaiting = false) : isLost ended t = false := by
  rw [TellerProcess.isAwaiting_eq_false] at h
  rcases h with hserved | hexit
  · simp [isLost, hserved]
  · have hsome : t.exit.isNone = false := by
      rw [Option.isNone_eq_false_iff, hexit]
    simp [isLost, hsome]

theorem isLost_of_ended (h : t.isAwaiting = true) {status : ExitStatus}
    (hended : ended t.pid = some status) : isLost ended t = true := by
  simp only [TellerProcess.isAwaiting, Bool.and_eq_true, Bool.not_eq_true'] at h
  simp [isLost, h, hended]

theorem reapOne_of_running (h : ended t.pid = none) : reapOne ended t = t := by
  rw [reapOne]
  split
  · rfl
  · next hexit => rw [h, ← hexit]

/-- Tellers that have not ended stay as they are and are not counted. -/
theorem reapFinished_append (r : Roll) (ended : Int32 → Option ExitStatus)
    {gone rest : List TellerProcess}
    (htellers : r.tellers = gone ++ rest) (hrest : ∀ t ∈ rest, ended t.pid = none) :
    r.reapFinished ended =
      { tellers := gone.map (reapOne ended) ++ rest
        report := { r.report with
          abandoned := r.report.abandoned + gone.countP (isLost ended) } } := by
  have hsame : rest.map (reapOne ended) = rest := by
    have hfix : ∀ t ∈ rest, reapOne ended t = id t := fun t ht => reapOne_of_running (hrest t ht)
    rw [List.map_congr_left hfix, List.map_id]
  have hnobody : rest.countP (isLost ended) = 0 := by
    rw [List.countP_eq_zero]
    intro t ht
    simp [isLost, hrest t ht]
  rw [reapFinished, htellers, List.map_append, hsame, List.countP_append, hnobody, Nat.add_zero]

/-- Nobody is counted who was not awaiting. -/
theorem countP_isLost {gone : List TellerProcess} (h : ∀ t ∈ gone, t.isAwaiting = false) :
    gone.countP (isLost ended) = 0 := by
  rw [List.countP_eq_zero]
  intro t ht
  simp [isLost_of_not_awaiting (h t ht)]

end Roll

end

/-! ## Receipts -/

namespace Roll

/-- A receipt marks the teller it is about. -/
theorem markServed_append (p : TellerProcess → Bool) {l rest : List TellerProcess}
    {t : TellerProcess} (hl : ∀ u ∈ l, p u = false) (ht : p t = true) :
    markServed p (l ++ t :: rest) = l ++ { t with served := true } :: rest := by
  induction l with
  | nil => simp [markServed, ht]
  | cons u l ih =>
    have hu := hl u List.mem_cons_self
    have hrest := ih fun v hv => hl v (List.mem_cons_of_mem u hv)
    simp [markServed, hu, hrest]

/-- An answer to a teller on the roll serves this teller and no other. -/
theorem recordReceipt_of_sender (r : Roll) {receipt : Receipt} {gone rest : List TellerProcess}
    {t : TellerProcess} (htellers : r.tellers = gone ++ t :: rest)
    (hgone : ∀ u ∈ gone, u.pid ≠ receipt.pid) (ht : isSender receipt t = true)
    (hanswer : receipt.response.isSome = true) :
    r.recordReceipt receipt =
      { tellers := gone ++ { t with served := true } :: rest
        report := { r.report with served := r.report.served + 1 } } := by
  have hany : r.tellers.any (isSender receipt) = true := by
    rw [htellers]
    simp [ht]
  have hothers : ∀ u ∈ gone, isSender receipt u = false := by
    intro u hu
    simp [isSender, hgone u hu]
  rw [recordReceipt, hanswer, hany, htellers, markServed_append _ hothers ht]
  rfl

/-- A receipt about nobody on the roll is passed over. -/
theorem recordReceipt_of_stranger (r : Roll) {receipt : Receipt}
    (h : ∀ t ∈ r.tellers, t.pid ≠ receipt.pid) : r.recordReceipt receipt = r := by
  have hnone : r.tellers.any (isSender receipt) = false := by
    rw [List.any_eq_false]
    intro t ht
    simp [isSender, h t ht]
  rw [recordReceipt, hnone, Bool.and_false]
  rfl

end Roll

end CountingHouse.Server
