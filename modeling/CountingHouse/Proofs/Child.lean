/-
CountingHouse.Proofs.Child — asking for the status of children.

Asking tells how a child has ended and takes it away in the same moment:
what is known of a child before (`Child.status?`) is what is gone of it
afterwards (`Child.wait_ne_reaped_iff`). Killing a child that is there
leaves one that can be reaped (`Child.wait_kill`).
-/
import CountingHouse.Child

namespace CountingHouse

namespace Child

variable {c : Child}

/-- A child stays as long as there is nothing to tell. -/
theorem wait_ne_reaped_iff : c.wait.2 ≠ .reaped ↔ c ≠ .reaped ∧ c.status? = none := by
  cases c <;> simp [wait, status?]

/-- Whoever ends is there afterwards if it was before. -/
theorem exit_ne_reaped_iff (status : ExitStatus) : c.exit status ≠ .reaped ↔ c ≠ .reaped := by
  cases c <;> simp [exit]

/-- Nothing is left of a child that was killed and asked for its status.
There is a status if there was a child, and a complaint if there was none. -/
theorem wait_kill : c.kill.2.wait.2 = .reaped ∧
    ((c ≠ .reaped ∧ ∃ status, c.kill.2.wait.1 = .ok (some status)) ∨
      (c = .reaped ∧ ∃ error, c.kill.2.wait.1 = .error error)) := by
  cases c <;> simp [kill, wait]

end Child

namespace Children

variable (c : Children)

theorem put_self (pid : Int32) (child : Child) : c.put pid child pid = child :=
  if_pos rfl

theorem put_of_ne {pid other : Int32} (h : other ≠ pid) (child : Child) :
    c.put pid child other = c other :=
  if_neg h

end Children

end CountingHouse
