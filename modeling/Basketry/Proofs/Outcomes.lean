import Basketry.Session

namespace Basketry

theorem bind_eq_ok {a : Except Fault α} {f : α → Except Fault β} {b : β} :
    (a >>= f) = .ok b ↔ ∃ x, a = .ok x ∧ f x = .ok b := by
  cases a with
  | error e => simp [bind, Except.bind]
  | ok x => simp [bind, Except.bind]

theorem ok_bind (a : α) (f : α → Except Fault β) : (Except.ok a >>= f) = f a := rfl

theorem error_bind (e : Fault) (f : α → Except Fault β) : (Except.error e >>= f) = .error e := rfl

namespace Work
variable {α β : Type}

/-- What work answers, and the session that it leaves. -/
def outcome (w : Work α) (session : Session) : Except Fault α × Session :=
  Id.run (StateT.run (ExceptT.run w) session)

theorem outcome_ofReply (reply : Except Fault α) (session : Session) :
    (ofReply reply).outcome session = (reply, session) := by
  cases reply <;> rfl

/-- Work goes on with what was answered, in the session that was left. -/
theorem outcome_bind_ok {w : Work α} {a : α} {session next : Session}
    (h : w.outcome session = (.ok a, next)) (f : α → Work β) :
    (w >>= f).outcome session = (f a).outcome next := by
  have h : Id.run (StateT.run (ExceptT.run w) session) = (.ok a, next) := h
  rw [outcome, ExceptT.run_bind, StateT.run_bind, Id.run_bind, h]
  rfl

theorem outcome_bind_error {w : Work α} {e : Fault} {session next : Session}
    (h : w.outcome session = (.error e, next)) (f : α → Work β) :
    (w >>= f).outcome session = (.error e, next) := by
  have h : Id.run (StateT.run (ExceptT.run w) session) = (.error e, next) := h
  rw [outcome, ExceptT.run_bind, StateT.run_bind, Id.run_bind, h]
  rfl

end Work

end Basketry
