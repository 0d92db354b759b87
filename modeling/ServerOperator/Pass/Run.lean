import ServerOperator.Pass.Call

/-!
Running a pass against something that answers its calls, under a cancellation that may come at any
time.
-/

namespace ServerOperator

/-- Whatever answers calls. `perform` gives no answer to a call that is abandoned because the
cancellation comes first; such a call may still have had its effect. -/
structure Backend (σ : Type) where
  isCancelled : σ → Bool
  perform : (call : Call) → σ → Option call.Answer × σ

/-- No call is started after the cancellation. A call that is answered counts even if the
cancellation comes with the answer. -/
def Pass.run (backend : Backend σ) : Pass α → σ → Except PassError α × σ
  | finished value, state => (.ok value, state)
  | failed error, state => (.error error, state)
  | ask call next, state =>
      if backend.isCancelled state then (.error .cancelled, state)
      else
        match backend.perform call state with
        | (some answer, after) => (next answer).run backend after
        | (none, after) => (.error .cancelled, after)

/-- A pass in two parts goes on where the first part ended, unless that failed. -/
theorem Pass.run_bind (backend : Backend σ) (pass : Pass α) (rest : α → Pass β) (state : σ) :
    (pass >>= rest).run backend state =
      match pass.run backend state with
      | (.ok value, after) => (rest value).run backend after
      | (.error error, after) => (.error error, after) := by
  induction pass generalizing state with
  | finished value => rfl
  | failed error => rfl
  | ask call next ih =>
      change (Pass.ask call fun answer => next answer >>= rest).run backend state = _
      simp only [Pass.run]
      split
      · rfl
      · split
        · rename_i answer after _
          exact ih answer after
        · rfl

end ServerOperator
