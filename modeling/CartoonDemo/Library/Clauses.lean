import CartoonDemo.Library.Interrupt

/-!
# CartoonDemo.Library.Clauses

**`except` and `finally` over a state.** A call in `EStateM ε σ` that raises keeps what it wrote, so
a handler and a last step go on from there (`exceptClause`, `finallyClause`, `withClause`).

`Ends x s post` says how a call ends, whether it returns or raises, with one rule for each
construct.
-/

namespace CartoonDemo

variable {ε σ α β : Type}

/-- The call, and the handler if it raises what the clause catches. -/
def exceptClause (catches : ε → Bool) (x : EStateM ε σ α) (handler : ε → EStateM ε σ α) :
    EStateM ε σ α := fun s =>
  match x s with
  | .ok a s' => .ok a s'
  | .error e s' => if catches e then handler e s' else .error e s'

/-- The call, and then the last step however it ended. What the last step raises counts. -/
def finallyClause (x : EStateM ε σ α) (last : EStateM ε σ Unit) : EStateM ε σ α := fun s =>
  match x s with
  | .ok a s' =>
      match last s' with
      | .ok () s'' => .ok a s''
      | .error e s'' => .error e s''
  | .error e s' =>
      match last s' with
      | .ok () s'' => .error e s''
      | .error e' s'' => .error e' s''

/-- `with`: the call, and then the end of the block, which is told what the call has raised. What the
end raises counts. -/
def withClause (x : EStateM ε σ α) (leave : Option ε → EStateM ε σ Unit) : EStateM ε σ α := fun s =>
  match x s with
  | .ok a s' =>
      match leave none s' with
      | .ok () s'' => .ok a s''
      | .error e s'' => .error e s''
  | .error e s' =>
      match leave (some e) s' with
      | .ok () s'' => .error e s''
      | .error e' s'' => .error e' s''

/-! ### How a call ends

One rule for each construct, so that the statement about a piece of code follows its text.
-/

/-- What holds of the end of a call, and of the state it leaves. -/
def Ends (x : EStateM ε σ α) (s : σ) (post : Except ε α → σ → Prop) : Prop :=
  match x s with
  | .ok a s' => post (.ok a) s'
  | .error e s' => post (.error e) s'

namespace Ends

variable {s : σ} {x : EStateM ε σ α} {post : Except ε α → σ → Prop}

theorem of_ok {a : α} {s' : σ} (h : x s = .ok a s') (hpost : post (.ok a) s') : Ends x s post := by
  rw [Ends, h]
  exact hpost

theorem of_error {e : ε} {s' : σ} (h : x s = .error e s') (hpost : post (.error e) s') :
    Ends x s post := by
  rw [Ends, h]
  exact hpost

theorem ok (h : Ends x s post) {a : α} {s' : σ} (hx : x s = .ok a s') : post (.ok a) s' := by
  rwa [Ends, hx] at h

theorem error (h : Ends x s post) {e : ε} {s' : σ} (hx : x s = .error e s') :
    post (.error e) s' := by
  rwa [Ends, hx] at h

theorem congr {y : EStateM ε σ α} (h : x s = y s) (hy : Ends y s post) : Ends x s post := by
  rw [Ends, h]
  exact hy

theorem imp {post' : Except ε α → σ → Prop} (h : Ends x s post)
    (himp : ∀ r s', post r s' → post' r s') : Ends x s post' := by
  cases hx : x s with
  | ok a s' => exact of_ok hx (himp _ _ (h.ok hx))
  | error e s' => exact of_error hx (himp _ _ (h.error hx))

theorem and {post' : Except ε α → σ → Prop} (h : Ends x s post) (h' : Ends x s post') :
    Ends x s fun r s' => post r s' ∧ post' r s' := by
  cases hx : x s with
  | ok a s' => exact of_ok hx ⟨h.ok hx, h'.ok hx⟩
  | error e s' => exact of_error hx ⟨h.error hx, h'.error hx⟩

theorem pure {a : α} (h : post (.ok a) s) : Ends (Pure.pure a) s post := h

theorem throw {e : ε} (h : post (.error e) s) : Ends (MonadExcept.throw e) s post := h

theorem bind {g : α → EStateM ε σ β} {post' : Except ε β → σ → Prop} {mid : Except ε α → σ → Prop}
    (hx : Ends x s mid) (hok : ∀ a s', mid (.ok a) s' → Ends (g a) s' post')
    (herror : ∀ e s', mid (.error e) s' → post' (.error e) s') : Ends (x >>= g) s post' := by
  cases h : x s with
  | ok a s' =>
      rw [Ends, estate_bind_ok h]
      exact hok a s' (hx.ok h)
  | error e s' => exact of_error (estate_bind_error h) (herror e s' (hx.error h))

/-- The first call returns. -/
theorem after {g : α → EStateM ε σ β} {post' : Except ε β → σ → Prop} {a : α} {s' : σ}
    (h : x s = .ok a s') (hg : Ends (g a) s' post') : Ends (x >>= g) s post' := by
  rw [Ends, estate_bind_ok h]
  exact hg

theorem exceptClause {catches : ε → Bool} {handler : ε → EStateM ε σ α}
    {mid : Except ε α → σ → Prop} (hx : Ends x s mid) (hok : ∀ a s', mid (.ok a) s' → post (.ok a) s')
    (hcaught : ∀ e s', catches e = true → mid (.error e) s' → Ends (handler e) s' post)
    (hpassed : ∀ e s', catches e = false → mid (.error e) s' → post (.error e) s') :
    Ends (exceptClause catches x handler) s post := by
  unfold Ends CartoonDemo.exceptClause
  cases h : x s with
  | ok a s' => exact hok a s' (hx.ok h)
  | error e s' =>
      dsimp only
      cases hc : catches e with
      | true => exact hcaught e s' hc (hx.error h)
      | false => exact hpassed e s' hc (hx.error h)

/-- The last step does not raise. -/
theorem finallyClause {last : EStateM ε σ Unit} {next : σ → σ}
    (hlast : ∀ s', last s' = .ok () (next s')) (hx : Ends x s fun r s' => post r (next s')) :
    Ends (finallyClause x last) s post := by
  unfold Ends CartoonDemo.finallyClause
  cases h : x s with
  | ok a s' =>
      simp only [hlast]
      exact hx.ok h
  | error e s' =>
      simp only [hlast]
      exact hx.error h

theorem withClause {leave : Option ε → EStateM ε σ Unit} {mid : Except ε α → σ → Prop}
    (hx : Ends x s mid)
    (hok : ∀ a s', mid (.ok a) s' → Ends (leave none) s' fun r s'' => post (r.map fun _ => a) s'')
    (herror : ∀ e s', mid (.error e) s' → Ends (leave (some e)) s' fun r s'' =>
      post (r >>= fun _ => .error e) s'') :
    Ends (withClause x leave) s post := by
  unfold Ends CartoonDemo.withClause
  cases h : x s with
  | ok a s' =>
      have hleave := hok a s' (hx.ok h)
      dsimp only
      cases hl : leave none s' with
      | ok u s'' => exact hleave.ok hl
      | error e s'' => exact hleave.error hl
  | error e s' =>
      have hleave := herror e s' (hx.error h)
      dsimp only
      cases hl : leave (some e) s' with
      | ok u s'' => exact hleave.ok hl
      | error e' s'' => exact hleave.error hl

end Ends

end CartoonDemo
