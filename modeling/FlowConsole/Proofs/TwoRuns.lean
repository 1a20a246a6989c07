import FlowConsole.Proofs.Action
/-!
Two runs side by side.

Two results match if they are values that are related, or the same error. A result tracks another
if the other keeps up with it while it is a value. Two actions agree if they take related states to
related states, with results that match. Steps that agree make up runs that do.
-/
namespace FlowConsole

section

variable {ε α α' β β' : Type} {R : α → α' → Prop} {Q : β → β' → Prop}

/-- Whether two results are values that are related, or the same error. -/
inductive Matches (R : α → α' → Prop) : Except ε α → Except ε α' → Prop
  | ok {a : α} {a' : α'} (h : R a a') : Matches R (.ok a) (.ok a')
  | error (e : ε) : Matches R (.error e) (.error e)

theorem Matches.bind {x : Except ε α} {x' : Except ε α'} {f : α → Except ε β}
    {f' : α' → Except ε β'} (hx : Matches R x x') (hf : ∀ a a', R a a' → Matches Q (f a) (f' a')) :
    Matches Q (x >>= f) (x' >>= f') := by
  cases hx with
  | ok h => exact hf _ _ h
  | error e => exact .error e

theorem Matches.mapError {ε' : Type} {x : Except ε α} {x' : Except ε α'} (hx : Matches R x x')
    (f : ε → ε') : Matches R (x.mapError f) (x'.mapError f) := by
  cases hx with
  | ok h => exact .ok h
  | error e => exact .error (f e)

theorem Matches.mono {R' : α → α' → Prop} {x : Except ε α} {x' : Except ε α'}
    (hx : Matches R x x') (h : ∀ a a', R a a' → R' a a') : Matches R' x x' := by
  cases hx with
  | ok ha => exact .ok (h _ _ ha)
  | error e => exact .error e

theorem matches_refl (x : Except ε α) : Matches Eq x x := by
  cases x with
  | ok a => exact .ok rfl
  | error e => exact .error e

theorem Matches.eq {x x' : Except ε α} (h : Matches Eq x x') : x = x' := by
  cases h with
  | ok h => rw [h]
  | error e => rfl

end

section

variable {ε α α' β β' : Type} {strict : Prop} {R : α → α' → Prop} {Q : β → β' → Prop}

/-- Whether a result is an error, or both are values that are related. Where it is strict, the
second result is an error whenever the first is, and the same. -/
inductive Tracks (strict : Prop) (R : α → α' → Prop) : Except ε α → Except ε α' → Prop
  | ok {a : α} {a' : α'} (h : R a a') : Tracks strict R (.ok a) (.ok a')
  | error (e : ε) {x' : Except ε α'} (h : strict → x' = .error e) :
      Tracks strict R (.error e) x'

theorem tracks_error (e : ε) :
    Tracks strict R (.error e : Except ε α) (.error e : Except ε α') := .error e fun _ => rfl

theorem tracks_refl {R : α → α → Prop} (h : ∀ a, R a a) (x : Except ε α) : Tracks strict R x x := by
  cases x with
  | ok a => exact .ok (h a)
  | error e => exact tracks_error e

theorem Yields.tracks {x : Except ε α} {a' : α'} (hx : Yields x fun a => R a a') :
    Tracks False R x (.ok a') := by
  cases x with
  | ok a => exact .ok (hx a rfl)
  | error e => exact .error e False.elim

theorem Tracks.bind {x : Except ε α} {x' : Except ε α'} {f : α → Except ε β}
    {f' : α' → Except ε β'} (hx : Tracks strict R x x')
    (hf : ∀ a a', R a a' → Tracks strict Q (f a) (f' a')) :
    Tracks strict Q (x >>= f) (x' >>= f') := by
  cases hx with
  | ok h => exact hf _ _ h
  | error e h =>
      refine .error e fun hstrict => ?_
      rw [h hstrict]
      rfl

theorem Tracks.mapError {ε' : Type} {x : Except ε α} {x' : Except ε α'} (hx : Tracks strict R x x')
    (f : ε → ε') : Tracks strict R (x.mapError f) (x'.mapError f) := by
  cases hx with
  | ok h => exact .ok h
  | error e h =>
      refine .error (f e) fun hstrict => ?_
      rw [h hstrict]
      rfl

end

/-! ## Actions -/

section

variable {ε σ σ' α α' β β' : Type} {S : σ → σ' → Prop} {R : α → α' → Prop} {Q : β → β' → Prop}

/-- Whether two actions take related states to related states, with results that match. -/
def Agrees (S : σ → σ' → Prop) (R : α → α' → Prop) (x : ExceptT ε (StateM σ) α)
    (x' : ExceptT ε (StateM σ') α') : Prop :=
  ∀ s s', S s s' → Matches R (x s).1 (x' s').1 ∧ S (x s).2 (x' s').2

theorem agrees_pure {a : α} {a' : α'} (h : R a a') :
    Agrees S R (pure a : ExceptT ε (StateM σ) α) (pure a' : ExceptT ε (StateM σ') α') :=
  fun _ _ hs => ⟨.ok h, hs⟩

theorem agrees_throw (e : ε) :
    Agrees S R (throw e : ExceptT ε (StateM σ) α) (throw e : ExceptT ε (StateM σ') α') :=
  fun _ _ hs => ⟨.error e, hs⟩

theorem agrees_get_bind {f : σ → ExceptT ε (StateM σ) α} {f' : σ' → ExceptT ε (StateM σ') α'}
    (h : ∀ s s', S s s' → Agrees S R (f s) (f' s')) : Agrees S R (get >>= f) (get >>= f') := by
  intro s s' hs
  rw [get_bind_apply, get_bind_apply]
  exact h s s' hs s s' hs

theorem Agrees.bind {x : ExceptT ε (StateM σ) α} {x' : ExceptT ε (StateM σ') α'}
    {f : α → ExceptT ε (StateM σ) β} {f' : α' → ExceptT ε (StateM σ') β'} (hx : Agrees S R x x')
    (hf : ∀ a a', R a a' → Agrees S Q (f a) (f' a')) : Agrees S Q (x >>= f) (x' >>= f') := by
  intro s s' hs
  obtain ⟨hresult, hstate⟩ := hx s s' hs
  cases h : x s with
  | mk r t =>
      cases h' : x' s' with
      | mk r' t' =>
          rw [h, h'] at hresult hstate
          cases hresult with
          | error e =>
              rw [bind_error h, bind_error h']
              exact ⟨.error e, hstate⟩
          | ok ha =>
              rw [bind_ok h, bind_ok h']
              exact hf _ _ ha t t' hstate

theorem Agrees.bind_eq {x : ExceptT ε (StateM σ) α} {x' : ExceptT ε (StateM σ') α}
    {f : α → ExceptT ε (StateM σ) β} {f' : α → ExceptT ε (StateM σ') β'} (hx : Agrees S Eq x x')
    (hf : ∀ a, Agrees S Q (f a) (f' a)) : Agrees S Q (x >>= f) (x' >>= f') := by
  refine hx.bind ?_
  rintro a _ rfl
  exact hf a

end

end FlowConsole
