import Mathlib.Order.Defs.Unbundled
/-!
Running actions that may fail and change a state: a failure ends an action where it stands, and
keeps the state of that moment.
-/
namespace FlowConsole

section

variable {ε σ α β : Type}

theorem bind_error {x : ExceptT ε (StateM σ) α} {s s' : σ} {e : ε} (h : x s = (.error e, s'))
    (f : α → ExceptT ε (StateM σ) β) : (x >>= f) s = (.error e, s') := by
  change ExceptT.bindCont f (x s).1 (x s).2 = _
  rw [h]
  rfl

theorem bind_ok {x : ExceptT ε (StateM σ) α} {s s' : σ} {a : α} (h : x s = (.ok a, s'))
    (f : α → ExceptT ε (StateM σ) β) : (x >>= f) s = f a s' := by
  change ExceptT.bindCont f (x s).1 (x s).2 = _
  rw [h]
  rfl

theorem get_bind_apply (f : σ → ExceptT ε (StateM σ) α) (s : σ) : (get >>= f) s = f s s := rfl

theorem bind_pure_apply (x : ExceptT ε (StateM σ) α) (f : α → β) (s : σ) :
    (x >>= fun a => pure (f a)) s = ((x s).1.map f, (x s).2) := by
  cases h : x s with
  | mk r s' =>
      cases r with
      | error e => rw [bind_error h]; rfl
      | ok a => rw [bind_ok h]; rfl

end

section

variable {m : Type → Type} [Monad m] [LawfulMonad m] {α β : Type}

theorem mapM_eq_pure_map {f : α → m β} {g : α → β} {l : List α} (h : ∀ a ∈ l, f a = pure (g a)) :
    l.mapM f = pure (l.map g) := by
  induction l with
  | nil => rfl
  | cons a l ih =>
      rw [List.forall_mem_cons] at h
      rw [List.mapM_cons, h.1, ih h.2, pure_bind, pure_bind, List.map_cons]

theorem mapM_map_of_forall {f : β → m α} {g : α → β} {l : List α}
    (h : ∀ a ∈ l, f (g a) = pure a) : (l.map g).mapM f = pure l := by
  rw [List.mapM_map, mapM_eq_pure_map (f := f ∘ g) (g := id) h, List.map_id]

end

/-! ## What a result may be -/

section

variable {ε α β : Type} {P : α → Prop} {Q : β → Prop}

/-- Whether a result, unless it is an error, has a property. -/
def Yields (x : Except ε α) (P : α → Prop) : Prop := ∀ a, x = .ok a → P a

theorem yields_ok {a : α} (h : P a) : Yields (.ok a : Except ε α) P := by
  intro b hb
  rwa [← Except.ok.inj hb]

theorem yields_error (e : ε) : Yields (.error e : Except ε α) P := by
  intro a ha
  simp at ha

theorem Yields.bind {x : Except ε α} {f : α → Except ε β} (hx : Yields x P)
    (hf : ∀ a, P a → Yields (f a) Q) : Yields (x >>= f) Q := by
  cases x with
  | error e => exact yields_error e
  | ok a => exact hf a (hx a rfl)

theorem yields_bind {x : Except ε α} {f : α → Except ε β} (hf : ∀ a, Yields (f a) Q) :
    Yields (x >>= f) Q := by
  cases x with
  | error e => exact yields_error e
  | ok a => exact hf a

theorem Yields.bind_congr {x : Except ε α} {f g : α → Except ε β} (hx : Yields x P)
    (h : ∀ a, P a → f a = g a) : x >>= f = x >>= g := by
  cases x with
  | error e => rfl
  | ok a => exact h a (hx a rfl)

theorem yields_map {x : Except ε α} {f : α → β} (hf : ∀ a, Q (f a)) : Yields (x.map f) Q := by
  cases x with
  | error e => exact yields_error e
  | ok a => exact yields_ok (hf a)

theorem Yields.mapError {ε' : Type} {x : Except ε α} (hx : Yields x P) (f : ε → ε') :
    Yields (x.mapError f) P := by
  cases x with
  | error e => exact yields_error _
  | ok a => exact yields_ok (hx a rfl)

theorem exists_of_mapError {ε' : Type} {x : Except ε α} {f : ε → ε'} {e' : ε'}
    (h : x.mapError f = .error e') : ∃ e, x = .error e ∧ f e = e' := by
  cases x with
  | error e => exact ⟨e, rfl, Except.error.inj h⟩
  | ok a => cases h

theorem exists_of_bind_ok {x : Except ε α} {f : α → Except ε β} {b : β} (h : x.bind f = .ok b) :
    ∃ a, x = .ok a ∧ f a = .ok b := by
  cases x with
  | error e => cases h
  | ok a => exact ⟨a, rfl, h⟩

theorem bind_eq_error {x : Except ε α} {f : α → Except ε β} {e : ε} (h : x.bind f = .error e) :
    x = .error e ∨ ∃ a, x = .ok a ∧ f a = .error e := by
  cases x with
  | error e' => exact .inl (congrArg Except.error (Except.error.inj h))
  | ok a => exact .inr ⟨a, rfl, h⟩

theorem exists_of_map_ok {x : Except ε α} {f : α → β} {b : β} (h : x.map f = .ok b) :
    ∃ a, x = .ok a ∧ f a = b := by
  cases x with
  | error e => cases h
  | ok a => exact ⟨a, rfl, Except.ok.inj h⟩

theorem ok_of_mapError_ok {ε' : Type} {x : Except ε α} {f : ε → ε'} {a : α}
    (h : x.mapError f = .ok a) : x = .ok a := by
  cases x with
  | error e => cases h
  | ok b => exact congrArg Except.ok (Except.ok.inj h)

theorem Yields.mono {P' : α → Prop} {x : Except ε α} (hx : Yields x P) (h : ∀ a, P a → P' a) :
    Yields x P' := fun a ha => h a (hx a ha)

end

/-! ## What a run may do -/

section

variable {ε σ α β : Type} {R : σ → σ → Prop}

/-- Whether an action, however it ends, takes each state to one that is related to it. -/
def Follows (R : σ → σ → Prop) (x : ExceptT ε (StateM σ) α) : Prop := ∀ s, R s (x s).2

theorem Follows.mono {R' : σ → σ → Prop} {x : ExceptT ε (StateM σ) α} (hx : Follows R x)
    (h : ∀ s s', R s s' → R' s s') : Follows R' x := fun s => h s _ (hx s)

theorem follows_get_bind {f : σ → ExceptT ε (StateM σ) α} (h : ∀ s, R s (f s s).2) :
    Follows R (get >>= f) := by
  intro s
  rw [get_bind_apply]
  exact h s

variable [IsPreorder σ R]

theorem follows_pure (a : α) : Follows R (pure a : ExceptT ε (StateM σ) α) := fun s => refl s

theorem follows_throw (e : ε) : Follows R (throw e : ExceptT ε (StateM σ) α) := fun s => refl s

theorem follows_get : Follows R (get : ExceptT ε (StateM σ) σ) := fun s => refl s

theorem Follows.bind_yields {P : α → Prop} {x : ExceptT ε (StateM σ) α}
    {f : α → ExceptT ε (StateM σ) β} (hx : Follows R x) (hP : ∀ s, Yields (x s).1 P)
    (hf : ∀ a, P a → Follows R (f a)) : Follows R (x >>= f) := by
  intro s
  have hfirst := hx s
  have hresult := hP s
  cases h : x s with
  | mk r s' =>
      rw [h] at hfirst hresult
      cases r with
      | error e =>
          rw [bind_error h]
          exact hfirst
      | ok a =>
          rw [bind_ok h]
          exact trans_of R hfirst (hf a (hresult a rfl) s')

theorem Follows.bind {x : ExceptT ε (StateM σ) α} {f : α → ExceptT ε (StateM σ) β}
    (hx : Follows R x) (hf : ∀ a, Follows R (f a)) : Follows R (x >>= f) :=
  hx.bind_yields (fun _ _ _ => trivial) fun a _ => hf a

end

/-! ## What a failure may be -/

section

variable {ε σ α β : Type} {I : σ → Prop} {kind : ε → Bool}

/-- Whether an action that starts where something holds ends where it holds, and fails with no error
of a kind. -/
def Avoids (I : σ → Prop) (kind : ε → Bool) (x : ExceptT ε (StateM σ) α) : Prop :=
  ∀ s, I s → I (x s).2 ∧ ∀ e, (x s).1 = .error e → kind e = false

theorem avoids_pure (a : α) : Avoids I kind (pure a : ExceptT ε (StateM σ) α) :=
  fun _ hs => ⟨hs, fun _ he => by cases he⟩

theorem Avoids.bind {x : ExceptT ε (StateM σ) α} {f : α → ExceptT ε (StateM σ) β}
    (hx : Avoids I kind x) (hf : ∀ a, Avoids I kind (f a)) : Avoids I kind (x >>= f) := by
  intro s hs
  have hfirst := hx s hs
  cases h : x s with
  | mk r s' =>
      rw [h] at hfirst
      cases r with
      | error e =>
          rw [bind_error h]
          exact ⟨hfirst.1, fun e' he' => hfirst.2 e' (congrArg Except.error (Except.error.inj he'))⟩
      | ok a =>
          rw [bind_ok h]
          exact hf a s' hfirst.1

end

section

variable {ε σ α β : Type} {I : σ → Prop} {kind : ε → Prop}

/-- Whether an action that starts where something holds fails, with an error of a kind. -/
def FailsWith (I : σ → Prop) (kind : ε → Prop) (x : ExceptT ε (StateM σ) α) : Prop :=
  ∀ s, I s → ∃ e, (x s).1 = .error e ∧ kind e

theorem FailsWith.bind {x : ExceptT ε (StateM σ) α} (hx : FailsWith I kind x)
    (f : α → ExceptT ε (StateM σ) β) : FailsWith I kind (x >>= f) := by
  intro s hs
  obtain ⟨e, he, hkind⟩ := hx s hs
  have hfails : x s = (.error e, (x s).2) := Prod.ext he rfl
  rw [bind_error hfails]
  exact ⟨e, rfl, hkind⟩

end

section

variable {ε σ α β : Type} {R : σ → σ → Prop} {kind : ε → Bool}

/-- Whether an action that fails with an error of a kind ends in a state that is related to the one
it started from. -/
def Spares (R : σ → σ → Prop) (kind : ε → Bool) (x : ExceptT ε (StateM σ) α) : Prop :=
  ∀ s e, (x s).1 = .error e → kind e = true → R s (x s).2

theorem Follows.spares {x : ExceptT ε (StateM σ) α} (h : Follows R x) (kind : ε → Bool) :
    Spares R kind x := fun s _ _ _ => h s

theorem Spares.bind [IsPreorder σ R] {x : ExceptT ε (StateM σ) α}
    {f : α → ExceptT ε (StateM σ) β} (hx : Follows R x) (hf : ∀ a, Spares R kind (f a)) :
    Spares R kind (x >>= f) := by
  intro s e he hkind
  have hfirst := hx s
  cases h : x s with
  | mk r s' =>
      rw [h] at hfirst
      cases r with
      | error e' =>
          rw [bind_error h]
          exact hfirst
      | ok a =>
          rw [bind_ok h] at he ⊢
          exact trans_of R hfirst (hf a s' e he hkind)

theorem Spares.bind_ok {x : ExceptT ε (StateM σ) α} {f : α → ExceptT ε (StateM σ) β}
    (hx : Spares R kind x) (hf : ∀ a s, ∃ b, (f a s).1 = .ok b) : Spares R kind (x >>= f) := by
  intro s e he hkind
  cases h : x s with
  | mk r s' =>
      cases r with
      | error e' =>
          rw [bind_error h] at he ⊢
          have hspares := hx s e' (congrArg Prod.fst h)
          rw [h] at hspares
          exact hspares (Except.error.inj he ▸ hkind)
      | ok a =>
          obtain ⟨b, hb⟩ := hf a s'
          rw [FlowConsole.bind_ok h, hb] at he
          cases he

end

end FlowConsole
