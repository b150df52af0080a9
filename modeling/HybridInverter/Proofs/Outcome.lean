/-!
Outcomes of steps that can fail: what has ended well has done so in each of its steps, also where
the steps change a state.
-/
namespace HybridInverter

variable {σ ε ε' α β : Type} {x : Except ε α} {a : α} {b : β}

theorem bind_eq_ok_iff {f : α → Except ε β} : x >>= f = .ok b ↔ ∃ a, x = .ok a ∧ f a = .ok b := by
  cases x with
  | error e => simp [bind, Except.bind]
  | ok a => simp [bind, Except.bind]

theorem map_eq_ok_iff {f : α → β} : x.map f = .ok b ↔ ∃ a, x = .ok a ∧ b = f a := by
  cases x <;> simp [Except.map, eq_comm]

theorem mapError_eq_ok_iff {g : ε → ε'} : x.mapError g = .ok a ↔ x = .ok a := by
  cases x with
  | error e => exact ⟨nofun, nofun⟩
  | ok b =>
    have hmap : (Except.ok b).mapError g = .ok b := rfl
    rw [hmap, Except.ok.injEq, Except.ok.injEq]

theorem eq_ok_of_toOption (h : x.toOption = some a) : x = .ok a := by
  cases x with
  | error e => cases h
  | ok b => exact congrArg Except.ok (Option.some.inj h)

variable {x : ExceptT ε (StateM σ) α} {before after : σ}

theorem run_adapt {outcome : Except ε α} (h : x.run.run before = (outcome, after)) (g : ε → ε') :
    (ExceptT.adapt g x).run.run before = (outcome.mapError g, after) := by
  have hmap : (ExceptT.adapt g x).run = Except.mapError g <$> x.run := rfl
  rw [hmap, StateT.run_map, h]
  rfl

theorem exists_of_run_bind {f : α → ExceptT ε (StateM σ) β}
    (h : (x >>= f).run.run before = (.ok b, after)) : ∃ a between,
      x.run.run before = (.ok a, between) ∧ (f a).run.run between = (.ok b, after) := by
  rw [ExceptT.run_bind, StateT.run_bind] at h
  cases hx : x.run.run before with
  | mk outcome between =>
    rw [hx] at h
    cases outcome with
    | error e => cases h
    | ok a => exact ⟨a, between, rfl, h⟩

theorem eq_of_run_lift {x : StateM σ α}
    (h : (liftM x : ExceptT ε (StateM σ) α).run.run before = (.ok a, after)) :
    x.run before = (a, after) := by
  have hlift : (liftM x : ExceptT ε (StateM σ) α).run.run before =
      (.ok (x.run before).1, (x.run before).2) := rfl
  rw [hlift] at h
  obtain ⟨hvalue, hstate⟩ := Prod.mk.inj h
  exact Prod.ext (Except.ok.inj hvalue) hstate

end HybridInverter
