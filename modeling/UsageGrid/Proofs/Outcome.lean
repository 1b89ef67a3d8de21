/-!
# Computations that may fail

When a computation comes out well, each of its steps has: `bind_eq_ok` takes a chain of steps
apart, `map_eq_ok` and `mapError_eq_ok` what is done to the result of one. Where it is known when a
step comes out well, and with which result, so it is of the chain (`bind_eq_ok_of`, `map_eq_ok_of`).
When it fails, the first of its steps that fails says how (`bind_eq_error`). Of two computations
one may come out well at least where the other does, and alike (`IsWithin`).
-/

namespace UsageGrid

variable {ε ε' α β : Type}

theorem bind_eq_ok {x : Except ε α} {f : α → Except ε β} {b : β} :
    x >>= f = .ok b ↔ ∃ a, x = .ok a ∧ f a = .ok b := by
  cases x with
  | error e => simp [bind, Except.bind]
  | ok a => simp [bind, Except.bind]

theorem map_eq_ok {x : Except ε α} {f : α → β} {b : β} :
    x.map f = .ok b ↔ ∃ a, x = .ok a ∧ f a = b := by
  cases x with
  | error e => simp [Except.map]
  | ok a => simp [Except.map]

theorem mapError_eq_ok {x : Except ε α} {f : ε → ε'} {a : α} :
    x.mapError f = .ok a ↔ x = .ok a := by
  cases x with
  | error e => exact ⟨fun h => (nomatch h), fun h => (nomatch h)⟩
  | ok b =>
    show Except.ok b = .ok a ↔ Except.ok b = .ok a
    rw [Except.ok.injEq, Except.ok.injEq]

theorem bind_eq_error {x : Except ε α} {f : α → Except ε β} {e : ε} :
    x >>= f = .error e ↔ x = .error e ∨ ∃ a, x = .ok a ∧ f a = .error e := by
  cases x with
  | error e' => simp [bind, Except.bind]
  | ok a => simp [bind, Except.bind]

theorem map_eq_error {x : Except ε α} {f : α → β} {e : ε} : x.map f = .error e ↔ x = .error e := by
  cases x with
  | error e' => simp [Except.map]
  | ok a => simp [Except.map]

theorem mapError_eq_error {x : Except ε α} {f : ε → ε'} {e : ε'} :
    x.mapError f = .error e ↔ ∃ e', x = .error e' ∧ f e' = e := by
  cases x with
  | error e' =>
    constructor
    · intro h
      exact ⟨e', rfl, Except.error.inj h⟩
    · rintro ⟨_, ⟨⟩, rfl⟩
      rfl
  | ok a => exact ⟨fun h => (nomatch h), fun ⟨_, h, _⟩ => (nomatch h)⟩

theorem toOption_eq_some {x : Except ε α} {a : α} : x.toOption = some a ↔ x = .ok a := by
  cases x with
  | error e => simp [Except.toOption]
  | ok b => simp [Except.toOption]

/-- There is a result where one is known to pass a test. -/
theorem exists_ok_of_any {x : Except ε α} {p : α → Bool} (h : x.toOption.any p = true) :
    ∃ a, x = .ok a ∧ p a = true := by
  obtain ⟨a, ha, hp⟩ := (Option.any_eq_true _ _).1 h
  exact ⟨a, toOption_eq_some.1 ha, hp⟩

/-- A test that every result passes is passed by the one there is. -/
theorem of_all_ok {x : Except ε α} {a : α} {p : α → Bool} (hx : x = .ok a)
    (h : x.toOption.all p = true) : p a = true := by
  subst hx
  exact h

theorem pure_eq_ok {a b : α} : (pure a : Except ε α) = .ok b ↔ a = b := by
  simp [pure, Except.pure]

theorem throw_ne_ok {e : ε} {a : α} : (throw e : Except ε α) ≠ .ok a := by
  simp [throw, throwThe, MonadExceptOf.throw]

@[simp] theorem ok_bind {a : α} {f : α → Except ε β} : (.ok a >>= f : Except ε β) = f a := rfl

@[simp] theorem error_bind {e : ε} {f : α → Except ε β} :
    (.error e >>= f : Except ε β) = .error e := rfl

@[simp] theorem map_ok {a : α} {f : α → β} : (.ok a : Except ε α).map f = .ok (f a) := rfl

theorem mapError_ok {a : α} {f : ε → ε'} : (.ok a : Except ε α).mapError f = .ok a := rfl

/-- What is done to a result that is known. -/
theorem map_eq_ok_of {x : Except ε α} {f : α → β} {P : Prop} {a : α}
    (hx : ∀ y, x = .ok y ↔ P ∧ y = a) {b : β} : x.map f = .ok b ↔ P ∧ b = f a := by
  rw [map_eq_ok]
  constructor
  · rintro ⟨y, hy, rfl⟩
    obtain ⟨hp, rfl⟩ := (hx y).1 hy
    exact ⟨hp, rfl⟩
  · rintro ⟨hp, rfl⟩
    exact ⟨a, (hx a).2 ⟨hp, rfl⟩, rfl⟩

/-- Two steps whose results are known. -/
theorem bind_eq_ok_of {x : Except ε α} {f : α → Except ε β} {P Q : Prop} {a : α} {b : β}
    (hx : ∀ y, x = .ok y ↔ P ∧ y = a) (hf : ∀ z, f a = .ok z ↔ Q ∧ z = b) {z : β} :
    x >>= f = .ok z ↔ (P ∧ Q) ∧ z = b := by
  rw [bind_eq_ok]
  constructor
  · rintro ⟨y, hy, hz⟩
    obtain ⟨hp, rfl⟩ := (hx y).1 hy
    obtain ⟨hq, rfl⟩ := (hf z).1 hz
    exact ⟨⟨hp, hq⟩, rfl⟩
  · rintro ⟨⟨hp, hq⟩, rfl⟩
    exact ⟨a, (hx a).2 ⟨hp, rfl⟩, (hf z).2 ⟨hq, rfl⟩⟩

/-- A step that is thrown away when it has come out well is no result. -/
theorem throw_bind_ne_ok {e : ε} {f : α → Except ε β} {b : β} :
    (throw e >>= f : Except ε β) ≠ .ok b := by
  simp [throw, throwThe, MonadExceptOf.throw]

/-- A translation of the errors goes through a chain of steps. -/
theorem bind_mapError {x : Except ε α} {f : α → Except ε β} {f' : α → Except ε' β} {t : ε → ε'}
    (h : ∀ a, f' a = (f a).mapError t) : (x.mapError t >>= f') = (x >>= f).mapError t := by
  cases x with
  | error e => rfl
  | ok a => exact h a

theorem map_mapError {x : Except ε α} {f : α → β} {t : ε → ε'} :
    (x.mapError t).map f = (x.map f).mapError t := by
  cases x <;> rfl

/-- What comes out of the one computation comes out of the other. -/
def IsWithin (x y : Except ε α) : Prop := ∀ a, x = .ok a → y = .ok a

namespace IsWithin

theorem refl (x : Except ε α) : IsWithin x x := fun _ h => h

/-- A computation that fails is within any other. -/
theorem error (e : ε) (y : Except ε α) : IsWithin (.error e) y := by
  intro a h
  cases h

theorem bind {x y : Except ε α} {f g : α → Except ε β} (h : IsWithin x y)
    (hf : ∀ a, IsWithin (f a) (g a)) : IsWithin (x >>= f) (y >>= g) := by
  intro b hb
  obtain ⟨a, ha, hb⟩ := bind_eq_ok.1 hb
  exact bind_eq_ok.2 ⟨a, h a ha, hf a b hb⟩

theorem map {x y : Except ε α} (h : IsWithin x y) (f : α → β) : IsWithin (x.map f) (y.map f) := by
  intro b hb
  obtain ⟨a, ha, hb⟩ := map_eq_ok.1 hb
  exact map_eq_ok.2 ⟨a, h a ha, hb⟩

/-- The computations part only where a condition fails. -/
theorem ite {x y z : Except ε α} {P : Prop} [Decidable P] (h : IsWithin x y) :
    IsWithin (if P then z else x) (if P then z else y) := by
  split
  · exact .refl z
  · exact h

end IsWithin

end UsageGrid
