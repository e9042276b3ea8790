import Mathlib

/-!
Results that may be errors, and effects that may fail and keep what they did. An outcome is a result
together with the state after it; the outcome of two effects in a row is taken apart here, and a
relation between states that every effect of a sequence keeps is kept by the whole sequence.
-/

namespace LedgerRules

theorem Except.bind_eq_ok {ε α β : Type} {result : Except ε α} {next : α → Except ε β} {value : β} :
    result >>= next = .ok value ↔ ∃ middle, result = .ok middle ∧ next middle = .ok value := by
  cases result with
  | error error => simp [bind, Except.bind]
  | ok middle => simp [bind, Except.bind]

theorem Except.bind_eq_error {ε α β : Type} {result : Except ε α} {next : α → Except ε β}
    {error : ε} :
    result >>= next = .error error ↔
      result = .error error ∨ ∃ middle, result = .ok middle ∧ next middle = .error error := by
  cases result with
  | error problem => simp [bind, Except.bind]
  | ok middle => simp [bind, Except.bind]

theorem Except.pure_eq_ok {ε α : Type} {result value : α} :
    (pure result : Except ε α) = .ok value ↔ result = value := by
  simp [pure, Except.pure]

theorem Except.map_eq_ok {ε α β : Type} {result : Except ε α} {change : α → β} {value : β} :
    result.map change = .ok value ↔ ∃ middle, result = .ok middle ∧ change middle = value := by
  cases result <;> simp [Except.map]

theorem Except.map_eq_error {ε α β : Type} {result : Except ε α} {change : α → β} {error : ε} :
    result.map change = .error error ↔ result = .error error := by
  cases result <;> simp [Except.map]

theorem Except.mapError_eq_ok {ε δ α : Type} {result : Except ε α} {name : ε → δ} {value : α} :
    result.mapError name = .ok value ↔ result = .ok value := by
  cases result <;> simp [Except.mapError]

theorem Except.eq_ok_getD {ε α : Type} {result : Except ε α} (ok : result.isOk = true)
    (fallback : α) : result = .ok (result.toOption.getD fallback) := by
  cases result with
  | error error => simp [Except.isOk, Except.toBool] at ok
  | ok value => rfl

/-- A list is read if each of its items is. -/
theorem Except.isOk_mapM {ε α β : Type} (check : α → Except ε β) (items : List α) :
    (items.mapM check).isOk = items.all fun item => (check item).isOk := by
  induction items with
  | nil => rfl
  | cons item rest ih =>
      rw [List.mapM_cons, List.all_cons, ← ih]
      cases check item <;> cases rest.mapM check <;> rfl

theorem Except.mapM_eq_ok {ε α β : Type} {read : α → Except ε β} {items : List α}
    {results : List β} :
    items.mapM read = .ok results ↔
      List.Forall₂ (fun item result => read item = .ok result) items results := by
  induction items generalizing results with
  | nil => rw [List.mapM_nil, Except.pure_eq_ok, List.forall₂_nil_left_iff, eq_comm]
  | cons item rest ih =>
      simp only [List.mapM_cons, Except.bind_eq_ok, Except.pure_eq_ok, List.forall₂_cons_left_iff]
      constructor
      · rintro ⟨result, own, others, later, rfl⟩
        exact ⟨result, others, own, ih.mp later, rfl⟩
      · rintro ⟨result, others, own, later, rfl⟩
        exact ⟨result, own, others, ih.mpr later, rfl⟩

/-- The first item that is not read decides which error there is. -/
theorem Except.mapM_eq_error {ε α β : Type} {read : α → Except ε β} {items : List α} {error : ε} :
    items.mapM read = .error error ↔
      ∃ before item after, items = before ++ item :: after ∧
        (∀ earlier ∈ before, ∃ result, read earlier = .ok result) ∧ read item = .error error := by
  induction items with
  | nil => simp [pure, Except.pure]
  | cons first rest ih =>
      simp only [List.mapM_cons, Except.bind_eq_error, ih]
      constructor
      · rintro (failed | ⟨result, own, ⟨before, item, after, rfl, earlier, failed⟩ | ⟨_, _, never⟩⟩)
        · exact ⟨[], first, rest, rfl, by simp, failed⟩
        · exact ⟨first :: before, item, after, rfl,
            List.forall_mem_cons.mpr ⟨⟨result, own⟩, earlier⟩, failed⟩
        · cases never
      · rintro ⟨before, item, after, split, earlier, failed⟩
        cases before with
        | nil =>
            obtain ⟨rfl, rfl⟩ := List.cons.inj split
            exact .inl failed
        | cons _ before =>
            obtain ⟨rfl, rfl⟩ := List.cons.inj split
            obtain ⟨⟨result, own⟩, others⟩ := List.forall_mem_cons.mp earlier
            exact .inr ⟨result, own, .inl ⟨before, item, after, rfl, others, failed⟩⟩

abbrev Effect (ε σ α : Type) := ExceptT ε (StateM σ) α

namespace Effect

variable {ε σ α β : Type}

def outcome (effect : Effect ε σ α) (state : σ) : Except ε α × σ := effect.run state

@[simp] theorem outcome_pure (value : α) (state : σ) :
    outcome (pure value : Effect ε σ α) state = (.ok value, state) := rfl

@[simp] theorem outcome_throw (error : ε) (state : σ) :
    outcome (throw error : Effect ε σ α) state = (.error error, state) := rfl

@[simp] theorem outcome_get (state : σ) :
    outcome (get : Effect ε σ σ) state = (.ok state, state) := rfl

@[simp] theorem outcome_set (state replacement : σ) :
    outcome (set replacement : Effect ε σ PUnit) state = (.ok ⟨⟩, replacement) := rfl

@[simp] theorem outcome_modify (change : σ → σ) (state : σ) :
    outcome (modify change : Effect ε σ PUnit) state = (.ok ⟨⟩, change state) := rfl

theorem outcome_bind (effect : Effect ε σ α) (next : α → Effect ε σ β) (state : σ) :
    outcome (effect >>= next) state =
      match outcome effect state with
      | (.ok value, middle) => outcome (next value) middle
      | (.error error, middle) => (.error error, middle) := by
  change (match outcome effect state with
    | (result, middle) => (ExceptT.bindCont next result : StateM σ (Except ε β)) middle) = _
  obtain ⟨result | value, middle⟩ := outcome effect state <;> rfl

theorem outcome_bind_ok {effect : Effect ε σ α} {state middle : σ} {value : α}
    (first : outcome effect state = (.ok value, middle)) (next : α → Effect ε σ β) :
    outcome (effect >>= next) state = outcome (next value) middle := by
  rw [outcome_bind, first]

theorem outcome_bind_error {effect : Effect ε σ α} {state middle : σ} {error : ε}
    (first : outcome effect state = (.error error, middle)) (next : α → Effect ε σ β) :
    outcome (effect >>= next) state = (.error error, middle) := by
  rw [outcome_bind, first]

theorem outcome_tryCatch (effect : Effect ε σ α) (handler : ε → Effect ε σ α) (state : σ) :
    outcome (tryCatch effect handler) state =
      match outcome effect state with
      | (.ok value, after) => (.ok value, after)
      | (.error error, middle) => outcome (handler error) middle := by
  change (match outcome effect state with
    | (result, middle) =>
        ((match result with
          | .ok value => pure (.ok value)
          | .error error => handler error : StateM σ (Except ε α)) middle)) = _
  obtain ⟨result | value, middle⟩ := outcome effect state <;> rfl

/-- The state after an effect stands in a relation to the one before, whether it fails or not. -/
def Keeps (relation : σ → σ → Prop) (effect : Effect ε σ α) : Prop :=
  ∀ state, relation state (outcome effect state).2

section Keeps

variable {relation : σ → σ → Prop}

variable [IsPreorder σ relation]

theorem keeps_pure (value : α) : Keeps relation (pure value : Effect ε σ α) :=
  fun state => refl_of relation state

theorem keeps_throw (error : ε) : Keeps relation (throw error : Effect ε σ α) :=
  fun state => refl_of relation state

theorem Keeps.bind {effect : Effect ε σ α} {next : α → Effect ε σ β}
    (first : Keeps relation effect) (second : ∀ value, Keeps relation (next value)) :
    Keeps relation (effect >>= next) := by
  intro state
  rw [outcome_bind]
  have before := first state
  generalize outcome effect state = middle at before
  obtain ⟨result | value, middle⟩ := middle
  · exact before
  · exact trans_of relation before (second value middle)

end Keeps

def Raises (allowed : ε → Prop) (effect : Effect ε σ α) : Prop :=
  ∀ state error, (outcome effect state).1 = .error error → allowed error

/-- What holds of the state holds after the effect as well, and its errors are allowed ones. -/
def Confined (kept : σ → Prop) (allowed : ε → Prop) (effect : Effect ε σ α) : Prop :=
  ∀ state, kept state → kept (outcome effect state).2 ∧
    ∀ error, (outcome effect state).1 = .error error → allowed error

section Confined

variable {kept : σ → Prop} {allowed : ε → Prop}

theorem allowed_of_ok {value : α} (error : ε) (failed : Except.ok value = Except.error error) :
    allowed error := by
  cases failed

theorem confined_pure (value : α) : Confined kept allowed (pure value : Effect ε σ α) :=
  fun _ holds => ⟨holds, allowed_of_ok⟩

theorem confined_throw {error : ε} (known : allowed error) :
    Confined kept allowed (throw error : Effect ε σ α) := by
  intro state holds
  refine ⟨holds, ?_⟩
  rintro other ⟨⟩
  exact known

theorem Confined.bind {effect : Effect ε σ α} {next : α → Effect ε σ β}
    (first : Confined kept allowed effect) (second : ∀ value, Confined kept allowed (next value)) :
    Confined kept allowed (effect >>= next) := by
  intro state holds
  rw [outcome_bind]
  obtain ⟨after, known⟩ := first state holds
  generalize outcome effect state = middle at after known
  obtain ⟨error | value, middle⟩ := middle
  · refine ⟨after, ?_⟩
    rintro other ⟨⟩
    exact known error rfl
  · exact second value middle after

theorem Confined.raises {effect : Effect ε σ α}
    (confined : Confined (fun _ => True) allowed effect) : Raises allowed effect :=
  fun state => (confined state trivial).2

end Confined

def Unchanged {γ : Type} (view : σ → γ) (before after : σ) : Prop := view after = view before

instance {γ : Type} (view : σ → γ) : IsPreorder σ (Unchanged view) where
  refl _ := rfl
  trans _ _ _ first second := second.trans first

end Effect

end LedgerRules
