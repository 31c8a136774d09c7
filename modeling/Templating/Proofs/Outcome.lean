/-
Steps that may fail, opened one at a time.

- `bind_eq_ok`, `bind_eq_error`, `map_eq_ok`, `map_eq_error`: a chain of steps succeeds exactly when every step does.
- `Compile.outcome_bind`: a compilation hands its cache from step to step, and leaves it behind when a step fails.
- `foldlM_mono`: a fold that succeeds still does when its steps succeed more often.
-/
import Mathlib.Tactic.Common
import Mathlib.Tactic.SplitIfs
import Templating.TemplateSet

namespace Templating

variable {ε α β : Type}

/-! ## Results -/

theorem bind_eq_ok {x : Except ε α} {f : α → Except ε β} {b : β} :
    (x >>= f) = .ok b ↔ ∃ a, x = .ok a ∧ f a = .ok b := by
  cases x <;> simp [bind, Except.bind]

theorem bind_eq_error {x : Except ε α} {f : α → Except ε β} {e : ε} :
    (x >>= f) = .error e ↔ x = .error e ∨ ∃ a, x = .ok a ∧ f a = .error e := by
  cases x <;> simp [bind, Except.bind]

theorem map_eq_ok {x : Except ε α} {f : α → β} {b : β} : x.map f = .ok b ↔ ∃ a, x = .ok a ∧ f a = b := by
  cases x <;> simp [Except.map]

theorem map_eq_error {x : Except ε α} {f : α → β} {e : ε} : x.map f = .error e ↔ x = .error e := by
  cases x <;> simp [Except.map]

theorem exists_eq_ok_of_isOk {x : Except ε α} (h : x.isOk = true) : ∃ a, x = .ok a := by
  cases x with
  | error e => cases h
  | ok a => exact ⟨a, rfl⟩

/-- results that are all there, as a list -/
theorem exists_map_ok_iff {f : α → Except ε β} {l : List α} :
    (∃ l' : List β, l.map f = l'.map .ok) ↔ ∀ a ∈ l, ∃ b, f a = .ok b := by
  induction l with
  | nil => simp
  | cons a l ih =>
    rw [List.forall_mem_cons, ← ih]
    constructor
    · rintro ⟨l', h⟩
      obtain ⟨b, l', rfl, hb, hrest⟩ := List.map_eq_cons_iff.1 h.symm
      exact ⟨⟨b, hb.symm⟩, l', hrest.symm⟩
    · rintro ⟨⟨b, hb⟩, l', hrest⟩
      exact ⟨b :: l', by rw [List.map_cons, List.map_cons, hb, hrest]⟩

theorem eq_ok_of_toOption {x : Except ε α} {a : α} (h : x.toOption = some a) : x = .ok a := by
  cases x with
  | error e => cases h
  | ok b => rw [Option.some.inj h]

/-- steps that succeed more often keep the result of a fold -/
theorem foldlM_mono {f g : β → α → Except ε β} (h : ∀ b a b', f b a = .ok b' → g b a = .ok b') {l : List α} {b r : β}
    (hr : l.foldlM f b = .ok r) : l.foldlM g b = .ok r := by
  induction l generalizing b with
  | nil => exact hr
  | cons a l ih =>
    rw [List.foldlM_cons] at hr ⊢
    obtain ⟨b', hb', hr⟩ := bind_eq_ok.1 hr
    rw [h b a b' hb']
    exact ih hr

/-- a fold whose steps all give something -/
theorem foldlM_isSome {f : β → α → Option β} {l : List α} (h : ∀ a ∈ l, ∀ b, (f b a).isSome) (b : β) :
    (l.foldlM f b).isSome := by
  induction l generalizing b with
  | nil => rfl
  | cons a l ih =>
    obtain ⟨b', hb'⟩ := Option.isSome_iff_exists.1 (h a List.mem_cons_self b)
    rw [List.foldlM_cons, hb']
    exact ih (fun a ha => h a (List.mem_cons_of_mem _ ha)) b'

/-- every step of a fold that gives something does -/
theorem exists_of_foldlM {f : β → α → Option β} {l : List α} {b r : β} (h : l.foldlM f b = some r) {a : α}
    (ha : a ∈ l) : ∃ b₁ b₂, f b₁ a = some b₂ := by
  induction l generalizing b with
  | nil => cases ha
  | cons head l ih =>
    obtain ⟨b', hhead, htail⟩ := Option.bind_eq_some_iff.1 h
    rcases List.mem_cons.1 ha with rfl | ha
    · exact ⟨b, b', hhead⟩
    · exact ih htail ha

/-! ## Outcomes of compilations -/

namespace Compile

@[simp] theorem outcome_pure (a : α) (cache : Dict Template) :
    (pure a : Compile α).outcome cache = (.ok a, cache) := rfl

@[simp] theorem outcome_throw (e : TemplateError) (cache : Dict Template) :
    (throw e : Compile α).outcome cache = (.error e, cache) := rfl

@[simp] theorem outcome_ofExcept (e : Except TemplateError α) (cache : Dict Template) :
    (ofExcept e).outcome cache = (e, cache) := rfl

/-- a first step that succeeds hands its cache on -/
theorem outcome_bind_ok {x : Compile α} {f : α → Compile β} {cache cache' : Dict Template} {a : α}
    (h : x.outcome cache = (.ok a, cache')) : (x >>= f).outcome cache = (f a).outcome cache' := by
  simp only [outcome, bind, ExceptT.bind, ExceptT.run, ExceptT.mk, StateT.bind, StateT.run] at h ⊢
  rw [h]
  rfl

/-- a first step that fails leaves its cache behind -/
theorem outcome_bind_error {x : Compile α} {f : α → Compile β} {cache cache' : Dict Template} {e : TemplateError}
    (h : x.outcome cache = (.error e, cache')) : (x >>= f).outcome cache = (.error e, cache') := by
  simp only [outcome, bind, ExceptT.bind, ExceptT.run, ExceptT.mk, StateT.bind, StateT.run] at h ⊢
  rw [h]
  rfl

theorem outcome_bind (x : Compile α) (f : α → Compile β) (cache : Dict Template) :
    (x >>= f).outcome cache =
      match x.outcome cache with
      | (.ok a, cache) => (f a).outcome cache
      | (.error e, cache) => (.error e, cache) := by
  rcases hout : x.outcome cache with ⟨e | a, cache'⟩
  · exact outcome_bind_error hout
  · exact outcome_bind_ok hout

end Compile

end Templating
