import MoneyPool.Pallet.Runs

/-!
# Simulations

A machine that does many things at once may, seen from one of the things it looks after, be a much
smaller machine. The small one takes *events*: what an input of the large one means for that thing,
if it means anything. `Pallet.Simulates` says that the small machine follows the large one step by
step, and `Pallet.Simulates.follows` that it then follows every run: the events of the run are a run
of the small machine, which ends in a state that belongs to the one of the large machine.

What the small machine never does, the large one therefore never does to the thing.
-/

namespace Pallet

variable {σ ι τ ε : Type} {next : ι → σ → Option σ} {abs : ε → τ → Option τ}

/-! ### Runs of runs -/

theorem run_append {es es' : List ε} {t t' t'' : τ} (h : run abs es t = some t')
    (h' : run abs es' t' = some t'') : run abs (es ++ es') t = some t'' := by
  induction es generalizing t with
  | nil =>
    cases h
    exact h'
  | cons e es ih =>
    obtain ⟨t₁, he, hes⟩ := Option.bind_eq_some_iff.mp h
    show (abs e t).bind (run abs (es ++ es')) = some t''
    rw [he]
    exact ih hes

/-- A run of one event is its transition. -/
theorem run_singleton {e : ε} {t t' : τ} (h : abs e t = some t') : run abs [e] t = some t' := by
  show (abs e t).bind (run abs []) = some t'
  rw [h]
  rfl

/-- **Invariants of a run and its inputs**: what every transition keeps while its input joins those
before it, the run keeps. -/
theorem history_invariant {I : List ι → σ → Prop}
    (hstep : ∀ is i s s', I is s → next i s = some s' → I (is ++ [i]) s') {is : List ι} {s₀ s : σ}
    (h : I [] s₀) (hrun : run next is s₀ = some s) : I is s := by
  have hall : I (is.foldl (fun is i => is ++ [i]) []) s := foldl_invariant hstep h hrun
  have hinputs : is.foldl (fun is i => is ++ [i]) [] = is := by
    simp [← List.flatMap_def]
  rwa [hinputs] at hall

/-- The transitions of a run are made by its inputs. -/
theorem input_mem_of_mem_trace {is : List ι} {s : σ} {x : σ × ι × σ} (h : x ∈ trace next is s) :
    x.2.1 ∈ is := by
  induction is generalizing s with
  | nil => exact absurd h List.not_mem_nil
  | cons i is ih =>
    cases hnext : next i s with
    | none =>
      rw [trace_cons_of_none hnext] at h
      exact absurd h List.not_mem_nil
    | some s' =>
      rw [trace_cons_of_some hnext] at h
      rcases List.mem_cons.mp h with rfl | hrest
      · exact List.mem_cons_self ..
      · exact List.mem_cons_of_mem _ (ih hrest)

/-- What a run collects, one of its inputs has given. -/
theorem exists_input_of_collect {α : Type} {give : ι → σ → Option α} {is : List ι} {s : σ} {a : α}
    (h : a ∈ collect next give is s) : ∃ i ∈ is, ∃ t, give i t = some a := by
  induction is generalizing s with
  | nil => exact absurd h List.not_mem_nil
  | cons i is ih =>
    rcases List.mem_append.mp h with hfirst | hrest
    · exact ⟨i, List.mem_cons_self .., s, Option.mem_toList.mp hfirst⟩
    · cases hnext : next i s with
      | none =>
        rw [hnext] at hrest
        exact absurd hrest List.not_mem_nil
      | some s' =>
        rw [hnext] at hrest
        obtain ⟨j, hj, t, ht⟩ := ih hrest
        exact ⟨j, List.mem_cons_of_mem _ hj, t, ht⟩

/-! ### Simulation -/

/-- **A machine simulates another one**: whatever a transition means, its event is one the machine
can take, in a state that belongs to the start of the transition, and leads to one that belongs to
its end. -/
structure Simulates (next : ι → σ → Option σ) (c : σ → ι → Prop) (give : ι → σ → Option ε)
    (abs : ε → τ → Option τ) (R : σ → τ → Prop) : Prop where
  step : ∀ i s s' t, R s t → c s i → next i s = some s' →
    ∃ t', run abs (give i s).toList t = some t' ∧ R s' t'

/-- **The machine follows every run.** -/
theorem Simulates.follows {c : σ → ι → Prop} {give : ι → σ → Option ε} {R : σ → τ → Prop}
    (h : Simulates next c give abs R) {is : List ι} {s₀ s : σ} {t₀ : τ} (hstart : R s₀ t₀)
    (hrun : run next is s₀ = some s) (hc : ∀ x ∈ trace next is s₀, c x.1 x.2.1) :
    ∃ t, run abs (collect next give is s₀) t₀ = some t ∧ R s t := by
  induction is generalizing s₀ t₀ with
  | nil =>
    cases hrun
    exact ⟨t₀, rfl, hstart⟩
  | cons i is ih =>
    obtain ⟨s₁, hi, his⟩ := Option.bind_eq_some_iff.mp hrun
    rw [trace_cons_of_some hi, List.forall_mem_cons] at hc
    obtain ⟨t₁, hfirst, hR⟩ := h.step i s₀ s₁ t₀ hstart hc.1 hi
    obtain ⟨t, hrest, hend⟩ := ih hR his hc.2
    rw [collect, hi]
    exact ⟨t, run_append hfirst hrest, hend⟩

end Pallet
