import Mathlib

/-!
# Runs of a machine that may stop

A machine is a partial transition function: an input takes a state to the next
one, or stops the machine for good. `Pallet.Reach` is the set of states reached
by inputs that all meet a condition in the state they are taken in – the
condition is what a guarantee about runs is relative to, and `fun _ _ => True`
gives plain reachability. `Pallet.Reach.invariant` is the one induction over runs
that the invariants below need.

`Pallet.run` follows a given list of inputs and `Pallet.trace` keeps the
transitions it makes, so that a quantity can be summed along a run.
-/

namespace Pallet

variable {σ ι : Type} (next : ι → σ → Option σ)

/-- **Reachability** from `s₀` by inputs that meet `c` in the state they are taken
in. -/
inductive Reach (c : σ → ι → Prop) (s₀ : σ) : σ → Prop
  /-- The start is reached. -/
  | refl : Reach c s₀ s₀
  /-- An input that meets the condition leads on. -/
  | tail {s s' : σ} {i : ι} : Reach c s₀ s → c s i → next i s = some s' → Reach c s₀ s'

/-- Reachability by any inputs. -/
abbrev Reachable (s₀ s : σ) : Prop := Reach next (fun _ _ => True) s₀ s

/-- The state a list of inputs leads to. -/
def run : List ι → σ → Option σ
  | [], s => some s
  | i :: is, s => (next i s).bind (run is)

/-- The transitions a list of inputs makes, until the machine stops. -/
def trace : List ι → σ → List (σ × ι × σ)
  | [], _ => []
  | i :: is, s => match next i s with
    | none => []
    | some s' => (s, i, s') :: trace is s'

variable {next} {c c' : σ → ι → Prop} {s₀ s s' : σ}

/-- **Invariants**: what the start has and every transition keeps, every reached
state has. -/
theorem Reach.invariant {I : σ → Prop} (h : Reach next c s₀ s) (hstart : I s₀)
    (hstep : ∀ s i s', I s → c s i → next i s = some s' → I s') : I s := by
  induction h with
  | refl => exact hstart
  | tail _ hc hn ih => exact hstep _ _ _ ih hc hn

theorem Reach.mono (h : Reach next c s₀ s) (hc : ∀ s i, c s i → c' s i) : Reach next c' s₀ s := by
  induction h with
  | refl => exact .refl
  | tail _ hci hn ih => exact ih.tail (hc _ _ hci) hn

theorem Reach.trans {s₁ : σ} (h : Reach next c s₀ s₁) (h' : Reach next c s₁ s) :
    Reach next c s₀ s := by
  induction h' with
  | refl => exact h
  | tail _ hc hn ih => exact ih.tail hc hn

/-- A run reaches the state it leads to. -/
theorem reachable_of_run {is : List ι} (h : run next is s₀ = some s) : Reachable next s₀ s := by
  induction is generalizing s₀ with
  | nil =>
    cases h
    exact .refl
  | cons i is ih =>
    obtain ⟨s₁, hi, his⟩ := Option.bind_eq_some_iff.mp h
    exact (Reach.refl.tail trivial hi).trans (ih his)

/-- A run whose inputs all meet a condition reaches the state it leads to. -/
theorem reach_of_run {c : ι → Prop} {is : List ι} (h : run next is s₀ = some s)
    (hc : ∀ i ∈ is, c i) : Reach next (fun _ i => c i) s₀ s := by
  induction is generalizing s₀ with
  | nil =>
    cases h
    exact .refl
  | cons i is ih =>
    obtain ⟨s₁, hi, his⟩ := Option.bind_eq_some_iff.mp h
    refine (Reach.refl.tail (hc i (List.mem_cons_self ..)) hi).trans (ih his ?_)
    exact fun j hj => hc j (List.mem_cons_of_mem _ hj)

/-- What the inputs of a run give, each in the state it is taken in, until the machine
stops. -/
def collect {α : Type} (next : ι → σ → Option σ) (give : ι → σ → Option α) : List ι → σ → List α
  | [], _ => []
  | i :: is, s => (give i s).toList ++ (next i s).elim [] (collect next give is)

/-- **Invariants of a run and its history**: what every transition keeps while it adds to
the history what its input gives, the run keeps. -/
theorem run_invariant {α : Type} {give : ι → σ → Option α} {I : List α → σ → Prop}
    (hstep : ∀ as i s s', I as s → next i s = some s' → I (as ++ (give i s).toList) s')
    {is : List ι} {as : List α} (h : I as s₀) (hrun : run next is s₀ = some s) :
    I (as ++ collect next give is s₀) s := by
  induction is generalizing s₀ as with
  | nil =>
    cases hrun
    rw [collect, List.append_nil]
    exact h
  | cons i is ih =>
    obtain ⟨s₁, hi, his⟩ := Option.bind_eq_some_iff.mp hrun
    rw [collect, hi, Option.elim_some, ← List.append_assoc]
    exact ih (hstep as i s₀ s₁ h hi) his

/-- What every input gives is given along a run. -/
theorem forall_mem_collect {α : Type} {give : ι → σ → Option α} {p : α → Prop}
    (hgive : ∀ i s a, give i s = some a → p a) (is : List ι) (s : σ) :
    ∀ a ∈ collect next give is s, p a := by
  induction is generalizing s with
  | nil => exact fun a ha => nomatch ha
  | cons i is ih =>
    intro a ha
    rw [collect, List.mem_append, Option.mem_toList] at ha
    rcases ha with hfirst | hrest
    · exact hgive i s a hfirst
    · cases hnext : next i s with
      | none =>
        rw [hnext] at hrest
        exact nomatch hrest
      | some s' =>
        rw [hnext] at hrest
        exact ih s' a hrest

/-- The value given last along a list of inputs, or the one there was before. -/
def lastGiven {α : Type} (given : ι → Option α) (before : α) (is : List ι) : α :=
  is.foldl (fun a i => (given i).getD a) before

/-- **Invariants of a run and a value beside it**: what every transition keeps while its input
changes the value, the run keeps. -/
theorem foldl_invariant {α : Type} {upd : α → ι → α} {I : α → σ → Prop}
    (hstep : ∀ a i s s', I a s → next i s = some s' → I (upd a i) s') {is : List ι} {a : α}
    (h : I a s₀) (hrun : run next is s₀ = some s) : I (is.foldl upd a) s := by
  induction is generalizing s₀ a with
  | nil =>
    cases hrun
    exact h
  | cons i is ih =>
    obtain ⟨s₁, hi, his⟩ := Option.bind_eq_some_iff.mp hrun
    exact ih (hstep a i s₀ s₁ h hi) his

/-- A part of the state that every transition overwrites with what its input gives, if it
gives anything, has at the end of a run what was given last. -/
theorem lastGiven_of_run {α : Type} {given : ι → Option α} {read : σ → α}
    (hstep : ∀ i s s', next i s = some s' → read s' = (given i).getD (read s))
    {is : List ι} (h : run next is s₀ = some s) : read s = lastGiven given (read s₀) is :=
  foldl_invariant (I := fun a s => read s = a)
    (fun _ i s s' ha hnext => ha ▸ hstep i s s' hnext) rfl h

/-- **Sums along a run**: a quantity that every transition changes by what its input brings, has
changed by all that the inputs of a run have brought. -/
theorem sum_trace {M : Type} [AddCommMonoid M] {f : σ → M} {g : σ → ι → M} {I : σ → Prop}
    (hstep : ∀ i s s', I s → next i s = some s' → I s' ∧ f s' = f s + g s i) {is : List ι}
    (h : I s₀) (hrun : run next is s₀ = some s) :
    I s ∧ f s = f s₀ + ((trace next is s₀).map fun x => g x.1 x.2.1).sum := by
  induction is generalizing s₀ with
  | nil =>
    cases hrun
    exact ⟨h, (add_zero _).symm⟩
  | cons i is ih =>
    obtain ⟨s₁, hi, his⟩ := Option.bind_eq_some_iff.mp hrun
    obtain ⟨hI, hone⟩ := hstep i s₀ s₁ h hi
    obtain ⟨hend, hrest⟩ := ih hI his
    refine ⟨hend, ?_⟩
    rw [trace, hi, List.map_cons, List.sum_cons, hrest, hone, add_assoc]

/-- The value of an option that passes a test. -/
theorem exists_of_any {p : σ → Prop} [DecidablePred p] {o : Option σ}
    (h : (o.any fun s => p s) = true) : ∃ s, o = some s ∧ p s := by
  cases o with
  | none => cases h
  | some s => exact ⟨s, rfl, of_decide_eq_true h⟩

@[simp] theorem trace_nil : trace next [] s = [] := rfl

theorem trace_cons_of_some {i : ι} {is : List ι} (h : next i s = some s') :
    trace next (i :: is) s = (s, i, s') :: trace next is s' := by
  rw [trace, h]

theorem trace_cons_of_none {i : ι} {is : List ι} (h : next i s = none) :
    trace next (i :: is) s = [] := by
  rw [trace, h]

/-- **Invariants of the transitions of a run**: what every transition keeps that meets a condition,
a run keeps whose transitions all meet it. -/
theorem trace_invariant {I : σ → Prop} {c : σ → ι → Prop} {is : List ι}
    (hstep : ∀ i ∈ is, ∀ s s', I s → c s i → next i s = some s' → I s') (h : I s)
    (hc : ∀ e ∈ trace next is s, c e.1 e.2.1) : ∀ e ∈ trace next is s, I e.2.2 := by
  induction is generalizing s with
  | nil => exact fun e he => nomatch he
  | cons i is ih =>
    cases hnext : next i s with
    | none =>
      rw [trace_cons_of_none hnext]
      exact fun e he => nomatch he
    | some s' =>
      rw [trace_cons_of_some hnext, List.forall_mem_cons] at hc ⊢
      have hI := hstep i (List.mem_cons_self ..) s s' h hc.1 hnext
      exact ⟨hI, ih (fun j hj => hstep j (List.mem_cons_of_mem _ hj)) hI hc.2⟩

/-- **Invariants, exactly**: if a transition keeps `I` exactly where it meets a condition, a run
keeps it exactly if all of its transitions do. -/
theorem trace_invariant_iff {I : σ → Prop} {c : σ → ι → Prop} {is : List ι}
    (hstep : ∀ i ∈ is, ∀ s s', I s → next i s = some s' → (I s' ↔ c s i)) (h : I s) :
    (∀ e ∈ trace next is s, I e.2.2) ↔ ∀ e ∈ trace next is s, c e.1 e.2.1 := by
  induction is generalizing s with
  | nil => exact iff_of_true (fun e he => nomatch he) (fun e he => nomatch he)
  | cons i is ih =>
    cases hnext : next i s with
    | none =>
      rw [trace_cons_of_none hnext]
      exact iff_of_true (fun e he => nomatch he) (fun e he => nomatch he)
    | some s' =>
      have hfirst := hstep i (List.mem_cons_self ..) s s' h hnext
      rw [trace_cons_of_some hnext, List.forall_mem_cons, List.forall_mem_cons]
      constructor
      · rintro ⟨hI, hrest⟩
        exact ⟨hfirst.mp hI, (ih (fun j hj => hstep j (List.mem_cons_of_mem _ hj)) hI).mp hrest⟩
      · rintro ⟨hc, hrest⟩
        have hI := hfirst.mpr hc
        exact ⟨hI, (ih (fun j hj => hstep j (List.mem_cons_of_mem _ hj)) hI).mpr hrest⟩

end Pallet
