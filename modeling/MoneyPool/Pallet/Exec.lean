import Mathlib

/-!
# Entry points that may fail or panic

A runtime entry point reads and writes a state and ends in one of three ways. It
returns a value, it returns an error, or it panics. The first two **keep what has
been written**: an error by itself undoes nothing. A panic has no final state at
all – what the environment does about it is the business of whoever runs the
entry point.

`Pallet.Exec` is the monad of such entry points, `Pallet.Exec.wp` its weakest
precondition with one postcondition for each way of ending. The rules below are
equivalences, so that rewriting with them turns a loop-free program into its
verification condition without losing anything: they serve to bound what a
program can do and to say exactly when it panics.

The type carries a `Pallet.Build` that no operation here looks at; the machine
arithmetic of `Pallet.Word` does.
-/

namespace Pallet

/-- **What the compiler does about overflow.** A flag says that the operations of
its kind panic when the exact result does not fit; otherwise they wrap. -/
structure Build where
  /-- Additions and subtractions are checked. -/
  sums : Bool
  /-- Products and powers are checked. -/
  products : Bool
  deriving DecidableEq

namespace Build

/-- The optimised build: nothing is checked, everything wraps. -/
@[reducible] def release : Build := ⟨false, false⟩

/-- The development build: every overflow panics. -/
@[reducible] def debug : Build := ⟨true, true⟩

/-- A build in which the sums wrap and an overflowing product or power panics. -/
@[reducible] def productsOnly : Build := ⟨false, true⟩

end Build

/-- **The ways an entry point ends.** -/
inductive Outcome (σ ε α : Type) where
  /-- A value is returned. -/
  | ok (a : α) (s : σ) : Outcome σ ε α
  /-- An error is returned; the writes made so far stay. -/
  | err (e : ε) (s : σ) : Outcome σ ε α
  /-- The program panicked. -/
  | panic : Outcome σ ε α

/-- The final state of an entry point that has succeeded. -/
def Outcome.okState {σ ε α : Type} : Outcome σ ε α → Option σ
  | .ok _ s => some s
  | _ => none

theorem Outcome.exists_ok_of_okState {σ ε α : Type} {o : Outcome σ ε α} {s : σ}
    (h : o.okState = some s) : ∃ a, o = .ok a s := by
  cases o with
  | ok a t =>
    cases h
    exact ⟨a, rfl⟩
  | err e t => cases h
  | panic => cases h

theorem Outcome.eq_ok_of_okState {σ ε : Type} {o : Outcome σ ε Unit} {s : σ}
    (h : o.okState = some s) : o = .ok () s := by
  obtain ⟨⟨⟩, ho⟩ := exists_ok_of_okState h
  exact ho

/-- The value of an entry point that has succeeded. -/
def Outcome.okValue {σ ε α : Type} : Outcome σ ε α → Option α
  | .ok a _ => some a
  | _ => none

theorem Outcome.exists_ok_of_okValue {σ ε α : Type} {o : Outcome σ ε α} {a : α}
    (h : o.okValue = some a) : ∃ s, o = .ok a s := by
  cases o with
  | ok a' t =>
    cases h
    exact ⟨t, rfl⟩
  | err e t => cases h
  | panic => cases h

/-- The final state of an entry point that has returned an error. -/
def Outcome.errState {σ ε α : Type} : Outcome σ ε α → Option σ
  | .err _ s => some s
  | _ => none

theorem Outcome.eq_err_of_errState {σ ε : Type} {o : Outcome σ ε Unit} {s : σ}
    (h : o.errState = some s) : ∃ e, o = .err e s := by
  cases o with
  | ok a t => cases h
  | err e t =>
    cases h
    exact ⟨e, rfl⟩
  | panic => cases h

/-- **An entry point** on states `σ`, with errors `ε`. -/
def Exec (_β : Build) (σ ε α : Type) : Type := σ → Outcome σ ε α

/-- A part of a state, with the laws that make it one. -/
structure Lens (σ τ : Type) where
  /-- Read the part. -/
  get : σ → τ
  /-- Replace the part. -/
  set : τ → σ → σ
  get_set : ∀ t s, get (set t s) = t
  set_get : ∀ s, set (get s) s = s
  set_set : ∀ t t' s, set t (set t' s) = set t s

namespace Exec

variable {β : Build} {σ τ ε α γ ι : Type}

instance : Monad (Exec β σ ε) where
  pure a := fun s => .ok a s
  bind x f := fun s => match x s with
    | .ok a s' => f a s'
    | .err e s' => .err e s'
    | .panic => .panic

theorem bind_apply (x : Exec β σ ε α) (f : α → Exec β σ ε γ) (s : σ) :
    (x >>= f) s = match x s with
      | .ok a s' => f a s'
      | .err e s' => .err e s'
      | .panic => .panic := rfl

instance : LawfulMonad (Exec β σ ε) := by
  refine LawfulMonad.mk' _ (fun x => ?_) (fun _ _ => rfl) (fun x f g => ?_)
  · funext s
    change (x >>= pure) s = x s
    rw [bind_apply]
    cases x s <;> rfl
  · funext s
    simp only [bind_apply]
    cases x s <;> rfl

/-- Return an error. -/
def fail (e : ε) : Exec β σ ε α := fun s => .err e s

/-- Panic. -/
def halt : Exec β σ ε α := fun _ => .panic

/-- Read something off the state. -/
def gets (f : σ → α) : Exec β σ ε α := fun s => .ok (f s) s

/-- Rewrite the state. -/
def modify (f : σ → σ) : Exec β σ ε Unit := fun s => .ok () (f s)

/-- Return an error unless a condition holds. -/
def ensure (c : Prop) [Decidable c] (e : ε) : Exec β σ ε Unit := if c then pure () else fail e

/-- The value of an option, or a panic. -/
def unwrap : Option α → Exec β σ ε α
  | some a => pure a
  | none => halt

/-- The value of an option, or an error. -/
def okOr (o : Option α) (e : ε) : Exec β σ ε α := o.elim (fail e) pure

/-- Run a program and forget whether it returned an error: its writes stay either
way. -/
def swallow (x : Exec β σ ε Unit) : Exec β σ ε Unit := fun s => match x s with
  | .err _ s' => .ok () s'
  | r => r

/-- Run a program, and a handler on the state it left if it returned an error. -/
def orElse (x : Exec β σ ε α) (h : ε → Exec β σ ε α) : Exec β σ ε α := fun s => match x s with
  | .err e s' => h e s'
  | r => r

/-- Run a program, and panic if it returned an error. -/
def expectOk (x : Exec β σ ε α) : Exec β σ ε α := fun s => match x s with
  | .err _ _ => .panic
  | r => r

/-- Run a program on a part of the state. -/
def zoom (l : Lens σ τ) (x : Exec β τ ε α) : Exec β σ ε α := fun s => match x (l.get s) with
  | .ok a t => .ok a (l.set t s)
  | .err e t => .err e (l.set t s)
  | .panic => .panic

/-- Run a program for each element of a list, in order. -/
def forEach : List ι → (ι → Exec β σ ε Unit) → Exec β σ ε Unit
  | [], _ => pure ()
  | i :: is, f => do
    f i
    forEach is f

/-! ### The weakest precondition -/

/-- **The weakest precondition** of a program: `Q` if it returns a value, `E` if
it returns an error, `P` if it panics. -/
def wp (x : Exec β σ ε α) (Q : α → σ → Prop) (E : ε → σ → Prop) (P : Prop) (s : σ) : Prop :=
  match x s with
  | .ok a s' => Q a s'
  | .err e s' => E e s'
  | .panic => P

/-- **A program completes** on a state: it does not panic there. -/
def Completes (x : Exec β σ ε α) (s : σ) : Prop := wp x (fun _ _ => True) (fun _ _ => True) False s

variable {x : Exec β σ ε α} {Q Q' : α → σ → Prop} {E E' : ε → σ → Prop} {P P' : Prop} {s s' : σ}

theorem wp_of_ok {a : α} (h : x s = .ok a s') : wp x Q E P s ↔ Q a s' := by
  rw [wp, h]

theorem wp_of_err {e : ε} (h : x s = .err e s') : wp x Q E P s ↔ E e s' := by
  rw [wp, h]

theorem wp_of_panic (h : x s = .panic) : wp x Q E P s ↔ P := by
  rw [wp, h]

theorem completes_iff_ne_panic : x.Completes s ↔ x s ≠ .panic := by
  unfold Completes wp
  cases x s <;> simp

/-- **Consequence**: a specification may be weakened in every component. -/
theorem wp_mono (h : wp x Q E P s) (hQ : ∀ a s', Q a s' → Q' a s') (hE : ∀ e s', E e s' → E' e s')
    (hP : P → P') : wp x Q' E' P' s := by
  unfold wp at h ⊢
  cases hx : x s with
  | ok a s' =>
    rw [hx] at h
    exact hQ a s' h
  | err e s' =>
    rw [hx] at h
    exact hE e s' h
  | panic =>
    rw [hx] at h
    exact hP h

/-- Two specifications of one program hold together. -/
theorem wp_and (h : wp x Q E P s) (h' : wp x Q' E' P' s) :
    wp x (fun a s' => Q a s' ∧ Q' a s') (fun e s' => E e s' ∧ E' e s') (P ∧ P') s := by
  unfold wp at h h' ⊢
  cases hx : x s <;> rw [hx] at h h' <;> exact ⟨h, h'⟩

/-- **The ways a program can end**, read off what is known about it. -/
theorem cases_of_wp (h : wp x Q E P s) :
    (∃ a t, x s = .ok a t ∧ Q a t) ∨ (∃ e t, x s = .err e t ∧ E e t) ∨ x s = .panic ∧ P := by
  unfold wp at h
  cases hx : x s with
  | ok a t =>
    rw [hx] at h
    exact Or.inl ⟨a, t, rfl, h⟩
  | err e t =>
    rw [hx] at h
    exact Or.inr (Or.inl ⟨e, t, rfl, h⟩)
  | panic =>
    rw [hx] at h
    exact Or.inr (Or.inr ⟨rfl, h⟩)

/-- **What has the same weakest preconditions ends the same way**, whatever the builds are. -/
theorem eq_of_wp_iff {β' : Build} {y : Exec β' σ ε α}
    (h : ∀ (Q : α → σ → Prop) (E : ε → σ → Prop) (P : Prop), wp x Q E P s ↔ wp y Q E P s) :
    x s = y s := by
  have hself : wp y (fun a t => y s = .ok a t) (fun e t => y s = .err e t) (y s = .panic) s := by
    unfold wp
    split <;> assumption
  rcases cases_of_wp ((h _ _ _).mpr hself) with ⟨a, t, hx, hy⟩ | ⟨e, t, hx, hy⟩ | ⟨hx, hy⟩
  · rw [hx, hy]
  · rw [hx, hy]
  · rw [hx, hy]

/-- **The step rule** of a machine that keeps what was written before an error: what a program
establishes whether or not it returns an error, the next state has. -/
theorem of_settled {R : σ → Prop} {next : Option σ}
    (hwp : wp x (fun _ t => R t) (fun _ t => R t) P s) (hok : ∀ a t, x s = .ok a t → next = some t)
    (herr : ∀ e t, x s = .err e t → next = some t)
    (hpanic : x s = .panic → P → next = some s' → R s') (hnext : next = some s') : R s' := by
  rcases cases_of_wp hwp with ⟨a, t, hx, ht⟩ | ⟨e, t, hx, ht⟩ | ⟨hx, hP⟩
  · rw [hok a t hx] at hnext
    exact Option.some.inj hnext ▸ ht
  · rw [herr e t hx] at hnext
    exact Option.some.inj hnext ▸ ht
  · exact hpanic hx hP hnext

/-- A program that has nothing to satisfy satisfies it. -/
theorem wp_trivial : wp x (fun _ _ => True) (fun _ _ => True) True s := by
  unfold wp
  cases x s <;> trivial

/-- Where a program that returns no error completes, it establishes what holds anyway. -/
theorem wp_const_iff {p : Prop} (h : wp x (fun _ _ => True) (fun _ _ => False) True s) :
    wp x (fun _ _ => p) (fun _ _ => True) False s ↔ x.Completes s ∧ p := by
  rcases cases_of_wp h with ⟨_, _, hx, -⟩ | ⟨_, _, -, hno⟩ | ⟨hx, -⟩
  · rw [Completes, wp_of_ok hx, wp_of_ok hx, true_and]
  · exact hno.elim
  · rw [Completes, wp_of_panic hx, wp_of_panic hx, false_and]

/-- A program that can only return a value returns one. -/
theorem exists_ok_of_wp (h : wp x Q (fun _ _ => False) False s) :
    ∃ a s', x s = .ok a s' ∧ Q a s' := by
  rcases cases_of_wp h with hok | ⟨_, _, -, hno⟩ | ⟨-, hno⟩
  · exact hok
  · exact hno.elim
  · exact hno.elim

/-- A program that can only end in one way ends in that way. -/
theorem eq_ok_of_wp {x : Exec β σ ε Unit}
    (h : wp x (fun _ t => t = s') (fun _ _ => False) False s) : x s = .ok () s' := by
  obtain ⟨_, _, hx, rfl⟩ := exists_ok_of_wp h
  exact hx

/-- A program that can only panic panics. -/
theorem eq_panic_of_wp (h : wp x (fun _ _ => False) (fun _ _ => False) True s) :
    x s = .panic := by
  rcases cases_of_wp h with ⟨_, _, -, hno⟩ | ⟨_, _, -, hno⟩ | ⟨hx, -⟩
  · exact hno.elim
  · exact hno.elim
  · exact hx

@[simp] theorem wp_pure (a : α) : wp (pure a : Exec β σ ε α) Q E P s ↔ Q a s := Iff.rfl

@[simp] theorem wp_bind {Q : γ → σ → Prop} (f : α → Exec β σ ε γ) :
    wp (x >>= f) Q E P s ↔ wp x (fun a s' => wp (f a) Q E P s') E P s := by
  simp only [wp, bind]
  cases x s <;> rfl

@[simp] theorem wp_fail (e : ε) : wp (fail e : Exec β σ ε α) Q E P s ↔ E e s := Iff.rfl

@[simp] theorem wp_halt : wp (halt : Exec β σ ε α) Q E P s ↔ P := Iff.rfl

@[simp] theorem wp_gets (f : σ → α) : wp (gets f : Exec β σ ε α) Q E P s ↔ Q (f s) s := Iff.rfl

@[simp] theorem wp_modify {Q : Unit → σ → Prop} (f : σ → σ) :
    wp (modify f : Exec β σ ε Unit) Q E P s ↔ Q () (f s) := Iff.rfl

@[simp] theorem wp_ite (c : Prop) [Decidable c] (y : Exec β σ ε α) :
    wp (if c then x else y) Q E P s ↔ (c → wp x Q E P s) ∧ (¬c → wp y Q E P s) := by
  by_cases hc : c <;> simp [hc]

@[simp] theorem wp_ensure {Q : Unit → σ → Prop} (c : Prop) [Decidable c] (e : ε) :
    wp (ensure c e : Exec β σ ε Unit) Q E P s ↔ (c → Q () s) ∧ (¬c → E e s) := by
  simp only [ensure, wp_ite, wp_pure, wp_fail]

@[simp] theorem wp_unwrap (o : Option α) :
    wp (unwrap o : Exec β σ ε α) Q E P s ↔ (∀ a, o = some a → Q a s) ∧ (o = none → P) := by
  cases o with
  | none => simp [unwrap]
  | some a => simp [unwrap]

@[simp] theorem wp_okOr (o : Option α) (e : ε) :
    wp (okOr o e : Exec β σ ε α) Q E P s ↔ (∀ a, o = some a → Q a s) ∧ (o = none → E e s) := by
  cases o with
  | none => simp [okOr]
  | some a => simp [okOr]

@[simp] theorem wp_swallow {x : Exec β σ ε Unit} {Q : Unit → σ → Prop} :
    wp (swallow x) Q E P s ↔ wp x Q (fun _ s' => Q () s') P s := by
  simp only [wp, swallow]
  cases x s <;> rfl

@[simp] theorem wp_orElse (h : ε → Exec β σ ε α) :
    wp (orElse x h) Q E P s ↔ wp x Q (fun e s' => wp (h e) Q E P s') P s := by
  simp only [wp, orElse]
  cases x s <;> rfl

@[simp] theorem wp_expectOk :
    wp (expectOk x) Q E P s ↔ wp x Q (fun _ _ => P) P s := by
  simp only [wp, expectOk]
  cases x s <;> rfl

@[simp] theorem wp_zoom (l : Lens σ τ) (x : Exec β τ ε α) :
    wp (zoom l x) Q E P s ↔
      wp x (fun a t => Q a (l.set t s)) (fun e t => E e (l.set t s)) P (l.get s) := by
  simp only [wp, zoom]
  cases x (l.get s) <;> rfl

/-- Two guards in a row are one guard. -/
theorem guard_and {c d P X : Prop} :
    (¬c → P) ∧ (c → (¬d → P) ∧ (d → X)) ↔ (¬(c ∧ d) → P) ∧ (c ∧ d → X) := by
  tauto

/-- A guard that must not fail. -/
theorem guard_holds {c : Prop} : (¬c → False) ↔ c := by
  tauto

/-- What comes after a guard that holds. -/
theorem guard_then {c X : Prop} : c ∧ (c → X) ↔ c ∧ X := by
  tauto

/-- What is done where nothing overflows is done in two builds alike, if nothing does in them. -/
theorem guard_congr {c c' P X : Prop} (hc : c) (hc' : c') :
    (¬c → P) ∧ (c → X) ↔ (¬c' → P) ∧ (c' → X) :=
  and_congr (imp_congr_left (not_congr (iff_of_true hc hc')))
    (imp_congr_left (iff_of_true hc hc'))

/-! ### Loops -/

@[simp] theorem wp_forEach_nil (f : ι → Exec β σ ε Unit) {Q : Unit → σ → Prop} :
    wp (forEach [] f) Q E P s ↔ Q () s := Iff.rfl

@[simp] theorem wp_forEach_cons (i : ι) (is : List ι) (f : ι → Exec β σ ε Unit)
    {Q : Unit → σ → Prop} :
    wp (forEach (i :: is) f) Q E P s ↔
      wp (f i) (fun _ s' => wp (forEach is f) Q E P s') E P s := by
  rw [forEach, wp_bind]

/-- A loop of rewritings is one rewriting. -/
theorem forEach_modify (is : List ι) (f : ι → σ → σ) :
    (forEach is fun i => modify (f i) : Exec β σ ε Unit) =
      modify fun s => is.foldl (fun s i => f i s) s := by
  induction is with
  | nil => rfl
  | cons i is ih =>
    rw [forEach, ih]
    rfl

/-- **The loop rule**: what every turn keeps, the loop keeps. -/
theorem wp_forEach (I : σ → Prop) {is : List ι} {f : ι → Exec β σ ε Unit}
    (hstep : ∀ i ∈ is, ∀ s, I s → wp (f i) (fun _ s' => I s') E P s) (h : I s) :
    wp (forEach is f) (fun _ s' => I s') E P s := by
  induction is generalizing s with
  | nil => exact h
  | cons i is ih =>
    rw [wp_forEach_cons]
    refine wp_mono (hstep i (List.mem_cons_self ..) s h) (fun _ s' hs' => ?_) (fun _ _ he => he) id
    exact ih (fun j hj => hstep j (List.mem_cons_of_mem _ hj)) hs'

/-- **What the turns of a loop do**, if none of them undoes it, is done after the loop. -/
theorem wp_forEach_done (D : ι → σ → Prop) {is : List ι} {f : ι → Exec β σ ε Unit}
    (hkeep : ∀ i ∈ is, ∀ j s, D j s → wp (f i) (fun _ s' => D j s') E P s)
    (hturn : ∀ i ∈ is, ∀ s, wp (f i) (fun _ s' => D i s') E P s) :
    wp (forEach is f) (fun _ s' => ∀ i ∈ is, D i s') E P s := by
  induction is generalizing s with
  | nil => exact fun i hi => nomatch hi
  | cons i is ih =>
    rw [wp_forEach_cons]
    refine wp_mono (hturn i (List.mem_cons_self ..) s) (fun _ t ht => ?_) (fun _ _ he => he) id
    have hfirst : wp (forEach is f) (fun _ s' => D i s') E P t :=
      wp_forEach (D i) (fun j hj t ht => hkeep j (List.mem_cons_of_mem _ hj) i t ht) ht
    have hrest := ih (s := t) (fun j hj => hkeep j (List.mem_cons_of_mem _ hj))
      fun j hj => hturn j (List.mem_cons_of_mem _ hj)
    refine wp_mono (wp_and hfirst hrest) (fun _ s' h => ?_) (fun _ _ h => h.1) And.left
    exact List.forall_mem_cons.mpr h

/-- **One turn of a loop**: what holds until an element has its turn and leads there to
something that the other turns keep, leads the whole loop to it. -/
theorem wp_forEach_turn (A B : σ → Prop) {is : List ι} {i : ι} {f : ι → Exec β σ ε Unit}
    (hnodup : is.Nodup) (hi : i ∈ is)
    (hbefore : ∀ j ∈ is, j ≠ i → ∀ s, A s → wp (f j) (fun _ s' => A s') E P s)
    (hturn : ∀ s, A s → wp (f i) (fun _ s' => B s') E P s)
    (hafter : ∀ j ∈ is, j ≠ i → ∀ s, B s → wp (f j) (fun _ s' => B s') E P s) (h : A s) :
    wp (forEach is f) (fun _ s' => B s') E P s := by
  induction is generalizing s with
  | nil => cases hi
  | cons j is ih =>
    obtain ⟨hnot, hnodup'⟩ := List.nodup_cons.mp hnodup
    rw [wp_forEach_cons]
    rcases eq_or_ne j i with rfl | hj
    · refine wp_mono (hturn s h) (fun _ t ht => ?_) (fun _ _ he => he) id
      exact wp_forEach B
        (fun k hk => hafter k (List.mem_cons_of_mem _ hk) fun heq => hnot (heq ▸ hk))
        ht
    · refine wp_mono (hbefore j (List.mem_cons_self ..) hj s h) (fun _ t ht => ?_)
        (fun _ _ he => he) id
      exact ih hnodup' ((List.mem_cons.mp hi).resolve_left (Ne.symm hj))
        (fun k hk => hbefore k (List.mem_cons_of_mem _ hk))
        (fun k hk => hafter k (List.mem_cons_of_mem _ hk)) ht

/-- **When a loop completes.** If every turn keeps `I` and, where `I` holds,
completes exactly under a condition on its own element, the loop completes
exactly when all its elements meet the condition. -/
theorem completes_forEach_iff (I : σ → Prop) (c : ι → Prop) {is : List ι}
    {f : ι → Exec β σ ε Unit}
    (hkeep : ∀ i ∈ is, ∀ s, I s → wp (f i) (fun _ s' => I s') (fun _ _ => False) True s)
    (hturn : ∀ i ∈ is, ∀ s, I s → ((f i).Completes s ↔ c i)) (h : I s) :
    (forEach is f).Completes s ↔ ∀ i ∈ is, c i := by
  induction is generalizing s with
  | nil => simp [Completes]
  | cons i is ih =>
    have hi := hkeep i (List.mem_cons_self ..) s h
    have hc := hturn i (List.mem_cons_self ..) s h
    rw [Completes, wp_forEach_cons, List.forall_mem_cons]
    rcases hf : f i s with ⟨_, s'⟩ | ⟨e, s'⟩ | _
    · rw [wp_of_ok hf] at hi ⊢
      have hcompl : (f i).Completes s := (wp_of_ok hf).mpr trivial
      rw [and_iff_right (hc.mp hcompl)]
      exact ih (fun j hj => hkeep j (List.mem_cons_of_mem _ hj))
        (fun j hj => hturn j (List.mem_cons_of_mem _ hj)) hi
    · rw [wp_of_err hf] at hi
      exact hi.elim
    · rw [wp_of_panic hf]
      refine ⟨False.elim, fun hall => ?_⟩
      exact (wp_of_panic hf).mp (hc.mpr hall.1)

end Exec

end Pallet
