import MoneyPool.Pallet.Word

/-!
# Errors that leave no trace

An error keeps what has been written before it. So an entry point whose errors are to leave no trace
(`Pallet.Exec.Atomic`) has to do all of its checks before its first write. The programs here come in
two kinds: those that only read (`Pallet.Exec.Reads`) may refuse, those that do not refuse
(`Pallet.Exec.Accepts`) may write, and the former followed by the latter are atomic.
-/

namespace Pallet

namespace Exec

variable {β : Build} {σ τ ε α γ : Type} {x y : Exec β σ ε α} {f : α → Exec β σ ε γ}

/-- **A program only reads**: however it ends, nothing has been written. -/
def Reads (x : Exec β σ ε α) : Prop := ∀ s, wp x (fun _ t => t = s) (fun _ t => t = s) True s

/-- **A program does not refuse**: it returns no error. -/
def Accepts (x : Exec β σ ε α) : Prop := ∀ s, wp x (fun _ _ => True) (fun _ _ => False) True s

/-- **A program is atomic**: where it returns an error, nothing has been written. -/
def Atomic (x : Exec β σ ε α) : Prop := ∀ s, wp x (fun _ _ => True) (fun _ t => t = s) True s

theorem Atomic.eq_of_err {s t : σ} {e : ε} (h : x.Atomic) (hx : x s = .err e t) : t = s :=
  (wp_of_err hx).mp (h s)

/-! ### Reading -/

theorem reads_pure (a : α) : (pure a : Exec β σ ε α).Reads := fun _ => rfl

theorem reads_gets (g : σ → α) : (gets g : Exec β σ ε α).Reads := fun _ => rfl

theorem reads_ensure (c : Prop) [Decidable c] (e : ε) : (ensure c e : Exec β σ ε Unit).Reads :=
  fun _ => wp_ensure c e |>.mpr ⟨fun _ => rfl, fun _ => rfl⟩

theorem reads_okOr (o : Option α) (e : ε) : (okOr o e : Exec β σ ε α).Reads :=
  fun _ => (wp_okOr o e).mpr ⟨fun _ _ => rfl, fun _ => rfl⟩

theorem Reads.bind (hx : x.Reads) (hf : ∀ a, (f a).Reads) : (x >>= f).Reads := by
  intro s
  rw [wp_bind]
  refine wp_mono (hx s) (fun a t ht => ?_) (fun _ _ ht => ht) id
  exact ht ▸ hf a t

/-! ### Writing -/

theorem accepts_pure (a : α) : (pure a : Exec β σ ε α).Accepts := fun _ => trivial

theorem accepts_gets (g : σ → α) : (gets g : Exec β σ ε α).Accepts := fun _ => trivial

theorem accepts_modify (g : σ → σ) : (modify g : Exec β σ ε Unit).Accepts := fun _ => trivial

theorem accepts_add {w : ℕ} (a b : BitVec w) : (add a b : Exec β σ ε (BitVec w)).Accepts :=
  fun _ => (wp_add a b).mpr ⟨fun _ => trivial, fun _ => trivial⟩

theorem accepts_sub {w : ℕ} (a b : BitVec w) : (sub a b : Exec β σ ε (BitVec w)).Accepts :=
  fun _ => (wp_sub a b).mpr ⟨fun _ => trivial, fun _ => trivial⟩

theorem Accepts.bind (hx : x.Accepts) (hf : ∀ a, (f a).Accepts) : (x >>= f).Accepts := by
  intro s
  rw [wp_bind]
  exact wp_mono (hx s) (fun a t _ => hf a t) (fun _ _ hno => hno) id

theorem Accepts.ite {c : Prop} [Decidable c] (hx : x.Accepts) (hy : y.Accepts) :
    (if c then x else y).Accepts := by
  split
  · exact hx
  · exact hy

/-! ### Reading before writing -/

theorem Reads.atomic (hx : x.Reads) : x.Atomic :=
  fun s => wp_mono (hx s) (fun _ _ _ => trivial) (fun _ _ ht => ht) id

theorem Accepts.atomic (hx : x.Accepts) : x.Atomic :=
  fun s => wp_mono (hx s) (fun _ _ _ => trivial) (fun _ _ hno => hno.elim) id

/-- **Checks come first.** -/
theorem Reads.bind_atomic (hx : x.Reads) (hf : ∀ a, (f a).Atomic) : (x >>= f).Atomic := by
  intro s
  rw [wp_bind]
  refine wp_mono (hx s) (fun a t ht => ?_) (fun _ _ ht => ht) id
  exact ht ▸ hf a t

/-- **Writes come last.** -/
theorem Atomic.bind_accepts (hx : x.Atomic) (hf : ∀ a, (f a).Accepts) : (x >>= f).Atomic := by
  intro s
  rw [wp_bind]
  refine wp_mono (hx s) (fun a t _ => ?_) (fun _ _ ht => ht) id
  exact wp_mono (hf a t) (fun _ _ _ => trivial) (fun _ _ hno => hno.elim) id

theorem Atomic.ite {c : Prop} [Decidable c] (hx : x.Atomic) (hy : y.Atomic) :
    (if c then x else y).Atomic := by
  split
  · exact hx
  · exact hy

end Exec

end Pallet
