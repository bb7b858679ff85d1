import MoneyPool.Pallet.Runs

/-!
# Bookkeeping

What a ledger is for, without any of its machinery: how much every account has of every asset, on
natural numbers that never run out. A `Pallet.Book` changes by `Pallet.Entry`s alone. An entry
takes an amount from one account and gives it to another; one without a payer issues the amount,
and one without a payee retires it. `Pallet.Book.Posts` says that a book becomes another one by a
list of entries, each of which its payer can cover.

The rest reads books off their entries. What an account has is what it had, what it was paid and
what it has paid (`Pallet.Book.Posts.balance`); what all accounts have is the supply
(`Pallet.Book.Posts.sound`); and whoever pays nothing loses nothing
(`Pallet.Book.Posts.balance_le`).

A machine *keeps a book* (`Pallet.Keeps`) if all that its transitions do to the book is to post
entries that their inputs have authorised. What a run has done to the book is then on its entries
(`Pallet.Keeps.posts_of_run`), and nobody loses what no input was authorised to take
(`Pallet.Keeps.balance_le`).
-/

namespace Pallet

variable {A W : Type}

/-! ### Entries -/

/-- **An entry**: an amount of an asset goes from the payer, or from nowhere, to the payee, or to
nowhere. -/
structure Entry (A W : Type) where
  asset : A
  /-- Who pays; nobody, if the amount is issued. -/
  payer : Option W
  /-- Who is paid; nobody, if the amount is retired. -/
  payee : Option W
  amount : ℕ

/-- A payment of one account to another. -/
def Entry.pay (asset : A) (payer payee : W) (amount : ℕ) : Entry A W :=
  ⟨asset, some payer, some payee, amount⟩

/-- An amount that is issued to an account. -/
def Entry.issue (asset : A) (payee : W) (amount : ℕ) : Entry A W :=
  ⟨asset, none, some payee, amount⟩

/-- An amount of an account that is retired. -/
def Entry.retire (asset : A) (payer : W) (amount : ℕ) : Entry A W :=
  ⟨asset, some payer, none, amount⟩

/-- An amount of one account, or of none. -/
noncomputable def only (who : Option W) (n : ℕ) : W →₀ ℕ := who.elim 0 fun w => Finsupp.single w n

/-- The amount that no account has. -/
def rest (who : Option W) (n : ℕ) : ℕ := who.elim n fun _ => 0

theorem degree_only (who : Option W) (n : ℕ) : (only who n).degree + rest who n = n := by
  cases who with
  | none => exact (congrArg (· + n) (map_zero Finsupp.degree)).trans (Nat.zero_add n)
  | some w => exact Finsupp.degree_single w n

theorem only_apply [DecidableEq W] (who : Option W) (n : ℕ) (w : W) :
    only who n w = if who = some w then n else 0 := by
  cases who with
  | none => rfl
  | some w' =>
    show Finsupp.single w' n w = _
    simp only [Finsupp.single_apply, Option.some.injEq]

namespace Entry

variable [DecidableEq A] (e : Entry A W) (a : A)

/-- What an entry moves of an asset. -/
def moves : ℕ := if e.asset = a then e.amount else 0

/-- **What an entry takes** from each account. -/
noncomputable def debit : W →₀ ℕ := only e.payer (e.moves a)

/-- **What an entry gives** to each account. -/
noncomputable def credit : W →₀ ℕ := only e.payee (e.moves a)

/-- What an entry issues. -/
def issued : ℕ := rest e.payer (e.moves a)

/-- What an entry retires. -/
def retired : ℕ := rest e.payee (e.moves a)

variable {e a} in
/-- An entry takes nothing from who does not pay this asset. -/
theorem debit_apply_eq_zero [DecidableEq W] {w : W} (h : e.asset = a → e.payer ≠ some w) :
    e.debit a w = 0 := by
  rw [debit, only_apply, ite_eq_right_iff]
  exact fun hpayer => if_neg fun hasset => h hasset hpayer

end Entry

/-! ### Books -/

/-- **A book**: what every account has of every asset, and what was issued of it. -/
@[ext] structure Book (A W : Type) where
  balance : A → W →₀ ℕ
  supply : A → ℕ

namespace Book

variable [DecidableEq A]

/-- **Posting an entry**, which its payer has to cover. -/
structure Post (b : Book A W) (e : Entry A W) (b' : Book A W) : Prop where
  covered : ∀ w, e.payer = some w → e.amount ≤ b.balance e.asset w
  balance : ∀ a, b'.balance a + e.debit a = b.balance a + e.credit a
  supply : ∀ a, b'.supply a + e.retired a = b.supply a + e.issued a

/-- **Posting entries**, one after the other. -/
inductive Posts : Book A W → List (Entry A W) → Book A W → Prop
  | nil (b : Book A W) : Posts b [] b
  | cons {b b₁ b' : Book A W} {e : Entry A W} {es : List (Entry A W)} (first : b.Post e b₁)
      (rest : Posts b₁ es b') : Posts b (e :: es) b'

/-- **A sound book**: what all accounts have is what was issued. -/
def Sound (b : Book A W) : Prop := ∀ a, (b.balance a).degree = b.supply a

variable {b b' b'' : Book A W} {e : Entry A W} {es es' : List (Entry A W)} {a : A} {w : W}

/-- An entry leaves a sound book sound. -/
theorem Post.sound (h : b.Post e b') (hb : b.Sound) : b'.Sound := by
  intro a
  have hbalance := congrArg Finsupp.degree (h.balance a)
  have hsupply := h.supply a
  have hdebit : (e.debit a).degree + e.issued a = e.moves a := degree_only _ _
  have hcredit : (e.credit a).degree + e.retired a = e.moves a := degree_only _ _
  have hsound := hb a
  rw [map_add, map_add] at hbalance
  omega

/-! ### Posting by balances -/

section Apply

variable [DecidableEq W] {asset : A} {payer payee : W} {n : ℕ}

/-- **An entry is posted** if every balance changes by what it takes and gives. -/
theorem Post.of_apply (hcovered : ∀ w, e.payer = some w → e.amount ≤ b.balance e.asset w)
    (hbalance : ∀ a w, b'.balance a w + (if e.payer = some w then e.moves a else 0) =
      b.balance a w + if e.payee = some w then e.moves a else 0)
    (hsupply : ∀ a, b'.supply a + e.retired a = b.supply a + e.issued a) : b.Post e b' where
  covered := hcovered
  balance a := by
    ext w
    rw [Finsupp.add_apply, Finsupp.add_apply, Entry.debit, Entry.credit, only_apply, only_apply]
    exact hbalance a w
  supply := hsupply

/-- A payment between two accounts is posted if it leaves the one for the other. -/
theorem Post.of_pay (hne : payer ≠ payee)
    (hpayer : b'.balance asset payer + n = b.balance asset payer)
    (hpayee : b'.balance asset payee = b.balance asset payee + n)
    (hframe : ∀ a w, (a = asset → w ≠ payer ∧ w ≠ payee) → b'.balance a w = b.balance a w)
    (hsupply : b'.supply = b.supply) : b.Post (.pay asset payer payee n) b' := by
  refine .of_apply ?_ (fun a w => ?_) fun a => congrArg (· + 0) (congrFun hsupply a)
  · rintro w ⟨⟩
    exact hpayer ▸ Nat.le_add_left n _
  · simp only [Entry.pay, Entry.moves, Option.some.injEq]
    rcases eq_or_ne asset a with rfl | ha
    · rcases eq_or_ne payer w with rfl | hw
      · simp [hne.symm, hpayer]
      · rcases eq_or_ne payee w with rfl | hw'
        · simp [hne, hpayee]
        · simp [hw, hw', hframe asset w fun _ => ⟨hw.symm, hw'.symm⟩]
    · simp [ha, hframe a w fun h => absurd h.symm ha]

/-- A payment of an account to itself changes nothing. -/
theorem Post.of_pay_self (hle : n ≤ b.balance asset payer) :
    b.Post (.pay asset payer payer n) b := by
  refine .of_apply ?_ (fun _ _ => rfl) fun _ => rfl
  rintro w ⟨⟩
  exact hle

/-- What is issued to an account, it has more. -/
theorem Post.of_issue (hpayee : b'.balance asset payee = b.balance asset payee + n)
    (hframe : ∀ a w, (a = asset → w ≠ payee) → b'.balance a w = b.balance a w)
    (hissued : b'.supply asset = b.supply asset + n)
    (hothers : ∀ a, a ≠ asset → b'.supply a = b.supply a) :
    b.Post (.issue asset payee n) b' := by
  refine .of_apply (fun _ h => nomatch h) (fun a w => ?_) fun a => ?_
  · simp only [Entry.issue, Entry.moves, Option.some.injEq]
    rcases eq_or_ne asset a with rfl | ha
    · rcases eq_or_ne payee w with rfl | hw
      · simp [hpayee]
      · simp [hw, hframe asset w fun _ => hw.symm]
    · simp [ha, hframe a w fun h => absurd h.symm ha]
  · rcases eq_or_ne asset a with rfl | ha
    · simp [Entry.issue, Entry.issued, Entry.retired, Entry.moves, rest, hissued]
    · simp [Entry.issue, Entry.issued, Entry.retired, Entry.moves, rest, ha, hothers a ha.symm]

/-- What is retired of an account, it has less. -/
theorem Post.of_retire (hpayer : b'.balance asset payer + n = b.balance asset payer)
    (hframe : ∀ a w, (a = asset → w ≠ payer) → b'.balance a w = b.balance a w)
    (hretired : b'.supply asset + n = b.supply asset)
    (hothers : ∀ a, a ≠ asset → b'.supply a = b.supply a) :
    b.Post (.retire asset payer n) b' := by
  refine .of_apply ?_ (fun a w => ?_) fun a => ?_
  · rintro w ⟨⟩
    exact hpayer ▸ Nat.le_add_left n _
  · simp only [Entry.retire, Entry.moves, Option.some.injEq]
    rcases eq_or_ne asset a with rfl | ha
    · rcases eq_or_ne payer w with rfl | hw
      · simp [hpayer]
      · simp [hw, hframe asset w fun _ => hw.symm]
    · simp [ha, hframe a w fun h => absurd h.symm ha]
  · rcases eq_or_ne asset a with rfl | ha
    · simp [Entry.retire, Entry.issued, Entry.retired, Entry.moves, rest, hretired]
    · simp [Entry.retire, Entry.issued, Entry.retired, Entry.moves, rest, ha, hothers a ha.symm]

end Apply

/-! ### Posting one after the other -/

theorem Posts.append (h : b.Posts es b') (h' : b'.Posts es' b'') : b.Posts (es ++ es') b'' := by
  induction h with
  | nil => exact h'
  | cons hfirst _ ih => exact .cons hfirst (ih h')

theorem Posts.one (h : b.Post e b') : b.Posts [e] b' := .cons h (.nil b')

/-- **Conservation**: entries leave a sound book sound. -/
theorem Posts.sound (h : b.Posts es b') (hb : b.Sound) : b'.Sound := by
  induction h with
  | nil => exact hb
  | cons hfirst _ ih => exact ih (hfirst.sound hb)

/-- **The statement of an account**: what it has now and has paid is what it had and was paid. -/
theorem Posts.balance (h : b.Posts es b') (a : A) :
    b'.balance a + (es.map fun e => e.debit a).sum =
      b.balance a + (es.map fun e => e.credit a).sum := by
  induction h with
  | nil => rfl
  | @cons b b₁ b' e es hfirst _ ih =>
    rw [List.map_cons, List.map_cons, List.sum_cons, List.sum_cons]
    calc b'.balance a + (e.debit a + (es.map fun e => e.debit a).sum)
        = b'.balance a + (es.map fun e => e.debit a).sum + e.debit a := by
          rw [add_comm (e.debit a), add_assoc]
      _ = b₁.balance a + e.debit a + (es.map fun e => e.credit a).sum := by
          rw [ih, add_right_comm]
      _ = b.balance a + (e.credit a + (es.map fun e => e.credit a).sum) := by
          rw [hfirst.balance a, add_assoc]

/-- **The supply** at the end is what it was, what was issued and what was retired. -/
theorem Posts.supply (h : b.Posts es b') (a : A) :
    b'.supply a + (es.map fun e => e.retired a).sum =
      b.supply a + (es.map fun e => e.issued a).sum := by
  induction h with
  | nil => rfl
  | cons hfirst _ ih =>
    have hone := hfirst.supply a
    rw [List.map_cons, List.map_cons, List.sum_cons, List.sum_cons]
    omega

/-- **Who pays nothing, loses nothing.** -/
theorem Posts.balance_le [DecidableEq W] (h : b.Posts es b')
   (hpays : ∀ e ∈ es, e.asset = a → e.payer ≠ some w) : b.balance a w ≤ b'.balance a w := by
  induction h with
  | nil => exact le_rfl
  | @cons b b₁ b' e es hfirst _ ih =>
    obtain ⟨hpayer, hrest⟩ := List.forall_mem_cons.mp hpays
    have hone := DFunLike.congr_fun (hfirst.balance a) w
    rw [Finsupp.add_apply, Finsupp.add_apply, Entry.debit_apply_eq_zero hpayer, add_zero] at hone
    exact (Nat.le_add_right _ _).trans (hone.symm.le.trans (ih hrest))

end Book

/-! ### Machines that keep a book -/

/-- **A machine keeps a book**: in the states that matter, every transition posts entries, each of
which its input is authorised to post, and leads to such a state again. -/
structure Keeps [DecidableEq A] {σ ι : Type} (next : ι → σ → Option σ) (book : σ → Book A W)
    (auth : σ → ι → Entry A W → Prop) (I : σ → Prop) : Prop where
  keeps : ∀ i s s', I s → next i s = some s' → I s'
  posts : ∀ i s s', I s → next i s = some s' →
    ∃ es, (∀ e ∈ es, auth s i e) ∧ (book s).Posts es (book s')

namespace Keeps

variable [DecidableEq A] {σ ι : Type} {next : ι → σ → Option σ} {book : σ → Book A W}
  {auth : σ → ι → Entry A W → Prop} {I : σ → Prop} {s₀ s : σ} {is : List ι} {a : A} {w : W}

/-- **A run posts** the entries of its transitions, one after the other. -/
theorem posts_of_run (h : Keeps next book auth I) (hI : I s₀) (hrun : run next is s₀ = some s) :
    ∃ ess, List.Forall₂ (fun x es => ∀ e ∈ es, auth x.1 x.2.1 e) (trace next is s₀) ess ∧
      (book s₀).Posts ess.flatten (book s) := by
  induction is generalizing s₀ with
  | nil =>
    cases hrun
    exact ⟨[], .nil, .nil _⟩
  | cons i is ih =>
    obtain ⟨s₁, hi, his⟩ := Option.bind_eq_some_iff.mp hrun
    obtain ⟨es, hauth, hfirst⟩ := h.posts i s₀ s₁ hI hi
    obtain ⟨ess, hauths, hrest⟩ := ih (h.keeps i s₀ s₁ hI hi) his
    rw [trace_cons_of_some hi]
    exact ⟨es :: ess, .cons hauth hauths, hfirst.append hrest⟩

omit [DecidableEq A] in
/-- An entry of a run was authorised by one of its transitions. -/
theorem exists_auth {xs : List (σ × ι × σ)} {ess : List (List (Entry A W))}
    (h : List.Forall₂ (fun x es => ∀ e ∈ es, auth x.1 x.2.1 e) xs ess) {e : Entry A W}
    (he : e ∈ ess.flatten) : ∃ x ∈ xs, auth x.1 x.2.1 e := by
  induction h with
  | nil => cases he
  | @cons x es xs ess hx _ ih =>
    rw [List.flatten_cons, List.mem_append] at he
    rcases he with hfirst | hrest
    · exact ⟨x, List.mem_cons_self .., hx e hfirst⟩
    · obtain ⟨x', hmem, hauth⟩ := ih hrest
      exact ⟨x', List.mem_cons_of_mem _ hmem, hauth⟩

/-- **Nobody loses** what no transition of a run was authorised to take. -/
theorem balance_le [DecidableEq W] (h : Keeps next book auth I) (hI : I s₀)
    (hrun : run next is s₀ = some s)
    (hpays : ∀ x ∈ trace next is s₀, ∀ e, auth x.1 x.2.1 e → e.asset = a → e.payer ≠ some w) :
    (book s₀).balance a w ≤ (book s).balance a w := by
  obtain ⟨ess, hauths, hposts⟩ := h.posts_of_run hI hrun
  refine hposts.balance_le fun e he => ?_
  obtain ⟨x, hx, hauth⟩ := exists_auth hauths he
  exact hpays x hx e hauth

end Keeps

end Pallet
