import MoneyPool.Pallet.Runs
import MoneyPool.Pallet.StorageMap
import MoneyPool.Types

/-!
# Keys for paths

The pallet derives a key for every path that an account asks for. A path is cut at each delimiter,
the first piece is dropped, and the others are the components that the key is derived from. Two
things go wrong. A piece that is no component ends the call in a panic, although the pallet has an
error for it. And what stands before the first delimiter is not looked at, so that paths which
differ there only share a key.

`MoneyPool.BtcBridge.subkey_paths_iff` says for which paths the call does not panic, and which two
paths differ in their components. How components are told from other bytes, and how a key is derived
from them, is not part of the repository (`MoneyPool.BtcBridge.Hkd32`).
-/

namespace MoneyPool

namespace BtcBridge

open Pallet Pallet.Exec

variable {AccountId : Type} {β : Build}

/-! ### The pallet -/

/-- `KeyMaterial`, 32 bytes. -/
abbrev KeyMaterial : Type := BitVec 256

/-- A `H256`. -/
abbrev H256 : Type := BitVec 256

/-- **What the pallet knows of paths**. A component is made of bytes and remembers them. -/
structure Hkd32 where
  /-- `DELIMITER`. -/
  delimiter : Char
  /-- `MAX_COMPONENT_LENGTH`. -/
  maxComponentLength : ℕ
  /-- The bytes that a component can be made of. -/
  isComponent : StrBytes → Bool
  /-- Too many bytes make no component. -/
  rejects_long : ∀ x : StrBytes, maxComponentLength < x.length → isComponent x = false

namespace Hkd32

variable (hkd : Hkd32)

/-- `Component::new`. -/
def component (x : StrBytes) : Option StrBytes := if hkd.isComponent x = true then some x else none

/-- The delimiter as a byte. -/
def byte : UInt8 := hkd.delimiter.val.toUInt8

end Hkd32

/-- How a key is derived from the components of a path. -/
abbrev DeriveSubkey : Type := KeyMaterial → List StrBytes → H256

/-- **The storage** of the pallet, as far as keys are concerned. -/
structure Store (AccountId : Type) where
  /-- What keys are derived from. -/
  keyMaterial : Option KeyMaterial
  /-- The keys of each account, by path. -/
  subKeyMap : StorageMap (AccountId × StrBytes) H256

/-- A program of the pallet. -/
abbrev Prog (β : Build) (AccountId α : Type) : Type := Exec β (Store AccountId) DispatchError α

/-- Change what keys are derived from. -/
def setKeyMaterial (origin : Origin AccountId) (material : KeyMaterial) :
    Prog β AccountId Unit := do
  ensureRoot origin
  modify fun s => { s with keyMaterial := some material }

/-- Push pieces to a path, one after the other. -/
def pushComponents (hkd : Hkd32) (pathBuf : List StrBytes) :
    List StrBytes → Prog β AccountId (List StrBytes)
  | [] => pure pathBuf
  | x :: components => do
    let component ← unwrap (hkd.component x)
    pushComponents hkd (pathBuf ++ [component]) components

/-- Derive the key of a path. -/
def getSubkeyFromPath [DecidableEq AccountId] (hkd : Hkd32) (deriveSubkey : DeriveSubkey)
    (origin : Origin AccountId) (pathInput : StrBytes) : Prog β AccountId Unit := do
  let who ← ensureSigned origin
  ensure ((← gets fun s => s.keyMaterial.isSome) = true) (.other "MissingKeyMaterial")
  ensure (hkd.delimiter.val < 128) (.other "UnsupporttedPathDelimiter")
  if (← gets fun s => s.subKeyMap.containsKey (who, pathInput)) = true then pure ()
  else
    let keyMaterial ← gets fun s => s.keyMaterial.getD 0
    let components := pathInput.splitOn hkd.byte
    let pathBuf ← pushComponents hkd [] components.tail
    let derivedHash := deriveSubkey keyMaterial pathBuf
    modify fun s => { s with subKeyMap := s.subKeyMap.insert (who, pathInput) derivedHash }

/-! ### Paths -/

namespace Hkd32

variable (hkd : Hkd32) (pathInput : StrBytes)

/-- The pieces of a path behind its first delimiter. -/
def pieces : List StrBytes := (pathInput.splitOn hkd.byte).tail

/-- **What is looked at of a path**: it from its first delimiter on. -/
def rest : StrBytes := pathInput.dropWhile fun x => x != hkd.byte

/-- A path without a delimiter has nothing to look at, and otherwise what stands before the first
one is dropped. -/
theorem path_cases : (hkd.pieces pathInput = [] ∧ hkd.rest pathInput = []) ∨
    ∃ text, hkd.rest pathInput = hkd.byte :: text ∧
      hkd.pieces pathInput = text.splitOn hkd.byte := by
  by_cases hmem : hkd.byte ∈ pathInput
  · obtain ⟨leading, text, rfl, hleading⟩ := List.eq_append_cons_of_mem hmem
    refine Or.inr ⟨text, ?_, ?_⟩
    · have hne : ∀ x ∈ leading, (x != hkd.byte) = true := by
        intro x hx
        exact bne_iff_ne.mpr fun heq => hleading (heq ▸ hx)
      rw [rest, List.dropWhile_append_of_pos hne, List.dropWhile_cons_of_neg (by simp)]
    · rw [pieces, List.splitOn_append_cons_self_of_not_mem hleading, List.tail_cons]
  · refine Or.inl ⟨?_, ?_⟩
    · rw [pieces, List.splitOn_eq_singleton hmem, List.tail_cons]
    · rw [rest, List.dropWhile_eq_nil_iff]
      intro x hx
      exact bne_iff_ne.mpr fun heq => hmem (heq ▸ hx)

variable {pathInput} {other : StrBytes}

/-- **Two paths have the same components** if and only if they agree from the first delimiter on. -/
theorem pieces_eq_iff : hkd.pieces pathInput = hkd.pieces other ↔
    hkd.rest pathInput = hkd.rest other := by
  rcases hkd.path_cases pathInput with ⟨hp, hp'⟩ | ⟨text, hp, hp'⟩ <;>
    rcases hkd.path_cases other with ⟨hq, hq'⟩ | ⟨text', hq, hq'⟩
  · exact iff_of_true (hp.trans hq.symm) (hp'.trans hq'.symm)
  · rw [hp, hp', hq, hq']
    exact iff_of_false (Ne.symm (List.splitOn_ne_nil _ _)) (List.cons_ne_nil _ _).symm
  · rw [hp, hp', hq, hq']
    exact iff_of_false (List.splitOn_ne_nil _ _) (List.cons_ne_nil _ _)
  · rw [hp, hp', hq, hq']
    refine ⟨fun h => ?_, fun h => ?_⟩
    · -- joining the pieces gives the text back
      have hjoin := congrArg (List.intercalate [hkd.byte]) h
      rw [List.intercalate_splitOn, List.intercalate_splitOn] at hjoin
      rw [hjoin]
    · rw [List.tail_eq_of_cons_eq h]

end Hkd32

/-! ### Calls -/

section Calls

variable [DecidableEq AccountId] {hkd : Hkd32} {deriveSubkey : DeriveSubkey}
  {s : Store AccountId} {origin : Origin AccountId} {who : AccountId} {pathInput : StrBytes}
  {pathBuf : List StrBytes}

omit [DecidableEq AccountId] in
/-- **Pushing pieces** panics at the first one that is no component. -/
theorem wp_pushComponents {Q : List StrBytes → Store AccountId → Prop}
    {E : DispatchError → Store AccountId → Prop} {P : Prop} (xs : List StrBytes) :
    wp (pushComponents hkd pathBuf xs : Prog β AccountId (List StrBytes)) Q E P s ↔
      ((∀ x ∈ xs, hkd.isComponent x = true) → Q (pathBuf ++ xs) s) ∧
        (¬(∀ x ∈ xs, hkd.isComponent x = true) → P) := by
  induction xs generalizing pathBuf with
  | nil => simp [pushComponents]
  | cons x xs ih =>
    simp only [pushComponents, wp_bind, wp_unwrap, ih, List.forall_mem_cons]
    cases hx : hkd.isComponent x <;> simp [Hkd32.component, hx]

namespace Store

variable (s)

/-- **A key is stored.** -/
def withKey (who : AccountId) (pathInput : StrBytes) (key : H256) : Store AccountId :=
  { s with subKeyMap := s.subKeyMap.insert (who, pathInput) key }

variable (hkd) in
/-- **A call comes to derive a key**: it is signed, there is something to derive keys from, and the
account has no key for the path. -/
structure Derives (origin : Origin AccountId) (pathInput : StrBytes) (who : AccountId) : Prop where
  signed : origin = .signed who
  material : s.keyMaterial.isSome = true
  ascii : hkd.delimiter.val < 128
  fresh : s.subKeyMap.containsKey (who, pathInput) = false

variable (β hkd) in
/-- **A call stores the key of some components**: whatever keys are derived by, the one derived from
these components is stored. -/
structure Stores (who : AccountId) (pathInput : StrBytes) (pathBuf : List StrBytes) : Prop where
  fresh : s.subKeyMap.containsKey (who, pathInput) = false
  stored : ∃ keyMaterial, s.keyMaterial = some keyMaterial ∧ ∀ deriveSubkey : DeriveSubkey,
    (getSubkeyFromPath hkd deriveSubkey (.signed who) pathInput : Prog β AccountId Unit) s =
      .ok () (s.withKey who pathInput (deriveSubkey keyMaterial pathBuf))

end Store

/-- What a call does that comes to derive a key. -/
theorem wp_getSubkeyFromPath {Q : Unit → Store AccountId → Prop}
    {E : DispatchError → Store AccountId → Prop} {P : Prop}
    (h : s.Derives hkd origin pathInput who) :
    wp (getSubkeyFromPath hkd deriveSubkey origin pathInput : Prog β AccountId Unit) Q E P s ↔
      ((∀ x ∈ hkd.pieces pathInput, hkd.isComponent x = true) →
        Q () (s.withKey who pathInput
          (deriveSubkey (s.keyMaterial.getD 0) (hkd.pieces pathInput)))) ∧
        (¬(∀ x ∈ hkd.pieces pathInput, hkd.isComponent x = true) → P) := by
  obtain ⟨rfl, hmaterial, hascii, hfresh⟩ := h
  obtain ⟨keyMaterial, hm⟩ := Option.isSome_iff_exists.mp hmaterial
  simp [getSubkeyFromPath, wp_pushComponents, hm, hascii, hfresh, Hkd32.pieces, Store.withKey]

/-- A call that does not come to derive a key ends. -/
theorem completes_of_not_derives (h : ∀ who, ¬s.Derives hkd origin pathInput who) :
    (getSubkeyFromPath hkd deriveSubkey origin pathInput : Prog β AccountId Unit).Completes s := by
  simp only [Completes, getSubkeyFromPath, wp_bind, wp_ensureSigned, wp_gets, wp_ensure, wp_ite,
    wp_pure, implies_true, true_and, and_true]
  rintro who rfl hmaterial hascii hfresh
  exact absurd ⟨rfl, hmaterial, hascii, Bool.eq_false_of_not_eq_true hfresh⟩ (h who)

/-- **When a call does not panic**: if it comes to derive a key, all pieces of the path are
components. -/
theorem getSubkey_completes_iff :
    (getSubkeyFromPath hkd deriveSubkey origin pathInput : Prog β AccountId Unit).Completes s ↔
      ∀ who, s.Derives hkd origin pathInput who →
        ∀ x ∈ hkd.pieces pathInput, hkd.isComponent x = true := by
  by_cases hderives : ∃ who, s.Derives hkd origin pathInput who
  · obtain ⟨who, hwho⟩ := hderives
    rw [Completes, wp_getSubkeyFromPath hwho]
    constructor
    · rintro ⟨-, hpanic⟩ _ -
      exact not_not.mp hpanic
    · intro h
      exact ⟨fun _ => trivial, fun hno => hno (h who hwho)⟩
  · have hnone : ∀ who, ¬s.Derives hkd origin pathInput who := not_exists.mp hderives
    exact iff_of_true (completes_of_not_derives hnone) fun who hwho => absurd hwho (hnone who)

/-- **The components a key is derived from** are the pieces of its path. -/
theorem Store.Stores.eq_pieces (h : s.Stores β hkd who pathInput pathBuf) :
    pathBuf = hkd.pieces pathInput := by
  obtain ⟨hfresh, m, hm, hstored⟩ := h
  -- a derivation that tells the pieces from everything else
  have hx := hstored fun _ xs => if xs = hkd.pieces pathInput then 1 else 0
  have hspec : wp (getSubkeyFromPath hkd (fun _ xs => if xs = hkd.pieces pathInput then 1 else 0)
      (.signed who) pathInput : Prog β AccountId Unit) (fun _ t => t = s.withKey who pathInput 1)
      (fun _ _ => True) True s := by
    simp [getSubkeyFromPath, wp_pushComponents, hm, hfresh, Hkd32.pieces, Store.withKey]
  have hkey := congrArg (fun t => t.subKeyMap.get? (who, pathInput)) ((wp_of_ok hx).mp hspec)
  simp only [Store.withKey, StorageMap.get?_insert, if_true] at hkey
  by_contra hne
  rw [if_neg hne] at hkey
  exact absurd hkey (by decide)

/-- A call that comes to derive a key stores one, if all pieces are components. -/
theorem Store.Derives.stores (h : s.Derives hkd (.signed who) pathInput who)
    (hall : ∀ x ∈ hkd.pieces pathInput, hkd.isComponent x = true) :
    s.Stores β hkd who pathInput (hkd.pieces pathInput) := by
  obtain ⟨m, hm⟩ := Option.isSome_iff_exists.mp h.material
  refine ⟨h.fresh, m, hm, fun derive => ?_⟩
  refine eq_ok_of_wp ?_
  rw [wp_getSubkeyFromPath h, hm]
  exact ⟨fun _ => rfl, fun hno => hno hall⟩

/-- A piece that is too long ends a call that comes to derive a key in a panic. -/
theorem panics_of_long {x : StrBytes} (h : s.Derives hkd origin pathInput who)
    (hx : x ∈ hkd.pieces pathInput) (hlong : hkd.maxComponentLength < x.length) :
    (getSubkeyFromPath hkd deriveSubkey origin pathInput : Prog β AccountId Unit) s = .panic := by
  have hno : ¬∀ x ∈ hkd.pieces pathInput, hkd.isComponent x = true := by
    intro hall
    have hyes := hall x hx
    rw [hkd.rejects_long x hlong] at hyes
    cases hyes
  refine eq_panic_of_wp ?_
  rw [wp_getSubkeyFromPath h]
  exact ⟨fun hall => hno hall, fun _ => trivial⟩

end Calls

/-! ### Runs -/

section Runs

variable [DecidableEq AccountId] (β) (hkd : Hkd32) (deriveSubkey : DeriveSubkey)
  {s s₀ : Store AccountId}

/-- The calls that are about keys. -/
inductive Call where
  | setKeyMaterial (material : KeyMaterial) : Call
  | getSubkeyFromPath (pathInput : StrBytes) : Call

/-- What a call does. -/
def dispatch (origin : Origin AccountId) : Call → Prog β AccountId Unit
  | .setKeyMaterial material => setKeyMaterial origin material
  | .getSubkeyFromPath pathInput => getSubkeyFromPath hkd deriveSubkey origin pathInput

/-- **A transition**: an error keeps what was written, a panic nothing. -/
def next (i : Origin AccountId × Call) (s : Store AccountId) : Option (Store AccountId) :=
  match dispatch β hkd deriveSubkey i.1 i.2 s with
  | .ok _ s' => some s'
  | .err _ s' => some s'
  | .panic => some s

/-- **Every key that is stored** is derived from the components of its path. -/
def Store.KeysOfPaths (s : Store AccountId) : Prop :=
  ∀ who pathInput key, s.subKeyMap.get? (who, pathInput) = some key →
    ∃ material, key = deriveSubkey material (hkd.pieces pathInput)

/-- A call keeps that. -/
theorem dispatch_keysOfPaths (h : s.KeysOfPaths hkd deriveSubkey) (origin : Origin AccountId)
    (call : Call) : wp (dispatch β hkd deriveSubkey origin call)
      (fun _ t => t.KeysOfPaths hkd deriveSubkey) (fun _ t => t.KeysOfPaths hkd deriveSubkey) True
      s := by
  cases call with
  | setKeyMaterial material =>
    simp only [dispatch, setKeyMaterial, wp_bind, wp_ensureRoot, wp_modify]
    exact ⟨fun _ => h, fun _ => h⟩
  | getSubkeyFromPath pathInput =>
    simp only [dispatch, getSubkeyFromPath, wp_bind, wp_ensureSigned, wp_gets, wp_ensure, wp_ite,
      wp_pure, wp_pushComponents, wp_modify]
    refine ⟨fun who _ => ⟨fun _ => ⟨fun _ => ⟨fun _ => h, fun _ => ⟨fun _ => ?_, fun _ => trivial⟩⟩,
      fun _ => h⟩, fun _ => h⟩, fun _ => h⟩
    intro who' pathInput' key hkey
    rw [StorageMap.get?_insert] at hkey
    split at hkey
    · rename_i heq
      cases heq
      exact ⟨_, (Option.some.inj hkey).symm⟩
    · exact h who' pathInput' key hkey

/-- **In every run** from a storage without keys, every key is derived from the components of its
path. So paths that agree from their first delimiter on have keys of the same components. -/
theorem keysOfPaths_of_reachable (hempty : s₀.subKeyMap = .empty)
    (hreach : Reachable (next β hkd deriveSubkey) s₀ s) : s.KeysOfPaths hkd deriveSubkey := by
  refine hreach.invariant (I := fun s => s.KeysOfPaths hkd deriveSubkey) ?_ ?_
  · intro who pathInput key hkey
    rw [hempty] at hkey
    exact nomatch hkey
  · intro s i s' h _ hnext
    have hspec := dispatch_keysOfPaths β hkd deriveSubkey h i.1 i.2
    refine of_settled hspec (fun _ _ hx => ?_) (fun _ _ hx => ?_) (fun hx _ heq => ?_) hnext
    · rw [next, hx]
    · rw [next, hx]
    · rw [next, hx] at heq
      exact Option.some.inj heq ▸ h

end Runs

/-! ### The keys of two paths -/

variable [DecidableEq AccountId]

/-- **Which paths get a key of their own.** A call that comes to derive a key does not panic if and
only if every piece behind the first delimiter is a component, and so it panics where one of them is
too long. Keys of two paths are derived from different components if and only if the paths differ
from their first delimiter on: what stands before it does not matter. -/
theorem subkey_paths_iff (hkd : Hkd32) :
    (∀ (s : Store AccountId) (deriveSubkey : DeriveSubkey) (origin : Origin AccountId)
        (pathInput : StrBytes),
      (getSubkeyFromPath hkd deriveSubkey origin pathInput : Prog β AccountId Unit).Completes s ↔
        ∀ who, s.Derives hkd origin pathInput who →
          ∀ x ∈ hkd.pieces pathInput, hkd.isComponent x = true) ∧
    (∀ (s : Store AccountId) (deriveSubkey : DeriveSubkey) (origin : Origin AccountId)
        (pathInput x : StrBytes) (who : AccountId), s.Derives hkd origin pathInput who →
      x ∈ hkd.pieces pathInput → hkd.maxComponentLength < x.length →
        (getSubkeyFromPath hkd deriveSubkey origin pathInput : Prog β AccountId Unit) s = .panic) ∧
    ∀ (s t : Store AccountId) (who : AccountId) (pathInput other : StrBytes)
        (pathBuf pathBuf' : List StrBytes), s.Stores β hkd who pathInput pathBuf →
      t.Stores β hkd who other pathBuf' →
        (pathBuf ≠ pathBuf' ↔ hkd.rest pathInput ≠ hkd.rest other) := by
  refine ⟨fun _ _ _ _ => getSubkey_completes_iff, fun _ _ _ _ _ _ => panics_of_long, ?_⟩
  intro s t who pathInput other pathBuf pathBuf' h h'
  rw [h.eq_pieces, h'.eq_pieces]
  exact not_congr hkd.pieces_eq_iff

/-- Paths are cut at slashes, and a component has at most 256 bytes. -/
def exampleHkd : Hkd32 where
  delimiter := '/'
  maxComponentLength := 256
  isComponent x := x.length ≤ 256
  rejects_long _ hlong := decide_eq_false (Nat.not_le.mpr hlong)

/-- A storage with something to derive keys from. -/
def exampleStore : Store ℕ := { keyMaterial := some 1, subKeyMap := .empty }

/-- The account 5 has no key yet, and so it gets one for every path of components. -/
theorem example_derives (pathInput : StrBytes) :
    exampleStore.Derives exampleHkd (.signed 5) pathInput 5 :=
  ⟨rfl, rfl, by decide, rfl⟩

/-- The paths `/a` and `/b` have different components. -/
theorem subkey_paths_example : ([[97]] : List StrBytes) ≠ [[98]] ∧
    exampleHkd.rest [47, 97] ≠ exampleHkd.rest [47, 98] := by
  have ha : exampleStore.Stores .release exampleHkd 5 [47, 97] [[97]] :=
    (example_derives _).stores (by decide)
  have hb : exampleStore.Stores .release exampleHkd 5 [47, 98] [[98]] :=
    (example_derives _).stores (by decide)
  have hdiff : ([[97]] : List StrBytes) ≠ [[98]] := by decide
  exact ⟨hdiff, ((subkey_paths_iff exampleHkd).2.2 _ _ _ _ _ _ _ ha hb).mp hdiff⟩

/-- A path with a piece of 257 bytes ends in a panic, and the paths `a/b` and `c/b` get a key of the
same components. -/
theorem subkey_paths_collide :
    (getSubkeyFromPath exampleHkd (fun _ _ => 0) (.signed 5) (47 :: List.replicate 257 97) :
        Prog .release ℕ Unit) exampleStore = .panic ∧
      ([97, 47, 98] : StrBytes) ≠ [99, 47, 98] ∧
      exampleStore.Stores .release exampleHkd 5 [97, 47, 98] [[98]] ∧
      exampleStore.Stores .release exampleHkd 5 [99, 47, 98] [[98]] := by
  refine ⟨panics_of_long (x := List.replicate 257 97) (example_derives _) ?_ ?_, by decide,
    (example_derives _).stores (by decide), (example_derives _).stores (by decide)⟩
  · decide +kernel
  · decide +kernel

end BtcBridge

end MoneyPool
