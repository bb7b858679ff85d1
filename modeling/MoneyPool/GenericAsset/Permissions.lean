import MoneyPool.GenericAsset.Model
import MoneyPool.Pallet.Scale

/-!
# How permissions are stored

Permissions are stored with the number of their version in front. The version is written and read by
hand, all that follows by derived codecs: an index for the variant of an owner, and the three owners
one after the other, of which each may take no more than its index. The codec of the accounts is a
parameter. Whatever it is, the codec of the permissions is as good
(`MoneyPool.GenericAsset.permissions_round_trip`).
-/

namespace MoneyPool

namespace GenericAsset

open Pallet

variable {AccountId : Type} (account : Codec AccountId)

/-! ### The codecs -/

/-- The derived codec of an owner. -/
def Owner.codec : Codec (Owner AccountId) where
  encode
    | .none => [0]
    | .address a => 1 :: account.encode a
  decode := do
    match ← Decoder.byte with
    | 0 => pure .none
    | 1 => do
      let a ← account.decode
      pure (.address a)
    | _ => failure

/-- The derived codec of permissions: their fields in the order of the declaration. -/
def PermissionsV1.codec : Codec (PermissionsV1 AccountId) where
  encode p := (Owner.codec account).encode p.update ++ (Owner.codec account).encode p.mint ++
    (Owner.codec account).encode p.burn
  decode := do
    let update ← (Owner.codec account).decode
    let mint ← (Owner.codec account).decode
    let burn ← (Owner.codec account).decode
    pure { update := update, mint := mint, burn := burn }

/-- The number of a version of the permissions. -/
inductive PermissionVersionNumber where
  | v1

/-- The derived codec of a version number. -/
def PermissionVersionNumber.codec : Codec PermissionVersionNumber where
  encode
    | .v1 => [0]
  decode := do
    match ← Decoder.byte with
    | 0 => pure .v1
    | _ => failure

/-- **The codec of versioned permissions**, by hand. -/
def PermissionVersions.codec : Codec (PermissionVersions AccountId) where
  encode
    | .v1 payload =>
      PermissionVersionNumber.codec.encode .v1 ++ (PermissionsV1.codec account).encode payload
  decode := do
    let version ← PermissionVersionNumber.codec.decode
    match version with
    | .v1 => do
      let payload ← (PermissionsV1.codec account).decode
      pure (.v1 payload)

/-! ### Owners -/

variable {account}

theorem run_owner_none (rest : List UInt8) :
    (Owner.codec account).decode.run (0 :: rest) = some (.none, rest) := rfl

theorem run_owner_address (rest : List UInt8) :
    (Owner.codec account).decode.run (1 :: rest) =
      (do
        let a ← account.decode
        pure (.address a) : Decoder (Owner AccountId)).run rest := rfl

theorem undoes_owner (h : account.Undoes) : (Owner.codec account).Undoes := by
  intro owner rest
  cases owner with
  | none => exact run_owner_none rest
  | address a =>
    change (Owner.codec account).decode.run (1 :: (account.encode a ++ rest)) = _
    rw [run_owner_address, Decoder.run_bind_of_run (h a rest)]
    rfl

theorem canonical_owner (h : account.Canonical) : (Owner.codec account).Canonical := by
  intro b owner rest hrun
  obtain ⟨i, b', hbyte, hvariant⟩ := Decoder.run_bind_eq_some_iff.mp hrun
  obtain rfl := Decoder.run_byte_eq_some_iff.mp hbyte
  split at hvariant
  · cases hvariant
    rfl
  · obtain ⟨a, b'', ha, hpure⟩ := Decoder.run_bind_eq_some_iff.mp hvariant
    cases hpure
    rw [h b' a rest ha]
    rfl
  · cases hvariant

/-! ### Permissions -/

theorem undoes_permissionsV1 (h : account.Undoes) : (PermissionsV1.codec account).Undoes := by
  rintro ⟨update, mint, burn⟩ rest
  have howner := undoes_owner h
  change (PermissionsV1.codec account).decode.run ((_ ++ _ ++ _) ++ rest) = _
  rw [List.append_assoc, List.append_assoc, PermissionsV1.codec,
    Decoder.run_bind_of_run (howner update _), Decoder.run_bind_of_run (howner mint _),
    Decoder.run_bind_of_run (howner burn rest)]
  rfl

theorem canonical_permissionsV1 (h : account.Canonical) :
    (PermissionsV1.codec account).Canonical := by
  intro b permissions rest hrun
  have howner := canonical_owner h
  obtain ⟨update, b₁, hupdate, hrun⟩ := Decoder.run_bind_eq_some_iff.mp hrun
  obtain ⟨mint, b₂, hmint, hrun⟩ := Decoder.run_bind_eq_some_iff.mp hrun
  obtain ⟨burn, b₃, hburn, hpure⟩ := Decoder.run_bind_eq_some_iff.mp hrun
  cases hpure
  rw [howner b update b₁ hupdate, howner b₁ mint b₂ hmint, howner b₂ burn rest hburn]
  simp only [PermissionsV1.codec, List.append_assoc]

/-! ### Versions -/

theorem canonical_versionNumber : PermissionVersionNumber.codec.Canonical := by
  intro b version rest hrun
  obtain ⟨i, b', hbyte, hvariant⟩ := Decoder.run_bind_eq_some_iff.mp hrun
  obtain rfl := Decoder.run_byte_eq_some_iff.mp hbyte
  split at hvariant
  · cases hvariant
    rfl
  · cases hvariant

/-- What is read after the number of the first version. -/
theorem run_permissionVersions {b : List UInt8} :
    (PermissionVersions.codec account).decode.run (0 :: b) =
      ((PermissionsV1.codec account).decode >>= fun payload =>
        (pure (.v1 payload) : Decoder (PermissionVersions AccountId))).run b := rfl

theorem undoes_permissionVersions (h : account.Undoes) :
    (PermissionVersions.codec account).Undoes := by
  rintro ⟨payload⟩ rest
  change (PermissionVersions.codec account).decode.run
    (0 :: ((PermissionsV1.codec account).encode payload ++ rest)) = _
  rw [run_permissionVersions, Decoder.run_bind_of_run (undoes_permissionsV1 h payload rest)]
  rfl

theorem canonical_permissionVersions (h : account.Canonical) :
    (PermissionVersions.codec account).Canonical := by
  intro b permissions rest hrun
  obtain ⟨⟨⟩, b', hversion, -⟩ := Decoder.run_bind_eq_some_iff.mp hrun
  obtain rfl := canonical_versionNumber b .v1 b' hversion
  obtain ⟨payload, b'', hpayload, hpure⟩ :=
    Decoder.run_bind_eq_some_iff.mp (run_permissionVersions.symm.trans hrun)
  cases hpure
  rw [canonical_permissionsV1 h b' payload rest hpayload]
  rfl

/-- **Permissions are read as they were written.** If the codec of the accounts undoes its writing,
so does that of the permissions, whatever follows; and if it reads only what it writes, so does that
of the permissions. -/
theorem permissions_round_trip (account : Codec AccountId) :
    (account.Undoes → ∀ (v : PermissionVersions AccountId) (r : List UInt8),
      (PermissionVersions.codec account).decode.run
        ((PermissionVersions.codec account).encode v ++ r) = some (v, r)) ∧
    (account.Canonical → ∀ (b : List UInt8) (v : PermissionVersions AccountId) (r : List UInt8),
      (PermissionVersions.codec account).decode.run b = some (v, r) →
        b = (PermissionVersions.codec account).encode v ++ r) :=
  ⟨undoes_permissionVersions, canonical_permissionVersions⟩

/-- Accounts of 32 bytes. -/
theorem permissions_round_trip_example :
    (∀ v r, (PermissionVersions.codec (Codec.bytes 32)).decode.run
      ((PermissionVersions.codec (Codec.bytes 32)).encode v ++ r) = some (v, r)) ∧
    ∀ b v r, (PermissionVersions.codec (Codec.bytes 32)).decode.run b = some (v, r) →
      b = (PermissionVersions.codec (Codec.bytes 32)).encode v ++ r :=
  ⟨(permissions_round_trip (Codec.bytes 32)).1 (Codec.undoes_bytes 32),
    (permissions_round_trip (Codec.bytes 32)).2 (Codec.canonical_bytes 32)⟩

end GenericAsset

end MoneyPool
