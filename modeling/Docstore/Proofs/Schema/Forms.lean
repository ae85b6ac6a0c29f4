import Docstore.Proofs.Json.Members
import Docstore.Proofs.Json.Order
import Docstore.Schema.Basic

/-!
# Storage and public form

Each form of a schema is its own form again, and the storage form of what callers see of a stored schema declares what
the stored schema declares (`get?_toStorage_toPublic`).
-/

namespace Docstore

namespace Schema

variable (s : Schema)

/-! ## Storage form -/

/-- The fields that the storage form declares whatever callers declare. -/
def storageFields : Fields Field :=
  [("_wperm", .ofType (.arrayOf .string)), ("_rperm", .ofType (.arrayOf .string))] ++
    if s.isUserClass then [("_hashed_password", .ofType .string), ("_password_history", .ofType .array)] else []

theorem toStorage_fields : s.toStorage.fields = Fields.insertAll s.fields s.storageFields := by
  unfold toStorage storageFields
  cases s.isUserClass <;> rfl

theorem nodup_storageFields : (Fields.names s.storageFields).Nodup := by
  unfold storageFields
  cases s.isUserClass <;> decide

theorem get?_toStorage (name : String) :
    Fields.get? name s.toStorage.fields = (Fields.get? name s.storageFields).or (Fields.get? name s.fields) := by
  rw [toStorage_fields, Fields.get?_insertAll s.nodup_storageFields]

theorem toStorage_toStorage : s.toStorage.toStorage = s.toStorage := by
  have hfields : s.toStorage.toStorage.fields = s.toStorage.fields := by
    rw [toStorage_fields, show s.toStorage.storageFields = s.storageFields from rfl]
    refine Fields.insertAll_eq_self fun e he => ?_
    have hmem : Fields.get? e.1 s.storageFields = some e.2 :=
      (Fields.get?_eq_some_iff s.nodup_storageFields _ _).mpr he
    rw [get?_toStorage, hmem]
    rfl
  calc s.toStorage.toStorage = { s.toStorage with fields := s.toStorage.toStorage.fields } := rfl
    _ = s.toStorage := by rw [hfields]

/-! ## Public form -/

/-- The fields that callers never see. -/
def hiddenNames : List String := ["_wperm", "_rperm"] ++ if s.isUserClass then ["_hashed_password"] else []

theorem toPublic_fields : s.toPublic.fields = Fields.eraseAll s.hiddenNames s.fields := by
  unfold toPublic hiddenNames
  cases s.isUserClass <;> rfl

theorem hiddenNames_subset : s.hiddenNames ⊆ Fields.names s.storageFields := by
  unfold hiddenNames storageFields
  cases s.isUserClass <;> decide

/-- Permissions that were completed are complete. -/
theorem publicPermissions_self (given : Option Json) :
    publicPermissions (some (.object (publicPermissions given))) = publicPermissions given := by
  have hclosed : (Fields.names closedPermissions).Nodup := by decide
  have hopen : Fields.names closedPermissions = Fields.names openPermissions := by decide
  have hgiven : Fields.names closedPermissions <+: Fields.names (publicPermissions given) ∧
      (Fields.names (publicPermissions given)).Nodup := by
    unfold publicPermissions
    split
    · exact ⟨Fields.names_prefix_insertAll _, Fields.nodup_insertAll hclosed⟩
    · exact ⟨hopen ▸ List.prefix_rfl, hopen ▸ hclosed⟩
  exact Fields.insertAll_of_names_prefix hgiven.1 hgiven.2

theorem toPublic_toPublic (hnodup : (Fields.names s.fields).Nodup) : s.toPublic.toPublic = s.toPublic := by
  have hfields : s.toPublic.toPublic.fields = s.toPublic.fields := by
    rw [toPublic_fields, show s.toPublic.hiddenNames = s.hiddenNames from rfl, toPublic_fields]
    exact Fields.eraseAll_eq_self fun name hname => Fields.not_mem_names_eraseAll hnodup hname
  calc s.toPublic.toPublic
      = { s.toPublic with
          fields := s.toPublic.toPublic.fields
          permissions := some (.object (publicPermissions s.toPublic.permissions)) } := rfl
    _ = s.toPublic := by
        rw [hfields, show s.toPublic.permissions = some (.object (publicPermissions s.permissions)) from rfl,
          publicPermissions_self]
        rfl

/-! ## Both -/

/-- What callers see of a stored schema declares in its storage form what was stored. -/
theorem get?_toStorage_toPublic (name : String) :
    Fields.get? name s.toStorage.toPublic.toStorage.fields = Fields.get? name s.toStorage.fields := by
  rw [get?_toStorage, show s.toStorage.toPublic.storageFields = s.storageFields from rfl]
  cases hmem : Fields.get? name s.storageFields with
  | some field =>
      rw [get?_toStorage, hmem]
      rfl
  | none =>
      -- A name that callers never see is declared by every storage form, so this one has been kept.
      have hhidden : name ∉ s.toStorage.hiddenNames := fun hname =>
        Fields.get?_eq_none_iff.mp hmem (s.hiddenNames_subset hname)
      exact (congrArg _ (toPublic_fields s.toStorage)).trans (Fields.get?_eraseAll_of_not_mem hhidden)

end Schema

end Docstore
