import Varmlen.Core.Outbound
import Varmlen.Daemon.Accepted

/-!
# The two guards against local files

The importer and the daemon each refuse JSON that makes Xray read or write a local
file.  Both walk over all keys, but they do not look for the same ones.
-/

namespace Varmlen.Contract

open Foundation.Json

mutual

theorem providerGuard_eq (value : Value) :
    Core.containsForbiddenProviderFileReference value = value.anyKey Core.isFileKey := by
  cases value with
  | object fields => exact providerGuard_fields fields
  | array items => exact providerGuard_items items
  | null => rfl
  | bool value => rfl
  | number value => rfl
  | string value => rfl

theorem providerGuard_fields (fields : List (String × Value)) :
    Core.fieldsContainForbidden fields = Value.fieldsAnyKey Core.isFileKey fields := by
  match fields with
  | [] => rfl
  | (key, value) :: rest =>
      rw [Core.fieldsContainForbidden, Value.fieldsAnyKey, providerGuard_eq value,
        providerGuard_fields rest]

theorem providerGuard_items (items : List Value) :
    Core.itemsContainForbidden items = Value.itemsAnyKey Core.isFileKey items := by
  match items with
  | [] => rfl
  | value :: rest =>
      rw [Core.itemsContainForbidden, Value.itemsAnyKey, providerGuard_eq value,
        providerGuard_items rest]

end

/-! ## The classes of keys -/

/-- A key that both guards refuse. -/
def isSharedKey (key : String) : Bool := ["certificateFile", "keyFile"].contains key

/-- A key that only the daemon refuses. -/
def isPathKey (key : String) : Bool := ["certificatePath", "keyPath"].contains key

/-- A key that only the importer refuses. -/
def isOtherFileKey (key : String) : Bool := Core.isFileKey key && !isSharedKey key

theorem isFileKey_eq : Core.isFileKey = fun key => isSharedKey key || isOtherFileKey key := by
  funext key
  cases shared : isSharedKey key with
  | false => simp [isOtherFileKey, shared]
  | true =>
      have known : key = "certificateFile" ∨ key = "keyFile" := by
        simpa [isSharedKey] using shared
      rcases known with rfl | rfl
      · decide
      · decide

theorem isPrivilegedKey_eq :
    Daemon.isPrivilegedKey = fun key => isSharedKey key || isPathKey key := by
  funext key
  simp [Daemon.isPrivilegedKey, isSharedKey, isPathKey, Bool.or_assoc]

/-- The guards agree on a value exactly when it has a key that both refuse, or when it
has keys of both kinds that only one of them refuses, or of neither. -/
theorem file_guards_agree_iff (value : Value) :
    (Core.containsForbiddenProviderFileReference value = true ↔
        Daemon.containsForbiddenFileKey value = true) ↔
      value.anyKey isSharedKey = true ∨
        (value.anyKey isPathKey = true ↔ value.anyKey isOtherFileKey = true) := by
  rw [providerGuard_eq, Daemon.containsForbiddenFileKey_eq, isFileKey_eq, isPrivilegedKey_eq,
    Value.anyKey_or, Value.anyKey_or]
  cases value.anyKey isSharedKey with
  | true => simp
  | false => simp [iff_comm]

/-- The importer lets a certificate path through that the daemon refuses, and the
daemon a key log that the importer refuses. -/
theorem file_guards_disagree :
    let certificate : Value :=
      .ofFields [("certificates", .array [.ofFields
        [("certificatePath", .string "/etc/ssl/private/a.pem")]])]
    let keyLog : Value := .ofFields [("masterKeyLog", .string "/tmp/keys")]
    (Core.containsForbiddenProviderFileReference certificate = false ∧
        Daemon.containsForbiddenFileKey certificate = true) ∧
      Core.containsForbiddenProviderFileReference keyLog = true ∧
        Daemon.containsForbiddenFileKey keyLog = false := by
  decide

end Varmlen.Contract
