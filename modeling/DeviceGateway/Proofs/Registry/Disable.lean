import DeviceGateway.Proofs.Table
import DeviceGateway.Registry.Basic

/-! Devices that are disabled one after the other. The registry that is left depends only on
which devices they are, and not on their order or number. -/

namespace DeviceGateway.Registry

/-- The registry with the devices of the names disabled. -/
def disableAll (names : List String) (r : Registry) : Registry := names.foldl disable r

variable (r : Registry)

theorem disableAll_append (names names' : List String) :
    r.disableAll (names ++ names') = (r.disableAll names).disableAll names' :=
  List.foldl_append

/-- The device, disabled if its name is among the names. -/
def stateAmong (names : List String) (name : String) (d : Device) : Device :=
  if name ∈ names then { d with operatingState := .disabled } else d

theorem byName_disable (name key : String) : (r.disable name).byName.get? key =
    (r.byName.get? key).map (stateAmong [name] key) := by
  unfold disable updateOperatingState stateAmong
  by_cases hkey : key = name
  · subst hkey
    cases hd : r.byName.get? key with
    | none => simp [hd]
    | some d => simp
  · have hmem : key ∉ [name] := by simpa using hkey
    cases hd : r.byName.get? name with
    | none => simp [hmem]
    | some d => simp [Table.get?_insert, hkey]

theorem byName_disableAll (names : List String) (key : String) :
    (r.disableAll names).byName.get? key = (r.byName.get? key).map (stateAmong names key) := by
  induction names generalizing r with
  | nil =>
    show r.byName.get? key = _
    cases r.byName.get? key <;> rfl
  | cons name names ih =>
    show ((r.disable name).disableAll names).byName.get? key = _
    rw [ih, byName_disable, Option.map_map]
    congr 1
    funext d
    by_cases hname : key = name <;> by_cases hrest : key ∈ names <;>
      simp [stateAmong, hname, hrest]

theorem disableAll_eq (names : List String) :
    r.disableAll names = { r with byName := (r.disableAll names).byName } := by
  induction names generalizing r with
  | nil => rfl
  | cons name names ih =>
    show (r.disable name).disableAll names =
      { r with byName := ((r.disable name).disableAll names).byName }
    rw [ih]
    unfold disable updateOperatingState
    cases r.byName.get? name <;> rfl

/-- Only which devices are disabled counts. -/
theorem disableAll_congr {names names' : List String} (h : ∀ n, n ∈ names ↔ n ∈ names') :
    r.disableAll names = r.disableAll names' := by
  have hbyName : (r.disableAll names).byName = (r.disableAll names').byName := by
    refine Table.eq_of_get?_eq fun key => ?_
    rw [byName_disableAll, byName_disableAll]
    congr 1
    funext d
    simp only [stateAmong, h]
  rw [disableAll_eq, hbyName, ← disableAll_eq]

end DeviceGateway.Registry
