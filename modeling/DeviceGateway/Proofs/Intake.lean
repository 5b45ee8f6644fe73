import DeviceGateway.Intake
import DeviceGateway.Proofs.Table

/-! What becomes of a batch depends on the profiles and on what devices there are, and not
on their states: a device that is disabled is read as before. Whether anything becomes of it
does not depend on the time either. -/

namespace DeviceGateway

namespace Registry

variable (r : Registry) (name : String)

theorem catalogues_disable : (r.disable name).catalogues = r.catalogues := by
  unfold disable updateOperatingState
  cases r.byName.get? name <;> rfl

/-- A device is found under its name as before, with the same name and profile. -/
theorem deviceByName_disable (key : String) :
    ((r.disable name).deviceByName key).map (fun d => (d.name, d.profile)) =
      (r.deviceByName key).map fun d => (d.name, d.profile) := by
  unfold disable updateOperatingState
  cases h : r.byName.get? name with
  | none => rfl
  | some d =>
    unfold deviceByName
    by_cases hk : key = name
    · rw [hk, h]
      simp [Except.map]
    · simp only [Table.get?_insert, if_neg hk]

end Registry

/-- Whether any value survives does not depend on when it is read. -/
theorem Outcome.readings_eq_nil_iff (transform : Bool) (now now' : Int64) (device : String)
    (rs : List Request) (vs : List TypedValue) :
    (ofValues transform now device rs vs).readings = [] ↔
      (ofValues transform now' device rs vs).readings = [] := by
  unfold ofValues ofPairs
  induction pairing rs vs with
  | nil => rfl
  | cons p pairs ih =>
    have hvalue : (ofValue transform now device p).readings = [] ↔
        (ofValue transform now' device p).readings = [] := by
      unfold ofValue
      split
      · rfl
      · split <;> simp
    simp only [List.map_cons, List.foldr_cons, append, List.append_eq_nil_iff, ih, hvalue]

namespace Batch

variable (r : Registry) (name : String)

theorem answered_disable (profile : String) (vs : List TypedValue) :
    answered (r.disable name) profile vs = answered r profile vs := by
  have hrequest : request? (r.disable name) profile = request? r profile := by
    funext v
    simp only [request?, Registry.object, Registry.catalogue, Registry.readOperation?,
      r.catalogues_disable]
  simp only [answered, hrequest]

theorem outcome?_disable (b : Batch) (transform : Bool) (now : Int64) :
    b.outcome? transform now (r.disable name) = b.outcome? transform now r := by
  have hd := r.deviceByName_disable name b.device
  unfold outcome?
  cases h : r.deviceByName b.device <;> cases h' : (r.disable name).deviceByName b.device <;>
    simp [h, h', Except.map] at hd ⊢
  simp only [hd, answered_disable]

/-- Whether a batch has an event does not depend on when it is processed. -/
theorem event?_eq_none_iff (b : Batch) (transform : Bool) (now now' : Int64) :
    b.event? transform now r = none ↔ b.event? transform now' r = none := by
  unfold event? outcome?
  cases r.deviceByName b.device with
  | error e => simp
  | ok d => simp [Outcome.readings_eq_nil_iff transform now now']

/-- The event of a batch is the same after any outcome has been settled. -/
theorem event?_settle (b : Batch) (transform : Bool) (now : Int64) (o : Outcome) :
    b.event? transform now (o.settle name r) = b.event? transform now r := by
  unfold Outcome.settle
  split
  · rfl
  · simp only [event?, outcome?_disable]

end Batch

end DeviceGateway
