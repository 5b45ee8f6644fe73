import DeviceGateway.Driver.Basic
import DeviceGateway.Gateway.Basic
import DeviceGateway.Proofs.Normalization.Pairing

/-! Times do not matter. What becomes of a value, and which reading it gives, is the same
whenever it was read and whenever it is normalised, but for the time of the reading. So a
driver whose answers differ in nothing but times gives readings that differ in nothing but
times. -/

namespace DeviceGateway

/-! ### What is left without the times -/

def TypedValue.undated (v : TypedValue) : TypedValue := { v with origin := 0 }

def Reading.undated (r : Reading) : Reading := { r with origin := 0 }

def Event.undated (e : Event) : Event where
  device := e.device
  origin := 0
  readings := e.readings.map Reading.undated

def Answer.undated (a : Answer) : Answer := { a with event := a.event.undated }

def Outcome.undated (o : Outcome) : Outcome := { o with readings := o.readings.map Reading.undated }

def Reply.undated (r : Reply (List TypedValue)) : Reply (List TypedValue) where
  delay := r.delay
  outcome := r.outcome.map (List.map TypedValue.undated)

/-! ### Values -/

namespace TypedValue

variable (v : TypedValue)

theorem text_undated : v.undated.text = v.text := rfl

theorem toDouble_undated : v.undated.toDouble = v.toDouble := rfl

theorem replace_undated (x : Double) : v.undated.replace x = (v.replace x).map undated := by
  cases hlayout : v.kind.layout with
  | integer signed bytes =>
    simp only [replace, undated, hlayout]
    cases fitInteger x v.kind signed bytes <;> rfl
  | single =>
    simp only [replace, undated, hlayout]
    cases beyondSingle x <;> rfl
  | _ =>
    simp only [replace, undated, hlayout]
    rfl

/-- What is read as a number, changed and stored is the same but for its time. -/
theorem replaced_undated (f : Double → Except GatewayError Double) :
    (v.undated.toDouble >>= fun x => f x >>= fun y => v.undated.replace y) =
      (v.toDouble >>= fun x => f x >>= fun y => v.replace y).map undated := by
  rw [toDouble_undated]
  cases v.toDouble with
  | error e => rfl
  | ok x =>
    cases hf : f x with
    | error e => simp only [bind, Except.bind, hf, Except.map]
    | ok y => simpa only [bind, Except.bind, hf] using v.replace_undated y

/-- A text is read as the same at any time. -/
theorem parse_undated (kind : ValueKind) (resource text : String) (now now' : Int64) :
    (parse kind resource now text).map undated = (parse kind resource now' text).map undated := by
  unfold parse
  cases native? kind text with
  | error e => rfl
  | ok n => cases n <;> rfl

end TypedValue

theorem ValueSpec.inbound_undated (s : ValueSpec) (v : TypedValue) :
    s.inbound v.undated = (s.inbound v).map TypedValue.undated := by
  unfold inbound
  split
  · exact v.replaced_undated s.inboundNumber
  · rfl

theorem ValueSpec.outbound_undated (s : ValueSpec) (v : TypedValue) :
    s.outbound v.undated = (s.outbound v).map TypedValue.undated := by
  unfold outbound
  split
  · exact v.replaced_undated (s.outboundNumber v.resource)
  · rfl

theorem Operation.mapValue_undated (o : Operation) (v : TypedValue) :
    o.mapValue v.undated = (o.mapValue v).map TypedValue.undated := by
  simp only [mapValue, v.text_undated]
  split
  · rfl
  · split <;> rfl

theorem Request.normalize_undated (r : Request) (transform : Bool) (v : TypedValue) :
    r.normalize transform v.undated = (r.normalize transform v).map TypedValue.undated := by
  have hrest : ∀ u : TypedValue,
      (r.object.spec.check u.undated >>= fun _ => r.operation.mapValue u.undated) =
        (r.object.spec.check u >>= fun _ => r.operation.mapValue u).map TypedValue.undated := by
    intro u
    have hcheck : r.object.spec.check u.undated = r.object.spec.check u := rfl
    rw [hcheck]
    cases r.object.spec.check u with
    | error e => rfl
    | ok _ => exact r.operation.mapValue_undated u
  unfold normalize
  cases transform with
  | false => exact hrest v
  | true =>
    simp only [if_true, r.object.spec.inbound_undated]
    cases r.object.spec.inbound v with
    | error e => rfl
    | ok u => exact hrest u

/-! ### Outcomes -/

namespace Outcome

variable (transform : Bool) (now now' : Int64) (device : String)

theorem undated_append (a b : Outcome) : (a.append b).undated = a.undated.append b.undated := by
  simp [append, undated]

theorem ofValue_undated (r : Option Request) (v : TypedValue) :
    (ofValue transform now device (r, v.undated)).undated =
      (ofValue transform now' device (r, v)).undated := by
  cases r with
  | none => rfl
  | some r =>
    simp only [ofValue, r.normalize_undated]
    cases r.normalize transform v with
    | error e => rfl
    | ok w => rfl

theorem ofPairs_undated (pairs : List (Option Request × TypedValue)) :
    (ofPairs transform now device (pairs.map fun p => (p.1, p.2.undated))).undated =
      (ofPairs transform now' device pairs).undated := by
  induction pairs with
  | nil => rfl
  | cons p pairs ih =>
    rw [List.map_cons, ofPairs_cons, ofPairs_cons, undated_append, undated_append, ih,
      ofValue_undated transform now now' device p.1 p.2]

theorem pairing_undated (requests : List Request) (values : List TypedValue) :
    pairing requests (values.map TypedValue.undated) =
      (pairing requests values).map fun p => (p.1, p.2.undated) := by
  unfold pairing
  rw [List.length_map]
  split
  · rw [List.zip_map_right]
    rfl
  · rw [List.map_map, List.map_map]
    rfl

/-- Values that differ in nothing but their times come to outcomes that differ in nothing but
times. -/
theorem ofValues_undated (requests : List Request) {values values' : List TypedValue}
    (h : values.map TypedValue.undated = values'.map TypedValue.undated) :
    (ofValues transform now device requests values).undated =
      (ofValues transform now' device requests values').undated := by
  unfold ofValues
  rw [← ofPairs_undated transform now now, ← pairing_undated, h, pairing_undated,
    ofPairs_undated transform now now']

end Outcome

/-! ### Replies -/

/-- What is got of a reply within a time limit, but for times. -/
def Reply.got (limit : Nat) (r : Reply (List TypedValue)) : Except GatewayError (List TypedValue) :=
  (r.asDriver.within limit).2.map (List.map TypedValue.undated)

/-- Replies that differ in nothing but times are the same when they are got. -/
theorem Reply.got_eq (limit : Nat) (r : Reply (List TypedValue)) :
    r.got limit = (r.undated.asDriver.within limit).2 := by
  have houtcome : r.undated.asDriver.outcome =
      r.asDriver.outcome.map (List.map TypedValue.undated) := by
    simp only [asDriver, undated]
    cases r.outcome <;> rfl
  have hdelay : r.undated.asDriver.delay = r.asDriver.delay := rfl
  unfold got within
  rw [hdelay]
  split
  · exact houtcome.symm
  · rfl

end DeviceGateway
