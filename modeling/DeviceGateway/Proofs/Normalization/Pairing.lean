import DeviceGateway.Normalization

/-! How the answer of a driver is paired with what it was asked. A driver that answers
every request has each value treated with its own request. Of one that answers only
some, a value is treated with the first request for its object: its own, unless an
earlier request names the same object. -/

namespace DeviceGateway

/-! ### Outcomes of pairs -/

namespace Outcome

theorem append_empty (o : Outcome) : o.append {} = o := by
  simp [append]

theorem empty_append (o : Outcome) : Outcome.append {} o = o := by
  simp [append]

variable (transform : Bool) (now : Int64) (device : String)

theorem ofPairs_cons (p : Option Request × TypedValue) (ps : List (Option Request × TypedValue)) :
    ofPairs transform now device (p :: ps) =
      (ofValue transform now device p).append (ofPairs transform now device ps) := rfl

/-- As many values as requests are treated each with the request in its place. -/
theorem ofValues_pairs (pairs : List (Request × TypedValue)) :
    ofValues transform now device (pairs.map (·.1)) (pairs.map (·.2)) =
      ofPairs transform now device (pairs.map fun p => (some p.1, p.2)) := by
  have hpairing : pairing (pairs.map (·.1)) (pairs.map (·.2)) =
      pairs.map fun p => (some p.1, p.2) := by
    simp [pairing, List.zip_map']
  rw [ofValues, hpairing]

/-! ### Readings of pairs -/

/-- The reading of a value that is treated with a request, if it survives. -/
def reading? (r : Request) (v : TypedValue) : Option Reading :=
  (r.normalize transform v).toOption.map (·.toReading now device r.object.name)

theorem readings_ofValue (r : Request) (v : TypedValue) :
    (ofValue transform now device (some r, v)).readings =
      (reading? transform now device r v).toList := by
  simp only [ofValue, reading?]
  cases r.normalize transform v <;> rfl

theorem readings_ofPairs (pairs : List (Option Request × TypedValue)) :
    (ofPairs transform now device pairs).readings =
      pairs.flatMap fun p => (ofValue transform now device p).readings := by
  induction pairs with
  | nil => rfl
  | cons p ps ih => rw [ofPairs_cons, append, ih, List.flatMap_cons]

/-- Where every value has a request the readings are those that survive, in order. -/
theorem readings_ofPairs_some (pairs : List (Request × TypedValue)) :
    (ofPairs transform now device (pairs.map fun p => (some p.1, p.2))).readings =
      pairs.filterMap fun p => reading? transform now device p.1 p.2 := by
  rw [readings_ofPairs, List.flatMap_map]
  induction pairs with
  | nil => rfl
  | cons p ps ih =>
    rw [List.flatMap_cons, ih, readings_ofValue, List.filterMap_cons]
    cases reading? transform now device p.1 p.2 <;> rfl

end Outcome

/-! ### Answers of a driver -/

/-- What a driver may answer: values for some of the requests, in their order, each
under the name of the object that its request is aimed at. -/
structure Answers (requests : List Request) (answered : List (Request × TypedValue)) : Prop where
  inOrder : (answered.map (·.1)).Sublist requests
  named : ∀ p ∈ answered, p.2.resource = p.1.object.name

/-- The request with which a value that answers `r` is treated, as one of `count` values:
`r` itself when every request is answered, else the first request for its object. -/
def Request.counterpart (requests : List Request) (count : Nat) (r : Request) : Request :=
  if count = requests.length then r
  else (requests.find? (·.object.name = r.object.name)).getD r

namespace Answers

variable {requests : List Request} {answered : List (Request × TypedValue)}

theorem mem (h : Answers requests answered) {p : Request × TypedValue} (hp : p ∈ answered) :
    p.1 ∈ requests :=
  h.inOrder.subset (List.mem_map_of_mem hp)

/-- A request that is answered is among the requests, so one for its object is found. -/
theorem find?_isSome (h : Answers requests answered) {p : Request × TypedValue}
    (hp : p ∈ answered) : ∃ r, requests.find? (·.object.name = p.1.object.name) = some r :=
  Option.isSome_iff_exists.1 (List.find?_isSome.2 ⟨p.1, h.mem hp, by simp⟩)

theorem pairing_eq (h : Answers requests answered) :
    pairing requests (answered.map (·.2)) =
      answered.map fun p => (some (p.1.counterpart requests answered.length), p.2) := by
  unfold pairing Request.counterpart
  rw [List.length_map]
  split
  · next hlen =>
    have hall : answered.map (·.1) = requests := h.inOrder.eq_of_length (by simpa using hlen)
    rw [← hall, List.map_map, List.zip_map']
    rfl
  · rw [List.map_map]
    refine List.map_congr_left fun p hp => ?_
    obtain ⟨r, hr⟩ := h.find?_isSome hp
    simp only [Function.comp_apply, h.named p hp, hr, Option.getD_some]

/-- The reading of a value is named after the object that was asked for. -/
theorem counterpart_name (h : Answers requests answered) {p : Request × TypedValue}
    (hp : p ∈ answered) :
    (p.1.counterpart requests answered.length).object.name = p.1.object.name := by
  unfold Request.counterpart
  split
  · rfl
  · obtain ⟨r, hr⟩ := h.find?_isSome hp
    rw [hr, Option.getD_some]
    simpa using List.find?_some hr

/-- A value is treated with its own request exactly if all requests are answered or its
request is the first for its object. -/
theorem counterpart_eq_self_iff (h : Answers requests answered) {p : Request × TypedValue}
    (hp : p ∈ answered) :
    p.1.counterpart requests answered.length = p.1 ↔
      answered.length = requests.length ∨
        requests.find? (·.object.name = p.1.object.name) = some p.1 := by
  unfold Request.counterpart
  split
  · next hlen => simp [hlen]
  · next hlen =>
    obtain ⟨r, hr⟩ := h.find?_isSome hp
    simp [hlen, hr]

end Answers

theorem find?_eq_self_of_nodup {requests : List Request} {r : Request}
    (h : (requests.map (·.object.name)).Nodup) (hr : r ∈ requests) :
    requests.find? (·.object.name = r.object.name) = some r := by
  induction requests with
  | nil => cases hr
  | cons q qs ih =>
    obtain ⟨hq, hqs⟩ := List.nodup_cons.1 h
    rcases List.mem_cons.1 hr with rfl | hr
    · simp
    · have hne : q.object.name ≠ r.object.name := fun heq =>
        hq (List.mem_map.2 ⟨r, hr, heq.symm⟩)
      simpa [hne] using ih hqs hr

/-- A value that answers a request is treated with that request when all are answered or
it is the first for its object, which it is when no two requests name the same object;
else with the first. The readings are those of the values that survive, in order. -/
theorem Outcome.ofValues_of_answers {requests : List Request}
    {answered : List (Request × TypedValue)} (h : Answers requests answered)
    (transform : Bool) (now : Int64) (device : String) :
    let treated := Request.counterpart requests answered.length
    ofValues transform now device requests (answered.map (·.2)) =
      ofPairs transform now device (answered.map fun p => (some (treated p.1), p.2)) ∧
    (ofValues transform now device requests (answered.map (·.2))).readings =
      answered.filterMap (fun p => reading? transform now device (treated p.1) p.2) ∧
    (∀ p ∈ answered, (treated p.1).object.name = p.1.object.name) ∧
    (∀ p ∈ answered, treated p.1 = p.1 ↔ answered.length = requests.length ∨
      requests.find? (·.object.name = p.1.object.name) = some p.1) ∧
    ((requests.map (·.object.name)).Nodup → ∀ p ∈ answered, treated p.1 = p.1) := by
  intro treated
  have hpairs : ofValues transform now device requests (answered.map (·.2)) =
      ofPairs transform now device (answered.map fun p => (some (treated p.1), p.2)) := by
    rw [ofValues, h.pairing_eq]
  refine ⟨hpairs, ?_, fun p hp => h.counterpart_name hp,
    fun p hp => h.counterpart_eq_self_iff hp, fun hnodup p hp => ?_⟩
  · have hmap := readings_ofPairs_some transform now device
      (answered.map fun p => (treated p.1, p.2))
    rw [List.map_map, List.filterMap_map] at hmap
    rw [hpairs]
    exact hmap
  · exact (h.counterpart_eq_self_iff hp).2 (.inr (find?_eq_self_of_nodup hnodup (h.mem hp)))

/-- The second of three requests goes unanswered; the others keep their mappings. -/
theorem Outcome.ofValues_of_answers_switch :
    let switch := DeviceObject.ofSpec "Switch" { kind := .uint8 }
    let level := DeviceObject.ofSpec "Level" { kind := .int16 }
    let onOff : Request := ⟨{ object := "Switch", mappings := .ofList [("1", "ON")] }, switch⟩
    let openShut : Request := ⟨{ object := "Switch", mappings := .ofList [("1", "OPEN")] }, switch⟩
    let depth : Request := ⟨{ object := "Level" }, level⟩
    let v := TypedValue.ofInteger "Switch" 7 .uint8 1
    let w := TypedValue.ofInteger "Level" 8 .int16 (-3)
    Answers [onOff, openShut, depth] [(onOff, v), (depth, w)] ∧
    (ofValues true 0 "panel" [onOff, openShut, depth] [v, w]).readings =
      [⟨"panel", "Switch", "ON", 7⟩, ⟨"panel", "Level", "-3", 8⟩] := by
  intro switch level onOff openShut depth v w
  have h : Answers [onOff, openShut, depth] [(onOff, v), (depth, w)] :=
    ⟨.cons_cons _ (.cons _ (.refl _)), by simp [onOff, depth, v, w, switch, level,
      TypedValue.ofInteger, DeviceObject.ofSpec]⟩
  exact ⟨h, (ofValues_of_answers h true 0 "panel").2.1.trans (by rfl)⟩

/-- Two requests read one switch under different mappings. If only the second is answered,
its value goes through the mapping of the first. -/
theorem Outcome.partial_answer_takes_first_mapping :
    let switch := DeviceObject.ofSpec "Switch" { kind := .uint8 }
    let onOff : Request := ⟨{ object := "Switch", mappings := .ofList [("1", "ON")] }, switch⟩
    let openShut : Request := ⟨{ object := "Switch", mappings := .ofList [("1", "OPEN")] }, switch⟩
    let v := TypedValue.ofInteger "Switch" 7 .uint8 1
    Answers [onOff, openShut] [(openShut, v)] ∧
    reading? true 0 "panel" openShut v = some ⟨"panel", "Switch", "OPEN", 7⟩ ∧
    (ofValues true 0 "panel" [onOff, openShut] [v]).readings = [⟨"panel", "Switch", "ON", 7⟩] := by
  refine ⟨⟨by simp, by simp [TypedValue.ofInteger, DeviceObject.ofSpec]⟩, by rfl, by rfl⟩

end DeviceGateway
