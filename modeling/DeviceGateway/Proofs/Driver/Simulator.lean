import DeviceGateway.Driver.Simulator
import DeviceGateway.Proofs.Table
import DeviceGateway.Proofs.Value.RoundTrip

/-! The simulator as a store. Whatever it is called for, in any order, what it remembers of an
object is the value that was written last under the name of the addressable, unless that name
was forgotten since. A read gives that value by its text, and calls for other names do not
matter. -/

namespace DeviceGateway

/-! ### Calls of a driver -/

namespace Driver

/-- One call of a driver. -/
inductive Call where
  | start
  | read (now : Int64) (target : Addressable) (requests : List Request)
  | write (target : Addressable) (requests : List Request) (values : List TypedValue)
  | stop (force : Bool)
  | disconnect (target : Addressable)

variable {δ : Type} [Driver δ]

/-- The driver after a call, whatever it answers. -/
def Call.run (s : δ) : Call → δ
  | .start => (Driver.start s).2
  | .read now target requests => (Driver.read s now target requests).2
  | .write target requests values => (Driver.write s target requests values).2
  | .stop force => (Driver.stop s force).2
  | .disconnect target => (Driver.disconnect s target).2

def runAll (s : δ) (cs : List Call) : δ := cs.foldl Call.run s

end Driver

namespace Simulator

open Driver (Call runAll)

variable {s : Simulator} {device object : String}

/-! ### What was written last -/

/-- What a call does to an object under a name: it writes these values, one after the other, or
it forgets the object. -/
def marks (device object : String) : Call → List (Option TypedValue)
  | .write target requests values =>
    if target.name = device ∧ requests.length = values.length then
      ((requests.zip values).filter (·.1.object.name = object)).map fun p => some p.2
    else []
  | .disconnect target => if target.name = device then [none] else []
  | _ => []

/-- The value that the calls wrote last, if the name was not forgotten since. -/
def lastWritten? (cs : List Call) (device object : String) : Option TypedValue :=
  (cs.flatMap (marks device object)).getLast?.join

/-- The call is for another name, or is none that counts: a write with more or less values than
requests is refused. -/
def spares (device : String) : Call → Bool
  | .write target requests values =>
    decide (target.name ≠ device) || decide (requests.length ≠ values.length)
  | .disconnect target => decide (target.name ≠ device)
  | _ => true

theorem marks_of_spares {c : Call} (h : spares device c) (object : String) :
    marks device object c = [] := by
  cases c with
  | write target requests values =>
    refine if_neg fun ⟨hname, hlength⟩ => ?_
    simp [spares, hname, hlength] at h
  | disconnect target =>
    refine if_neg fun hname => ?_
    simp [spares, hname] at h
  | _ => rfl

/-- Calls that are for others can as well be left out. -/
theorem lastWritten?_filter (cs : List Call) (device object : String) :
    lastWritten? (cs.filter fun c => !spares device c) device object =
      lastWritten? cs device object := by
  have hmarks : (cs.filter fun c => !spares device c).flatMap (marks device object) =
      cs.flatMap (marks device object) := by
    induction cs with
    | nil => rfl
    | cons c cs ih =>
      by_cases hc : spares device c
      · simp [hc, marks_of_spares hc, ih]
      · simp [hc, ih]
  rw [lastWritten?, lastWritten?, hmarks]

/-! ### What the simulator remembers -/

theorem written?_remember (s : Simulator) (device object device' object' : String)
    (v : TypedValue) : (s.remember device object v).written? device' object' =
      if device' = device ∧ object' = object then some v else s.written? device' object' := by
  unfold remember written?
  rw [Table.get?_insert]
  by_cases hdevice : device' = device
  · subst hdevice
    rw [if_pos rfl, Option.bind_some, Table.get?_insert]
    by_cases hobject : object' = object
    · simp [hobject]
    · cases s.writes.get? device' <;> simp [hobject]
  · simp [hdevice]

/-- Of the values that are written at once the last one of the object is remembered. -/
theorem written?_writeAll (s : Simulator) (pairs : List (Request × TypedValue))
    (device object : String) : (s.writeAll device pairs).written? device object =
      ((pairs.filter (·.1.object.name = object)).map fun p => some p.2).getLast?.getD
        (s.written? device object) := by
  induction pairs generalizing s with
  | nil => rfl
  | cons p pairs ih =>
    show ((s.remember device p.1.object.name p.2).writeAll device pairs).written? device object = _
    rw [ih, written?_remember]
    by_cases hobject : p.1.object.name = object
    · simp [hobject, List.getLast?_cons]
    · simp [hobject, Ne.symm hobject]

theorem written?_writeAll_of_ne (s : Simulator) (pairs : List (Request × TypedValue))
    {device device' : String} (h : device' ≠ device) (object : String) :
    (s.writeAll device pairs).written? device' object = s.written? device' object := by
  induction pairs generalizing s with
  | nil => rfl
  | cons p pairs ih =>
    show ((s.remember device p.1.object.name p.2).writeAll device pairs).written? device' object = _
    rw [ih, written?_remember, if_neg fun hsame => h hsame.1]

theorem written?_forget (s : Simulator) (device device' object : String) :
    (s.forget device).written? device' object =
      if device' = device then none else s.written? device' object := by
  unfold forget written?
  rw [Table.get?_erase]
  split <;> rfl

/-- After a call the simulator remembers the last of its marks or, if it leaves none, what it
did before. -/
theorem written?_run (s : Simulator) (c : Call) (device object : String) :
    (c.run s).written? device object =
      (marks device object c).getLast?.getD (s.written? device object) := by
  cases c with
  | start | read | stop => rfl
  | write target requests values =>
    show (Driver.write s target requests values).2.written? device object = _
    by_cases hlength : requests.length = values.length
    · by_cases hname : target.name = device
      · subst hname
        simp only [Driver.write, marks, hlength, and_self, if_true, written?_writeAll]
      · simp only [Driver.write, marks, hlength, hname, and_true, if_true, if_false,
          written?_writeAll_of_ne _ _ (Ne.symm hname)]
        rfl
    · simp only [Driver.write, marks, hlength, and_false, if_false]
      rfl
  | disconnect target =>
    show (s.forget target.name).written? device object = _
    rw [written?_forget, marks]
    by_cases hname : target.name = device
    · simp [hname]
    · simp [hname, Ne.symm hname]

theorem written?_runAll (s : Simulator) (cs : List Call) (device object : String) :
    (runAll s cs).written? device object =
      (cs.flatMap (marks device object)).getLast?.getD (s.written? device object) := by
  induction cs generalizing s with
  | nil => rfl
  | cons c cs ih =>
    show (runAll (c.run s) cs).written? device object = _
    rw [ih, written?_run, List.flatMap_cons, List.getLast?_append, Option.getD_or]

/-- A simulator that is new remembers what was written last. -/
theorem written?_runAll_of_new (hnew : s.writes = ∅) (cs : List Call) (device object : String) :
    (runAll s cs).written? device object = lastWritten? cs device object := by
  have hnone : s.written? device object = none := by
    rw [written?, hnew, Table.get?_empty, Option.bind_none]
  rw [written?_runAll, hnone, lastWritten?]
  cases (cs.flatMap (marks device object)).getLast? <;> rfl

/-! ### What it answers -/

/-- The text that the attributes of an object give when they give no range: that of its value, or
else the zero of its kind. -/
def fixedText (o : DeviceObject) : String :=
  match o.attributes.get? "value" with
  | some (.string text) => text
  | some j => j.canonical.toCompact
  | none => zeroText o.kind

/-- The object has no range between two numbers. -/
def HasNoRange (o : DeviceObject) : Prop :=
  o.attributes.get? "min" = none ∨ o.attributes.get? "max" = none

theorem range?_eq_none {o : DeviceObject} (h : HasNoRange o) : range? o.attributes = none := by
  unfold range?
  rcases h with h | h
  · simp [h]
  · simp [h]

/-- Without a range the wave makes no difference. -/
theorem attributeText_of_hasNoRange {o : DeviceObject} (h : HasNoRange o) (height : Double) :
    attributeText o height = fixedText o := by
  simp only [attributeText, range?_eq_none h]
  rfl

/-- The wave goes on whatever is called for. -/
theorem wave_run (s : Simulator) (c : Call) : (c.run s).wave = s.wave := by
  have hwritten : ∀ (pairs : List (Request × TypedValue)) (device : String) (s : Simulator),
      (s.writeAll device pairs).wave = s.wave := by
    intro pairs device
    induction pairs with
    | nil => exact fun s => rfl
    | cons p pairs ih => exact fun s => ih (s.remember device p.1.object.name p.2)
  cases c with
  | start | read | stop | disconnect => rfl
  | write target requests values =>
    show (Driver.write s target requests values).2.wave = s.wave
    simp only [Driver.write]
    split
    · exact hwritten ..
    · rfl

theorem wave_runAll (s : Simulator) (cs : List Call) : (runAll s cs).wave = s.wave := by
  induction cs generalizing s with
  | nil => rfl
  | cons c cs ih => exact (ih (c.run s)).trans (wave_run s c)

/-- What is answered for an object whose text this is. -/
def told (now : Int64) (device : String) (o : DeviceObject) (text : String) :
    Except GatewayError TypedValue :=
  (TypedValue.parse o.kind o.name now text).mapError fun e =>
    .driver ("simulated " ++ o.name ++ " on " ++ device ++ ": " ++ e.message)

/-- A value of the kind of the object is told as it is, to the last bit. -/
theorem told_text (now : Int64) (device : String) {o : DeviceObject} {w : TypedValue}
    (hkind : w.kind = o.kind) (hw : w.WellFormed) (hnumber : w.isNaN = false) :
    told now device o w.text = .ok { w with resource := o.name, origin := now } := by
  obtain ⟨n, hholds, hfits⟩ := hw.exists_holds
  have hnative := hfits.native?_text (hholds.isNaN_eq ▸ hnumber)
  have hmade : TypedValue.ofNative o.name now w.kind n =
      { w with resource := o.name, origin := now } := by
    rw [hholds.made]
    cases n <;> rfl
  rw [told, TypedValue.parse, ← hkind, hholds.text, hnative]
  exact congrArg Except.ok hmade

theorem generate_eq_told (s : Simulator) (now : Int64) (device : String) (o : DeviceObject) :
    s.generate now device o =
      told now device o (((s.written? device o.name).map TypedValue.text).getD
        (attributeText o (s.wave now))) := by
  unfold generate objectText told
  cases s.written? device o.name <;> rfl

theorem readAll_eq_mapM (s : Simulator) (now : Int64) (device : String) (rs : List Request) :
    s.readAll now device rs = rs.mapM fun r => s.generate now device r.object := by
  induction rs with
  | nil => rfl
  | cons r rs ih => rw [readAll, ih, List.mapM_cons]

theorem read_one (s : Simulator) (now : Int64) (target : Addressable) (r : Request) :
    (Driver.read s now target [r]).1 =
      ⟨0, (s.generate now target.name r.object).map fun v => [v]⟩ := by
  show Reply.mk 0 (s.readAll now target.name [r]) = _
  rw [readAll_eq_mapM, List.mapM_cons, List.mapM_nil]
  cases s.generate now target.name r.object <;> rfl

/-- The text of an object after the calls of a new simulator, at a height of its wave: that of the
value last written, or else of its attributes. -/
def textAfter (cs : List Call) (device : String) (o : DeviceObject) (height : Double) : String :=
  ((lastWritten? cs device o.name).map TypedValue.text).getD (attributeText o height)

/-- After any calls a read is answered at once, and each request by the text of the value that
was last written to its object under the name of the addressable, or else of its attributes. A
value of the kind of the object comes back as it is unless it is a NaN. Calls for other names, and
writes that are refused, make no difference. -/
theorem read_last_written {s : Simulator} (hnew : s.writes = ∅) (cs : List Call) (now : Int64)
    (a : Addressable) (rs : List Request) :
    (Driver.read (runAll s cs) now a rs).1 =
      ⟨0, rs.mapM fun r => told now a.name r.object (textAfter cs a.name r.object (s.wave now))⟩ ∧
    (∀ o w height, lastWritten? cs a.name o.name = some w →
      textAfter cs a.name o height = w.text ∧
      (w.kind = o.kind → w.WellFormed → w.isNaN = false →
        told now a.name o (textAfter cs a.name o height) =
          .ok { w with resource := o.name, origin := now })) ∧
    (∀ o height, lastWritten? cs a.name o.name = none →
      textAfter cs a.name o height = attributeText o height ∧
      (HasNoRange o → textAfter cs a.name o height = fixedText o)) ∧
    (Driver.read (runAll s (cs.filter fun c => !spares a.name c)) now a rs).1 =
      (Driver.read (runAll s cs) now a rs).1 := by
  have hanswer : ∀ cs, (Driver.read (runAll s cs) now a rs).1 = ⟨0, rs.mapM fun r =>
      told now a.name r.object (textAfter cs a.name r.object (s.wave now))⟩ := by
    intro cs
    show Reply.mk 0 ((runAll s cs).readAll now a.name rs) = _
    simp only [readAll_eq_mapM, generate_eq_told, written?_runAll_of_new hnew, wave_runAll,
      textAfter]
  refine ⟨hanswer cs, fun o w height hlast => ?_, fun o height hlast => ?_, ?_⟩
  · have htext : textAfter cs a.name o height = w.text := by
      rw [textAfter, hlast, Option.map_some, Option.getD_some]
    rw [htext]
    exact ⟨rfl, told_text now a.name⟩
  · have htext : textAfter cs a.name o height = attributeText o height := by
      rw [textAfter, hlast, Option.map_none, Option.getD_none]
    exact ⟨htext, fun hrange => htext.trans (attributeText_of_hasNoRange hrange height)⟩
  · simp only [hanswer, textAfter, lastWritten?_filter]

/-- A level that is written twice at once. After that a write is refused, and one for another
name is made and forgotten. -/
theorem read_last_written_twice :
    let pump : Addressable := { name := "Pump" }
    let valve : Addressable := { name := "Valve" }
    let level : DeviceObject := .ofSpec "Level" (.plain .int32)
    let mode : DeviceObject := .ofSpec "Mode" (.plain .string)
    let request (o : DeviceObject) : Request := ⟨.ofNames "set" o.name, o⟩
    let value (n : Int) : TypedValue := .ofInteger "Level" 7 .int32 n
    let cs : List Call := [
      .write pump [request level, request level] [value 1, value 2],
      .write pump [request level] [],
      .write valve [request level] [value 3],
      .disconnect valve]
    (Driver.read (runAll ({} : Simulator) cs) 9 pump [request level, request mode]).1 =
      ⟨0, .ok [{ value 2 with origin := 9 }, .ofString "Mode" 9 ""]⟩ ∧
    cs.filter (fun c => !spares "Pump" c) =
      [.write pump [request level, request level] [value 1, value 2]] := by
  intro pump valve level mode request value cs
  obtain ⟨hanswer, hwritten, hfixed, -⟩ := read_last_written (s := {}) rfl cs 9 pump
    [request level, request mode]
  have hw : (value 2).WellFormed := TypedValue.wellFormed_iff_made.2
    ⟨.integer 2, ⟨true, 4, rfl, by decide, by decide⟩, rfl⟩
  have hlevel := (hwritten level (value 2) (Simulator.wave {} 9) rfl).2 rfl hw rfl
  have hmode : told 9 pump.name mode (textAfter cs pump.name mode (Simulator.wave {} 9)) =
      .ok (.ofString "Mode" 9 "") := by
    rw [(hfixed mode _ rfl).2 (.inl rfl)]
    rfl
  refine ⟨?_, rfl⟩
  rw [hanswer]
  simp only [List.mapM_cons, List.mapM_nil, request, hlevel, hmode]
  rfl

end Simulator

end DeviceGateway
