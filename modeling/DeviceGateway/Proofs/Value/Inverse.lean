import DeviceGateway.Proofs.Value.View

/-! Transforms undone. Inbound an integer is scaled and shifted, outbound it is shifted and scaled
back. Each step takes an integer among doubles to an integer among doubles as long as these are of
53 bits, so that nothing is rounded on either way and the value comes back as it was. -/

namespace DeviceGateway

open Binary (Stands)

namespace ValueSpec

/-- The text of a parameter sets it to the integer, or leaves it at the one that changes
nothing. -/
def Sets (raw : String) (unset p : Int) : Prop :=
  raw = "" ∧ p = unset ∨ IsLiteral (Text.trim raw.toList) p

/-- The transform is `n * s + o`. -/
structure Linear (spec : ValueSpec) (s o : Int) : Prop where
  base : spec.base = ""
  scale : Sets spec.scale 1 s
  offset : Sets spec.offset 0 o

theorem exactIntegers_double : BinaryFormat.double.exactIntegers = 2 ^ 53 := by
  decide

/-! ### Steps -/

/-- A step takes an integer to another one if its function does so for the parameter that is set,
and if nothing is to change when none is set. -/
theorem exists_step (name : String) {raw : String} {unset p a b : Int} {x : Double}
    {f : Double → Except GatewayError Double} (hraw : Sets raw unset p)
    (hp : p.natAbs ≤ 2 ^ 53) (hx : Stands x a) (hunset : p = unset → b = a)
    (hset : ∀ y, Stands y p → ∃ z, f y = .ok z ∧ Stands z b) :
    ∃ z, step name raw x f = .ok z ∧ Stands z b := by
  rcases hraw with ⟨rfl, hp⟩ | hliteral
  · refine ⟨x, by rw [step, if_pos rfl], ?_⟩
    rwa [hunset hp]
  · have hsome : raw ≠ "" := by
      rintro rfl
      exact hliteral.ne_nil rfl
    obtain ⟨y, hread, hy⟩ := hliteral.exists_stands BinaryFormat.double_hasIntegers
      (k := 20) (by decide) (by decide) (exactIntegers_double ▸ hp)
    obtain ⟨z, hz, hstands⟩ := hset y hy
    have hparameter : parameter name raw = .ok y := by rw [parameter, hread]
    refine ⟨z, ?_, hstands⟩
    rw [step, if_neg hsome, hparameter]
    exact hz

section Linear

variable {spec : ValueSpec} {s o n : Int} (hspec : spec.Linear s o)
  (hs : s.natAbs ≤ 2 ^ 53) (ho : o.natAbs ≤ 2 ^ 53) (hproduct : (n * s).natAbs ≤ 2 ^ 53)

include hspec hs ho hproduct

theorem exists_inboundNumber (hsum : (n * s + o).natAbs ≤ 2 ^ 53) {x : Double}
    (hx : Stands x n) : ∃ y, spec.inboundNumber x = .ok y ∧ Stands y (n * s + o) := by
  have hbase : step "base" spec.base x (fun p => .ok (p.pow x)) = .ok x := by
    rw [step, if_pos hspec.base]
  obtain ⟨y, hscale, hy⟩ := exists_step "scale" (f := fun p => .ok (x.mul p))
    hspec.scale hs hx (b := n * s) (by rintro rfl; exact Int.mul_one n) fun p hp =>
      ⟨_, rfl, hx.mul BinaryFormat.double_hasIntegers hp (exactIntegers_double ▸ hproduct)⟩
  obtain ⟨z, hoffset, hz⟩ := exists_step "offset" (f := fun p => .ok (y.add p))
    hspec.offset ho hy (b := n * s + o) (by rintro rfl; exact Int.add_zero _) fun p hp =>
      ⟨_, rfl, hy.add BinaryFormat.double_hasIntegers hp (exactIntegers_double ▸ hsum)⟩
  refine ⟨z, ?_, hz⟩
  simp only [inboundNumber, hbase, hscale, hoffset, bind, Except.bind]

theorem exists_outboundNumber (hs0 : s ≠ 0) (hn : n.natAbs ≤ 2 ^ 53) (resource : String)
    {x : Double} (hx : Stands x (n * s + o)) :
    ∃ y, spec.outboundNumber resource x = .ok y ∧ Stands y n := by
  have hdifference : n * s + o - o = n * s := Int.add_sub_cancel _ _
  obtain ⟨y, hoffset, hy⟩ := exists_step "offset" (f := fun p => .ok (x.sub p))
    hspec.offset ho hx (b := n * s) (by rintro rfl; exact (Int.add_zero _).symm) fun p hp => by
      have hsub := hx.sub BinaryFormat.double_hasIntegers hp
      rw [hdifference] at hsub
      exact ⟨_, rfl, hsub (exactIntegers_double ▸ hproduct)⟩
  obtain ⟨z, hscale, hz⟩ := exists_step "scale"
    (f := fun p => if p.isZero then
      .error (.invalidParameter ("scale of " ++ resource ++ " is zero, cannot invert"))
      else .ok (y.div p))
    hspec.scale hs hy (b := n) (by rintro rfl; exact (Int.mul_one n).symm) fun p hp => by
      have hnonzero : p.isZero = false := by
        rw [Bool.eq_false_iff]
        exact fun h => hs0 (hp.isZero_iff.1 h)
      refine ⟨_, if_neg (by rw [hnonzero]; exact Bool.false_ne_true), ?_⟩
      exact hy.div BinaryFormat.double_hasIntegers hp hs0 (exactIntegers_double ▸ hn)
  refine ⟨z, ?_, hz⟩
  simp only [outboundNumber, hoffset, hscale, bind, Except.bind]
  rw [step, if_pos hspec.base]

end Linear

/-! ### Values -/

/-- An integer of the kind is stored as it is. -/
theorem replace_of_stands {v : TypedValue} {x : Double} {n : Int} (hx : Stands x n)
    (hfits : (Native.integer n).Fits v.kind) :
    v.replace x = .ok (.ofInteger v.resource v.origin v.kind n) := by
  obtain ⟨signed, bytes, hlayout, hrange⟩ := hfits
  rw [TypedValue.replace_integer hlayout, hx.truncate, if_pos ⟨hx.finite, hrange⟩]

theorem toDouble_stands {v : TypedValue} {n : Int} (hv : v.Denotes (.integer n))
    (hn : n.natAbs ≤ 2 ^ 53) : ∃ x, v.toDouble = .ok x ∧ Stands x n :=
  ⟨_, hv.toDouble_integer,
    Binary.stands_ofInt BinaryFormat.double_hasIntegers (exactIntegers_double ▸ hn)⟩

theorem Sets.eq_unset {raw : String} {unset p : Int} (h : Sets raw unset p) (hraw : raw = "") :
    p = unset := by
  rcases h with ⟨-, hp⟩ | hliteral
  · exact hp
  · rw [hraw] at hliteral
    exact absurd rfl hliteral.ne_nil

/-- A value is taken inbound to exactly `n * s + o`, and from there outbound to what it was. -/
theorem outbound_inverts_inbound {spec : ValueSpec} {v : TypedValue} {n s o : Int}
    (hspec : spec.Linear s o) (hs : s ≠ 0) (hv : v.Denotes (.integer n))
    (hsizes : ∀ k ∈ [n, s, o, n * s, n * s + o], k.natAbs ≤ 2 ^ 53)
    (hfits : (Native.integer (n * s + o)).Fits v.kind) :
    ∃ w, spec.inbound v = .ok w ∧ v.SameLabel w ∧ w.Denotes (.integer (n * s + o)) ∧
      spec.outbound w = .ok v := by
  simp only [List.forall_mem_cons] at hsizes
  obtain ⟨hn, hs53, ho, hproduct, hsum, -⟩ := hsizes
  by_cases htransform : spec.hasTransform
  · let w := TypedValue.ofInteger v.resource v.origin v.kind (n * s + o)
    have hw : w.Denotes (.integer (n * s + o)) := TypedValue.denotes_ofNative hfits
    obtain ⟨x, hview, hx⟩ := toDouble_stands hv hn
    obtain ⟨y, hin, hy⟩ := exists_inboundNumber hspec hs53 ho hproduct hsum hx
    obtain ⟨x', hview', hx'⟩ := toDouble_stands hw hsum
    obtain ⟨y', hout, hy'⟩ := exists_outboundNumber hspec hs53 ho hproduct hs hn w.resource hx'
    refine ⟨w, ?_, ⟨rfl, rfl, rfl⟩, hw, ?_⟩
    · rw [inbound_of_toDouble htransform hview, hin]
      exact replace_of_stands hy hfits
    · rw [outbound_of_toDouble htransform hview', hout]
      exact (replace_of_stands (v := w) hy' hv.fits).trans (congrArg _ hv.eq_ofNative.symm)
  · -- with nothing set the value is not even read
    simp only [hasTransform, Bool.or_eq_true, decide_eq_true_eq, not_or, ne_eq, not_not]
      at htransform
    obtain ⟨⟨-, hscale⟩, hoffset⟩ := htransform
    obtain rfl := hspec.scale.eq_unset hscale
    obtain rfl := hspec.offset.eq_unset hoffset
    have hnone : spec.hasTransform = false := by
      simp [hasTransform, hspec.base, hscale, hoffset]
    rw [Int.mul_one, Int.add_zero]
    refine ⟨v, ?_, .refl v, hv, ?_⟩
    · rw [inbound, hnone, if_neg Bool.false_ne_true]
    · rw [outbound, hnone, if_neg Bool.false_ne_true]

/-- Of a temperature in tenths of a degree, scaled to thousandths and counted from the ice
point. -/
theorem outbound_inverts_inbound_temperature :
    let spec : ValueSpec := { scale := "100", offset := "-273150" }
    let v := TypedValue.ofInteger "Temperature" 7 .int32 2981
    v.Denotes (.integer 2981) ∧ ∃ w, spec.inbound v = .ok w ∧ v.SameLabel w ∧
      w.Denotes (.integer (2981 * 100 + -273150)) ∧ spec.outbound w = .ok v := by
  intro spec v
  have hscale : IsLiteral (Text.trim spec.scale.toList) 100 :=
    ⟨[], false, ['1', '0', '0'], .inl rfl, by decide, by simp, by decide, by decide +kernel⟩
  have hoffset : IsLiteral (Text.trim spec.offset.toList) (-273150) :=
    ⟨['-'], true, ['2', '7', '3', '1', '5', '0'], by simp [IsSign], by decide, by simp,
      by decide, by decide +kernel⟩
  have hfits : (Native.integer 2981).Fits .int32 := ⟨true, 4, rfl, by decide, by decide⟩
  have hv : v.Denotes (.integer 2981) := TypedValue.denotes_ofNative hfits
  exact ⟨hv, outbound_inverts_inbound ⟨rfl, .inr hscale, .inr hoffset⟩ (by decide) hv
    (by decide) ⟨true, 4, rfl, by decide, by decide⟩⟩

end ValueSpec

end DeviceGateway
