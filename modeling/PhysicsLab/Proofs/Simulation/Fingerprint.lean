import PhysicsLab.Proofs.Number.Bits
import PhysicsLab.Simulation.Encoding

/-!
# What the bytes of a series tell

The bytes of a series are read back field by field: numbers have eight bytes, and what has a
variable length stands behind its length.  Only the temperature of a body has no mark of its own
when it is absent.  So the bytes tell the series apart from every other one in which the same bodies
have a temperature, but not from those in which other bodies have one: a temperature can be taken
for the beginning of the next body.

## Main definitions

* `Series.Fits` — the lengths in a series are counts
* `Series.SameThermal` — where two series show the same body, both or neither show its temperature
* `Sample.figures` — the totals of a sample in the order in which they are written

## Main statements

* `Body.encode_append_inj`, `Sample.encode_append_inj`
* `Series.encode_eq_iff` — and `Series.encode_eq_of_ne`, two series with the same bytes
-/

namespace PhysicsLab

open PhysicsLab.Number

/-! ## §1 Numbers and texts -/

section Bytes

variable {r r' : List UInt8}

theorem length_lowBytes {count n : Nat} : (lowBytes count n).length = count := by
  induction count generalizing n with
  | zero => rfl
  | succ count ih => rw [lowBytes, List.length_cons, ih]

/-- The bytes of a number give it back, if there are enough of them. -/
theorem lowBytes_inj {count n m : Nat} (hn : n < 256 ^ count) (hm : m < 256 ^ count)
    (h : lowBytes count n = lowBytes count m) : n = m := by
  induction count generalizing n m with
  | zero => omega
  | succ count ih =>
    rw [lowBytes, lowBytes] at h
    obtain ⟨hlow, hrest⟩ := List.cons_eq_cons.1 h
    have hmod : n % 256 = m % 256 := by
      have hbyte := congrArg UInt8.toNat hlow
      simpa [UInt8.toNat_ofNat'] using hbyte
    rw [Nat.pow_succ] at hn hm
    have hdiv : n / 256 = m / 256 := ih (by omega) (by omega) hrest
    rw [← Nat.div_add_mod n 256, ← Nat.div_add_mod m 256, hmod, hdiv]

theorem lowBytes_append_inj {count n m : Nat} (hn : n < 256 ^ count) (hm : m < 256 ^ count)
    (h : lowBytes count n ++ r = lowBytes count m ++ r') : n = m ∧ r = r' := by
  obtain ⟨hbytes, hrest⟩ := List.append_inj h (by rw [length_lowBytes, length_lowBytes])
  exact ⟨lowBytes_inj hn hm hbytes, hrest⟩

theorem encodeCount_append_inj {n m : Nat} (hn : n ≤ countLimit) (hm : m ≤ countLimit)
    (h : encodeCount n ++ r = encodeCount m ++ r') : n = m ∧ r = r' := by
  have hlimit : countLimit < 256 ^ 8 := by decide
  apply lowBytes_append_inj _ _ h <;> omega

theorem toList_loop {bs : ByteArray} {i : Nat} {acc : List UInt8} :
    ByteArray.toList.loop bs i acc = acc.reverse ++ bs.data.toList.drop i := by
  fun_induction ByteArray.toList.loop bs i acc with
  | case1 i acc hlt ih =>
    have hi : i < bs.data.toList.length := hlt
    have hget : bs.get! i = bs.data.toList[i] := by
      obtain ⟨data⟩ := bs
      exact getElem!_pos data i hlt
    rw [ih, hget, List.reverse_cons, List.append_assoc, List.drop_eq_getElem_cons hi]
    rfl
  | case2 i acc hge =>
    have hend : bs.data.toList.length ≤ i := Nat.not_lt.1 hge
    rw [List.drop_eq_nil_of_le hend, List.append_nil]

theorem textBytes_eq {s : String} : Digest.textBytes s = s.toByteArray.data.toList := by
  show ByteArray.toList.loop s.toByteArray 0 [] = _
  rw [toList_loop]
  rfl

/-- Different texts have different bytes. -/
theorem textBytes_inj {s t : String} (h : Digest.textBytes s = Digest.textBytes t) : s = t := by
  rw [textBytes_eq, textBytes_eq] at h
  apply String.toByteArray_inj.1
  apply ByteArray.ext
  exact Array.toList_inj.1 h

theorem encodeText_append_inj {s t : String} (hs : (Digest.textBytes s).length ≤ countLimit)
    (ht : (Digest.textBytes t).length ≤ countLimit)
    (h : encodeText s ++ r = encodeText t ++ r') : s = t ∧ r = r' := by
  unfold encodeText at h
  rw [List.append_assoc, List.append_assoc] at h
  obtain ⟨hlength, hrest⟩ := encodeCount_append_inj hs ht h
  obtain ⟨hbytes, hrest⟩ := List.append_inj hrest hlength
  exact ⟨textBytes_inj hbytes, hrest⟩

end Bytes

/-! ## §2 Lists of fields -/

section Fields

variable {r r' : List UInt8}

theorem encodeTraced_append_inj {t u : Traced} (h : encodeTraced t ++ r = encodeTraced u ++ r') :
    t.bits = u.bits ∧ r = r' :=
  lowBytes_append_inj Traced.bits_lt Traced.bits_lt h

theorem encodeFloat_append_inj {x y : Float} (h : encodeFloat x ++ r = encodeFloat y ++ r') :
    x = y ∧ r = r' := by
  obtain ⟨hbits, hrest⟩ := encodeTraced_append_inj h
  exact ⟨Traced.value_eq_of_bits hbits, hrest⟩

/-- A number that may be absent is read back by whoever knows whether it is there. -/
theorem encodeOptional_append_inj {x y : Option Float} (hsome : x.isSome = y.isSome)
    (h : encodeOptional x ++ r = encodeOptional y ++ r') : x = y ∧ r = r' := by
  cases x with
  | none =>
    obtain rfl : y = none := by simpa using hsome.symm
    exact ⟨rfl, h⟩
  | some x =>
    obtain ⟨y, rfl⟩ := Option.isSome_iff_exists.1 hsome.symm
    obtain ⟨-, hfloat⟩ := List.cons_eq_cons.1 h
    obtain ⟨rfl, hrest⟩ := encodeFloat_append_inj hfloat
    exact ⟨rfl, hrest⟩

theorem Vec3.encode_append_inj {v w : Vec3} (h : v.encode ++ r = w.encode ++ r') :
    v = w ∧ r = r' := by
  simp only [Vec3.encode, List.append_assoc] at h
  obtain ⟨hx, h⟩ := encodeFloat_append_inj h
  obtain ⟨hy, h⟩ := encodeFloat_append_inj h
  obtain ⟨hz, hrest⟩ := encodeFloat_append_inj h
  refine ⟨?_, hrest⟩
  cases v
  cases w
  exact (Vec3.mk.injEq ..).mpr ⟨hx, hy, hz⟩

/-- Entries that are read back one by one are read back as a list, once their number is known. -/
theorem flatMap_append_inj {α β : Type} {encode : α → List UInt8} {view : α → β} {xs ys : List α}
    (hlength : xs.length = ys.length)
    (hentry : ∀ p ∈ xs.zip ys, ∀ r r' : List UInt8,
      encode p.1 ++ r = encode p.2 ++ r' → view p.1 = view p.2 ∧ r = r')
    (h : xs.flatMap encode ++ r = ys.flatMap encode ++ r') :
    xs.map view = ys.map view ∧ r = r' := by
  induction xs generalizing ys with
  | nil =>
    obtain rfl : ys = [] := List.eq_nil_of_length_eq_zero hlength.symm
    exact ⟨rfl, h⟩
  | cons x xs ih =>
    cases ys with
    | nil => cases hlength
    | cons y ys =>
      rw [List.flatMap_cons, List.flatMap_cons, List.append_assoc, List.append_assoc] at h
      obtain ⟨hview, h⟩ := hentry (x, y) List.mem_cons_self _ _ h
      obtain ⟨hviews, h⟩ := ih (Nat.succ.inj hlength)
        (fun p hp => hentry p (List.mem_cons_of_mem _ hp)) h
      exact ⟨List.cons_eq_cons.2 ⟨hview, hviews⟩, h⟩

theorem flatMap_encodeTraced_append_inj {ts us : List Traced} (hlength : ts.length = us.length)
    (h : ts.flatMap encodeTraced ++ r = us.flatMap encodeTraced ++ r') :
    ts.map Traced.bits = us.map Traced.bits ∧ r = r' :=
  flatMap_append_inj hlength (fun _ _ _ _ => encodeTraced_append_inj) h

/-- The bytes of a body give it back, if its length is known and whether it has a temperature. -/
theorem Body.encode_append_inj {b c : Body} (hb : (Digest.textBytes b.id).length ≤ countLimit)
    (hc : (Digest.textBytes c.id).length ≤ countLimit)
    (hthermal : b.id = c.id → b.temperature.isSome = c.temperature.isSome)
    (h : b.encode ++ r = c.encode ++ r') : b = c ∧ r = r' := by
  -- Each field takes its bytes from the front and leaves the rest to the next.
  simp only [Body.encode, List.append_assoc] at h
  obtain ⟨hid, h⟩ := encodeText_append_inj hb hc h
  obtain ⟨hposition, h⟩ := Vec3.encode_append_inj h
  obtain ⟨hvelocity, h⟩ := Vec3.encode_append_inj h
  obtain ⟨hacceleration, h⟩ := Vec3.encode_append_inj h
  obtain ⟨hmass, h⟩ := encodeFloat_append_inj h
  obtain ⟨hcharge, h⟩ := encodeFloat_append_inj h
  obtain ⟨htemperature, hrest⟩ := encodeOptional_append_inj (hthermal hid) h
  refine ⟨?_, hrest⟩
  cases b
  cases c
  exact (Body.mk.injEq ..).mpr
    ⟨hid, hposition, hvelocity, hacceleration, hmass, hcharge, htemperature⟩

end Fields

/-! ## §3 Samples -/

namespace Sample

/-- A total with its origin: as it is, if it was stated, and else as it arises. -/
def figure (s : Sample) (t : Total) (x : Float) (computed : Traced) : Traced :=
  if s.isStated t then .given x else .originOf x computed

/-- The coordinates of a total with their origin. -/
def vectorFigures (s : Sample) (t : Total) (v : Vec3) (computed : TracedVector) : List Traced :=
  [s.figure t v.x computed.x, s.figure t v.y computed.y, s.figure t v.z computed.z]

/-- The parts of the energy and their sum with their origin. -/
def energyFigures (s : Sample) : List Traced :=
  let origin : Float → Traced := if s.isStated .energy then .given else .computed
  let kinetic := origin s.energy.kinetic
  let potential := origin s.energy.potential
  [kinetic, potential, .originOf s.energy.total (kinetic + potential)]

/-- The coordinates of the centre with their origin. -/
def centerFigures (s : Sample) : List Traced :=
  let computed := (TracedVector.total (s.bodies.map Body.tracedMassMoment)).scale
    (.given (1.0 / totalOf Body.mass s.bodies))
  [.originOf s.centerOfMass.x computed.x, .originOf s.centerOfMass.y computed.y,
    .originOf s.centerOfMass.z computed.z]

/-- The totals of a sample in the order in which they are written. -/
def figures (s : Sample) : List Traced :=
  s.energyFigures ++
    s.vectorFigures .momentum s.momentum (.total (s.bodies.map Body.tracedMomentum)) ++
    s.vectorFigures .angularMomentum s.angularMomentum
      (.total (s.bodies.map Body.tracedAngularMomentum)) ++
    s.centerFigures ++
    [s.figure .mass s.mass (tracedTotalOf Body.mass s.bodies),
      s.figure .charge s.charge (tracedTotalOf Body.charge s.bodies)]

/-- The bits of the totals of a sample. -/
def figureBits (s : Sample) : List Nat := s.figures.map Traced.bits

/-- What a sample says, whether its totals were stated or computed. -/
def recorded (s : Sample) : Sample := { s with stated := [] }

variable {s t : Sample} {r r' : List UInt8}

theorem encodeTotal_eq {total : Total} {x : Float} {computed : Traced} :
    s.encodeTotal total x computed = encodeTraced (s.figure total x computed) := by
  unfold encodeTotal figure
  split <;> rfl

theorem encodeTotalVector_eq {total : Total} {v : Vec3} {computed : TracedVector} :
    s.encodeTotalVector total v computed =
      (s.vectorFigures total v computed).flatMap encodeTraced := by
  unfold encodeTotalVector vectorFigures figure
  split
  · simp [Vec3.encode, encodeFloat]
  · simp [Vec3.encodeWith]

/-- A sample is written as its time, its bodies and its totals. -/
theorem encode_eq :
    s.encode = encodeFloat s.time ++ (encodeCount s.bodies.length ++
      (s.bodies.flatMap Body.encode ++ s.figures.flatMap encodeTraced)) := by
  rw [encode, encodeTotalVector_eq, encodeTotalVector_eq, encodeTotal_eq, encodeTotal_eq]
  simp [figures, energyFigures, centerFigures, Energy.encode, Vec3.encodeWith]

theorem figures_map_value :
    s.figures.map Traced.value =
      [s.energy.kinetic, s.energy.potential, s.energy.total,
        s.momentum.x, s.momentum.y, s.momentum.z,
        s.angularMomentum.x, s.angularMomentum.y, s.angularMomentum.z,
        s.centerOfMass.x, s.centerOfMass.y, s.centerOfMass.z, s.mass, s.charge] := by
  have hfigure {total : Total} {x : Float} {computed : Traced} :
      (s.figure total x computed).value = x := by
    unfold figure
    split <;> rfl
  have hvector {total : Total} {v : Vec3} {computed : TracedVector} :
      (s.vectorFigures total v computed).map Traced.value = [v.x, v.y, v.z] := by
    simp [vectorFigures, hfigure]
  have henergy : s.energyFigures.map Traced.value =
      [s.energy.kinetic, s.energy.potential, s.energy.total] := by
    unfold energyFigures
    split <;> rfl
  simp only [figures, List.map_append, henergy, hvector, List.map_cons, List.map_nil, hfigure]
  rfl

/-- Stated or computed, a sample has the same number of totals. -/
theorem length_figures : s.figures.length = 14 := by
  rw [← List.length_map Traced.value, figures_map_value]
  rfl

theorem recorded_eq_iff :
    s.recorded = t.recorded ↔
      s.time = t.time ∧ s.bodies = t.bodies ∧
        s.figures.map Traced.value = t.figures.map Traced.value := by
  rw [figures_map_value, figures_map_value]
  obtain ⟨_, _, ⟨⟩, ⟨⟩, ⟨⟩, ⟨⟩, _, _, _⟩ := s
  obtain ⟨_, _, ⟨⟩, ⟨⟩, ⟨⟩, ⟨⟩, _, _, _⟩ := t
  simp [recorded, and_assoc]

/-- The lengths in a sample are counts. -/
def Fits (s : Sample) : Prop :=
  s.bodies.length ≤ countLimit ∧
    ∀ b ∈ s.bodies, (Digest.textBytes b.id).length ≤ countLimit

/-- Where two samples show the same body, both or neither show its temperature. -/
def SameThermal (s t : Sample) : Prop :=
  ∀ p ∈ s.bodies.zip t.bodies, p.1.id = p.2.id → p.1.temperature.isSome = p.2.temperature.isSome

/-- The bytes of a sample give it back, if it is known which bodies have a temperature. -/
theorem encode_append_inj (hs : s.Fits) (ht : t.Fits) (hthermal : SameThermal s t)
    (h : s.encode ++ r = t.encode ++ r') :
    (s.recorded, s.figureBits) = (t.recorded, t.figureBits) ∧ r = r' := by
  rw [encode_eq, encode_eq] at h
  simp only [List.append_assoc] at h
  obtain ⟨htime, h⟩ := encodeFloat_append_inj h
  obtain ⟨hlength, h⟩ := encodeCount_append_inj hs.1 ht.1 h
  have hbody (p : Body × Body) (hp : p ∈ s.bodies.zip t.bodies) (r r' : List UInt8)
      (h : p.1.encode ++ r = p.2.encode ++ r') : id p.1 = id p.2 ∧ r = r' :=
    Body.encode_append_inj (hs.2 _ (List.of_mem_zip hp).1) (ht.2 _ (List.of_mem_zip hp).2)
      (hthermal p hp) h
  obtain ⟨hbodies, h⟩ := flatMap_append_inj hlength hbody h
  rw [List.map_id, List.map_id] at hbodies
  obtain ⟨hbits, h⟩ :=
    flatMap_encodeTraced_append_inj (length_figures.trans length_figures.symm) h
  have hrecorded : s.recorded = t.recorded :=
    recorded_eq_iff.2 ⟨htime, hbodies, Traced.map_value_eq_of_bits hbits⟩
  exact ⟨Prod.ext hrecorded hbits, h⟩

/-- What a sample says and the bits of its totals are all that is written. -/
theorem encode_of_recorded (hrecorded : s.recorded = t.recorded)
    (hbits : s.figureBits = t.figureBits) : s.encode = t.encode := by
  have hwritten (u : Sample) :
      u.figures.flatMap encodeTraced = u.figureBits.flatMap (lowBytes 8) := by
    rw [figureBits, List.flatMap_map]
    rfl
  obtain ⟨htime, hbodies, -⟩ := recorded_eq_iff.1 hrecorded
  rw [encode_eq, encode_eq, hwritten, hwritten, htime, hbodies, hbits]

end Sample

/-! ## §4 Series -/

namespace Series

/-- The lengths in a series are counts. -/
def Fits (series : Series) : Prop := series.length ≤ countLimit ∧ ∀ s ∈ series, s.Fits

/-- Where two series show the same body, both or neither show its temperature. -/
def SameThermal (series other : Series) : Prop :=
  ∀ p ∈ series.zip other, Sample.SameThermal p.1 p.2

variable {series other : Series}

theorem encode_of_recorded (hrecorded : series.map Sample.recorded = other.map Sample.recorded)
    (hbits : series.map Sample.figureBits = other.map Sample.figureBits) :
    series.encode = other.encode := by
  have hlength : series.length = other.length := by
    simpa using congrArg List.length hrecorded
  have hsamples : series.flatMap Sample.encode = other.flatMap Sample.encode := by
    clear hlength
    induction series generalizing other with
    | nil =>
      obtain rfl : other = [] := List.map_eq_nil_iff.1 hrecorded.symm
      rfl
    | cons s series ih =>
      cases other with
      | nil => cases hrecorded
      | cons t other =>
        obtain ⟨hrecorded, hrecordeds⟩ := List.cons_eq_cons.1 hrecorded
        obtain ⟨hbits, hbitss⟩ := List.cons_eq_cons.1 hbits
        rw [List.flatMap_cons, List.flatMap_cons, Sample.encode_of_recorded hrecorded hbits,
          ih hrecordeds hbitss]
  rw [encode, encode, hlength, hsamples]

theorem encode_inj (hseries : series.Fits) (hother : other.Fits)
    (hthermal : SameThermal series other) (h : series.encode = other.encode) :
    series.map (fun s => (s.recorded, s.figureBits)) =
      other.map fun s => (s.recorded, s.figureBits) := by
  have hbytes : series.encode ++ [] = other.encode ++ [] := by rw [h]
  -- The number of samples stands before them, so they can be read one by one.
  rw [encode, encode, List.append_assoc, List.append_assoc] at hbytes
  obtain ⟨hlength, hsamples⟩ := encodeCount_append_inj hseries.1 hother.1 hbytes
  refine (flatMap_append_inj hlength (fun p hp r r' => ?_) hsamples).1
  exact Sample.encode_append_inj (hseries.2 _ (List.of_mem_zip hp).1)
    (hother.2 _ (List.of_mem_zip hp).2) (hthermal p hp)

/-- Two series in which the same bodies have a temperature have the same bytes only if they are the
same, bit for bit.  So their fingerprints agree only if they are the same or the digest of two
different texts is. -/
theorem encode_eq_iff (hseries : series.Fits) (hother : other.Fits)
    (hthermal : SameThermal series other) :
    (series.encode = other.encode ↔
      series.map Sample.recorded = other.map Sample.recorded ∧
        series.map Sample.figureBits = other.map Sample.figureBits) ∧
    (series.fingerprint = other.fingerprint →
      series.map Sample.recorded = other.map Sample.recorded ∧
          series.map Sample.figureBits = other.map Sample.figureBits ∨
        series.encode ≠ other.encode ∧
          Digest.digestHex series.encode = Digest.digestHex other.encode) := by
  have hiff : series.encode = other.encode ↔
      series.map Sample.recorded = other.map Sample.recorded ∧
        series.map Sample.figureBits = other.map Sample.figureBits := by
    constructor
    · intro h
      have hpairs := encode_inj hseries hother hthermal h
      exact ⟨by simpa [Function.comp_def] using congrArg (List.map Prod.fst) hpairs,
        by simpa [Function.comp_def] using congrArg (List.map Prod.snd) hpairs⟩
    · rintro ⟨hrecorded, hbits⟩
      exact encode_of_recorded hrecorded hbits
  refine ⟨hiff, fun hfingerprint => ?_⟩
  by_cases hbytes : series.encode = other.encode
  · exact .inl (hiff.1 hbytes)
  · exact .inr ⟨hbytes, hfingerprint⟩

/-- Two bodies, of which the first has a temperature. -/
def thermalSeries (temperature : Float) : Series :=
  [.of 0.0 [{ id := "rod", temperature := some temperature }, { id := "peg" }] {}]

/-- Two temperatures of a body are told apart. -/
theorem encode_thermalSeries :
    (thermalSeries 300.0).Fits ∧ (thermalSeries 301.0).Fits ∧
      SameThermal (thermalSeries 300.0) (thermalSeries 301.0) ∧
      (thermalSeries 300.0).encode ≠ (thermalSeries 301.0).encode := by
  have hrod : (Digest.textBytes "rod").length = 3 := by rw [textBytes_eq]; decide
  have hpeg : (Digest.textBytes "peg").length = 3 := by rw [textBytes_eq]; decide
  have hfits (x : Float) : (thermalSeries x).Fits := by
    simp [thermalSeries, Fits, Sample.Fits, Sample.of, hrod, hpeg, countLimit, UInt64.size]
  have hthermal : SameThermal (thermalSeries 300.0) (thermalSeries 301.0) := by
    unfold SameThermal Sample.SameThermal
    decide
  refine ⟨hfits _, hfits _, hthermal, fun h => ?_⟩
  have hrecorded := ((encode_eq_iff (hfits _) (hfits _) hthermal).1.1 h).1
  revert hrecorded
  decide

/-- Two bodies, of which the second has a temperature. -/
def coldSecond : Series :=
  [.of 0.0
    [{ id := "a" },
      { id := "@", position := ⟨.ofBits 1, .ofBits 0x41, 0.0⟩, mass := .ofBits 1
        temperature := some 0.0 }] {}]

/-- Two bodies, of which the first has a temperature. -/
def warmFirst : Series :=
  [.of 0.0
    [{ id := "a", temperature := some 2.0 },
      { id := "A", acceleration := ⟨0.0, .ofBits 0x100000000000000, 0.0⟩
        mass := .ofBits 0x100000000000000 }] {}]

/-- The mark and the number of a temperature can stand for the length of a text and its first
byte. -/
theorem encode_eq_of_ne : coldSecond.encode = warmFirst.encode ∧
    coldSecond.map Sample.recorded ≠ warmFirst.map Sample.recorded := by
  have ha : encodeText "a" = [1, 0, 0, 0, 0, 0, 0, 0, 97] := by
    rw [encodeText, textBytes_eq]
    decide
  have hat : encodeText "@" = [1, 0, 0, 0, 0, 0, 0, 0, 64] := by
    rw [encodeText, textBytes_eq]
    decide
  have hA : encodeText "A" = [1, 0, 0, 0, 0, 0, 0, 0, 65] := by
    rw [encodeText, textBytes_eq]
    decide
  constructor
  · -- The bytes are compared with the texts already spelled out; evaluating a text gets stuck.
    simp only [coldSecond, warmFirst, Sample.of, Series.encode, Sample.encode, Body.encode,
      List.flatMap_cons, List.flatMap_nil, ha, hat, hA]
    decide +kernel
  · decide

end Series

end PhysicsLab
