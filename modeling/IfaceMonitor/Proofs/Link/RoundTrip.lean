import IfaceMonitor.Proofs.Discovery.Normal
import IfaceMonitor.Proofs.Json.Finite
import IfaceMonitor.Proofs.Link.Names

/-!
Interfaces as JSON values. Names, link states and hardware addresses are settled once they have been
decoded, so they are decoded again to themselves. A speed is corrected whenever it is decoded, which
leaves it as it is exactly up to the largest speed (`Interface.decode_encode_of_decode`). All this
is said of values with finite numbers, which all texts have (`Json.isFinite_of_parse`).
-/

namespace IfaceMonitor

namespace Attributes
open Rounding Float.Model Float.Model.UnpackedFloat

variable {s : Float}

theorem magnitude_largestSpeed :
    Magnitude largestSpeed.toModel.unpack ((9000000000000 : ℚ) : WithTop ℚ) := by
  have unpacked : largestSpeed.toModel.unpack =
      .finite .positive 4608000000000000 (-9) (by decide) := rfl
  have canonical : Canonical 4608000000000000 (-9) := ⟨by decide, by decide, Or.inr (by decide)⟩
  have value : (9000000000000 : ℚ) = (4608000000000000 : ℕ) * 2 ^ (-9 : ℤ) := by norm_num
  rw [unpacked, value]
  exact .finite _ canonical (by decide)

theorem magnitude_tenThousand :
    Magnitude (10000.0 : Float).toModel.unpack ((10000 : ℚ) : WithTop ℚ) := by
  have unpacked : (10000.0 : Float).toModel.unpack =
      .finite .positive 5497558138880000 (-39) (by decide) := rfl
  have canonical : Canonical 5497558138880000 (-39) :=
    ⟨by decide, by decide, Or.inr (by decide)⟩
  have value : (10000 : ℚ) = (5497558138880000 : ℕ) * 2 ^ (-39 : ℤ) := by norm_num
  rw [unpacked, value]
  exact .finite _ canonical (by decide)

theorem quotient_lt (finite : s.isFinite = true) (above : largestSpeed < s) :
    ∃ p q : ℚ,
      Magnitude s.toModel.unpack p ∧ Magnitude (s / 10000.0).toModel.unpack q ∧ q < p := by
  obtain ⟨within, -⟩ := Comparison.lt_iff_le_and_not_beq.1 above
  obtain ⟨x, magnitude⟩ :=
    magnitude_of_nonneg (Comparison.le_of_lt_of_le (by decide : 0.0 < largestSpeed) within)
  obtain ⟨p, rfl⟩ := magnitude.number_of_isFinite finite
  have reached : (9000000000000 : ℚ) ≤ p :=
    WithTop.coe_le_coe.1 ((le_iff_magnitude magnitude_largestSpeed magnitude).1 within)
  obtain ⟨m, e, fits, -, largest, rfl⟩ := magnitude.exists_fitting
  have large : -10 ≤ e := by
    by_contra! small
    have below : (m * 2 ^ e : ℚ) < 2 ^ (52 + -10 : ℤ) := Nearest.small_of_lt fits small
    norm_num at below
    linarith
  have half : (m * 2 ^ e : ℚ) = m * 2 ^ (e - 1) * 2 := by
    rw [mul_assoc, ← zpow_add_one₀ two_ne_zero, sub_add_cancel]
  obtain ⟨y, quotient, bound⟩ :=
    magnitude_div_le magnitude magnitude_tenThousand (by norm_num) fits
      (by omega : -1074 ≤ e - 1) (by omega) (by
        rintro q same
        rw [← WithTop.coe_inj.1 same, half]
        have : (0 : ℚ) ≤ m * 2 ^ (e - 1) := by positivity
        linarith)
  obtain ⟨q, rfl⟩ := WithTop.ne_top_iff_exists.1 (ne_top_of_le_ne_top WithTop.coe_ne_top bound)
  refine ⟨m * 2 ^ e, q, magnitude, quotient, ?_⟩
  have := WithTop.coe_le_coe.1 bound
  linarith

theorem isFinite_correctedSpeed (finite : s.isFinite = true) :
    (correctedSpeed s).isFinite = true := by
  rw [correctedSpeed]
  split
  · next above =>
    obtain ⟨p, q, -, quotient, -⟩ := quotient_lt finite above
    exact quotient.isFinite
  · exact finite

theorem correctedSpeed_eq_self_iff (finite : s.isFinite = true) :
    correctedSpeed s = s ↔ ¬largestSpeed < s := by
  rw [correctedSpeed]
  split
  · next above =>
    refine iff_of_false (fun same => ?_) (not_not.2 above)
    obtain ⟨p, q, magnitude, quotient, less⟩ := quotient_lt finite above
    rw [same] at quotient
    have back := (magnitude.le_iff quotient).1 ((quotient.le_iff quotient).2 le_rfl)
    exact less.not_ge (WithTop.coe_le_coe.1 back)
  · next within => exact iff_of_true rfl within

end Attributes

namespace HardwareAddress

theorem digitValue?_hexDigit {d : Nat} (small : d < 16) :
    Text.digitValue? 16 (hexDigit d) = some d := by
  decide +revert

theorem hexDigit_ne {d : Nat} (small : d < 16) : hexDigit d ≠ ':' ∧ hexDigit d ≠ '+' := by
  decide +revert

theorem readByte?_byteText (b : UInt8) : readByte? (byteText b) = some b := by
  have high : b.toNat / 16 < 16 := by have := b.toNat_lt; omega
  have low : b.toNat % 16 < 16 := Nat.mod_lt _ (by decide)
  have unsigned : Text.dropPlus (byteText b) = byteText b := by
    rw [Text.dropPlus]
    intro cs plus
    exact (hexDigit_ne high).2 (List.cons.inj plus).1
  have digits : Text.readDigits? 16 (byteText b) = some b.toNat := by
    simp only [Text.readDigits?, byteText, List.isEmpty_cons, List.foldlM_cons, List.foldlM_nil,
      digitValue?_hexDigit high, digitValue?_hexDigit low]
    simp
    omega
  rw [readByte?, Text.readUnsigned?, unsigned, digits,
    Option.filter_some_pos (by simpa using b.toNat_lt), Option.map_some]
  simp

theorem mapM_byteText (bytes : List UInt8) : (bytes.map byteText).mapM readByte? = some bytes := by
  induction bytes with
  | nil => rfl
  | cons b rest ih =>
    rw [List.map_cons, List.mapM_cons, readByte?_byteText, ih]
    rfl

theorem splitWhen_textOf {bytes : List UInt8} (filled : bytes ≠ []) :
    Text.splitWhen (· == ':') (textOf bytes) = bytes.map byteText := by
  have plain (b : UInt8) : ∀ c ∈ byteText b, (c == ':') = false := by
    have high : b.toNat / 16 < 16 := by have := b.toNat_lt; omega
    have low : b.toNat % 16 < 16 := Nat.mod_lt _ (by decide)
    simp [byteText, (hexDigit_ne high).1, (hexDigit_ne low).1]
  induction bytes with
  | nil => exact absurd rfl filled
  | cons b rest ih =>
    cases rest with
    | nil => exact Text.splitWhen_eq_singleton (plain b)
    | cons other rest =>
      rw [textOf, Text.splitWhen_append_cons (plain b) rfl, ih (List.cons_ne_nil other rest),
        List.map_cons (a := b)]
      exact List.cons_ne_nil other rest

theorem parse_text (a : HardwareAddress) : parse a.text = .ok a := by
  have read : parse? a.text = some a := by
    cases a with | mk bytes =>
    rw [parse?, text]
    cases bytes with
    | nil => rfl
    | cons b rest =>
      have filled : textOf (b :: rest) ≠ [] := by cases rest <;> exact List.cons_ne_nil _ _
      have pieces := splitWhen_textOf (List.cons_ne_nil b rest)
      rw [if_neg (by simpa using filled), String.toList_ofList, pieces, mapM_byteText,
        Option.map_some]
  rw [parse, read]

theorem eq_empty {a : HardwareAddress} (nothing : a.isEmpty = true) : a = empty := by
  cases a with | mk bytes =>
  exact congrArg mk (List.isEmpty_iff.1 nothing)

theorem decode_encode (a : HardwareAddress) : decode a.encode = .ok a :=
  congrArg Decoded.ofInterface a.parse_text

end HardwareAddress

namespace Attributes

structure Settled (a : Attributes) : Prop where
  states : a.Normal
  index : (Text.trim a.index).isEmpty = false
  descr : normalizedName a.descr = a.descr
  aliasName : normalizedName a.aliasName = a.aliasName
  speed : a.speed.isFinite = true
  outQueue : ∀ length ∈ a.outQueue, length.isFinite = true

theorem settled_of_decode {value : Json} {a : Attributes} (finite : value.IsFinite)
    (decoded : decode value = .ok a) : a.Settled := by
  have states := yields_normal decoded
  simp only [decode, bind_eq_ok, pure_eq_ok, Decoded.ofInterface_eq_ok] at decoded
  obtain ⟨fields, listed, index, -, descr, -, aliasName, -, typeCode, -, speed, rate, operStatus,
    -, adminStatus, -, address, -,
    outQueue, queue, speedText, -, group, -, node, -, extraInfo, -, base, created, rfl⟩ := decoded
  have members := Json.finite_of_record finite listed
  have finiteSpeed : speed.isFinite = true := by
    rcases Json.eq_default_or_mem rate with rfl | ⟨m, member, read⟩
    · decide
    · exact Json.isFinite_of_double (members m member) read
  have creates := creates_of_create created
  exact ⟨states, creates.index ▸ creates.filled, normalizedName_normalizedName _,
    normalizedName_normalizedName _,
    isFinite_correctedSpeed finiteSpeed, Json.isFinite_of_optional members queue⟩

theorem decode_encode {a : Attributes} (settled : a.Settled) :
    decode a.encode = .ok { a with speed := correctedSpeed a.speed } := by
  refine Json.record_bind rfl (by decide) fun fields found => ?_
  have index : Json.required fields "index" Json.text = .ok a.index :=
    Json.required_of_lookup (found "index")
  have written {name : String} {text : String}
      (stored : List.lookup name fields = some (.str text)) :
      Json.withDefault fields name "" Json.text = .ok text := by
    rw [Json.withDefault, stored]
    rfl
  have optionalText {name : String} {text : Option String}
      (stored : List.lookup name fields = text.map .str) :
      Json.withDefault fields name none (Json.optional Json.text) = .ok text :=
    Json.withDefault_optional stored (fun text _ => Json.str_ne_null text) fun _ _ => rfl
  have speed : Json.withDefault fields "speed" 0.0 Json.double = .ok a.speed := by
    rw [Json.withDefault, found "speed"]
    exact Json.double_ofFloat.2 ⟨settled.speed, rfl⟩
  have operStatus : Json.required fields "oper_status" LinkStatus.decode = .ok a.operStatus := by
    rw [Json.required_of_lookup (found "oper_status")]
    exact LinkStatus.decode_encode settled.states.operStatus
  have adminStatus : Json.withDefault fields "admin_status" none (Json.optional LinkStatus.decode) =
      .ok a.adminStatus :=
    Json.withDefault_optional (found "admin_status")
      (fun s _ => Json.str_ne_null s.code) fun s given =>
      LinkStatus.decode_encode (settled.states.adminStatus s given)
  have address : Json.withDefault fields "phys_address" .empty HardwareAddress.decode =
      .ok a.address :=
    Json.withDefault_of_lookup (found "phys_address") HardwareAddress.eq_empty
      a.address.decode_encode
  have outQueue : Json.withDefault fields "out_qlen" none (Json.optional Json.double) =
      .ok a.outQueue :=
    Json.withDefault_optional (found "out_qlen")
      (fun length given => Json.ofFloat_ne_null (settled.outQueue length given))
      fun length given => Json.double_ofFloat.2 ⟨settled.outQueue length given, rfl⟩
  have speedText : Json.withDefault fields "speed_as_text" "" Json.text = .ok a.speedText :=
    Json.withDefault_of_lookup (found "speed_as_text") String.isEmpty_iff.1 rfl
  obtain ⟨base, created, creates⟩ :=
    exists_create settled.index a.descr a.aliasName a.operStatus
  have sameDescr : base.descr = a.descr := creates.names.descr.trans settled.descr
  have sameAlias : base.aliasName = a.aliasName := creates.names.aliasName.trans settled.aliasName
  rw [index, written (found "descr"), written (found "alias"), written (found "type"), speed,
    operStatus, adminStatus, address, outQueue, speedText, optionalText (found "group"),
    optionalText (found "node"), optionalText (found "extra_info")]
  simp only [bind, Except.bind, created, Decoded.ofInterface]
  rw [pure_eq_ok, normalized]
  simp only [creates.index, sameDescr, sameAlias, creates.operStatus, settled.descr,
    settled.aliasName]

end Attributes

namespace PerCounter
variable {α : Type} {item : Json → Decoded α} {encodeItem : α → Json}
  {r : PerCounter (Option α)}

theorem decode_eq_ok {value : Json} :
    decode item value = .ok r ↔
      ∃ fields, value.record (Counter.all.map Counter.name) = .ok fields ∧
      ∀ counter : Counter, Json.withDefault fields counter.name none (Json.optional item) =
        .ok (r.get counter) := by
  simp only [decode, bind_eq_ok, pure_eq_ok]
  refine exists_congr fun fields => and_congr_right fun _ => ?_
  constructor
  · rintro ⟨_, h1, _, h2, _, h3, _, h4, _, h5, _, h6, _, h7, _, h8, _, h9, _, h10, _, h11,
      _, h12, rfl⟩ counter
    cases counter <;> assumption
  · intro each
    exact ⟨_, each .inOctets, _, each .inUcast, _, each .inMcast, _, each .inBcast,
      _, each .inDisc, _, each .inErr, _, each .outOctets, _, each .outUcast,
      _, each .outMcast, _, each .outBcast, _, each .outDisc, _, each .outErr, rfl⟩

theorem decode_encode (filled : ∀ counter, ∀ x ∈ r.get counter, encodeItem x ≠ .null)
    (each : ∀ counter, ∀ x ∈ r.get counter, item (encodeItem x) = .ok x) :
    decode item (r.encode encodeItem) = .ok r := by
  have written : r.encode encodeItem =
      .objOf (Counter.all.map fun counter =>
        (counter.name, some (Json.ofOption encodeItem (r.get counter)))) := rfl
  have named : (Counter.all.map fun counter =>
      (counter.name, some (Json.ofOption encodeItem (r.get counter)))).map (·.1) =
        Counter.all.map Counter.name := rfl
  obtain ⟨fields, listed, found⟩ := Json.exists_record named (by decide)
  refine decode_eq_ok.2 ⟨fields, written ▸ listed, fun counter => ?_⟩
  have stored : List.lookup counter.name fields =
      some (Json.ofOption encodeItem (r.get counter)) := by
    rw [found]
    cases counter <;> rfl
  rw [Json.withDefault, stored]
  cases given : r.get counter with
  | none => rfl
  | some x => exact Json.optional_of_ne_null (filled counter x given) (each counter x given)

theorem isReadable_encode
    (each : ∀ counter, ∀ x ∈ r.get counter, (encodeItem x).isReadable = true) :
    (r.encode encodeItem).isReadable = true := by
  refine Json.haveReadable_iff.2 (List.forall_mem_map.2 fun counter _ => ?_)
  cases given : r.get counter with
  | none => rfl
  | some x => exact each counter x given

end PerCounter

theorem RawCounters.decode_encode (r : RawCounters) : decode r.encode = .ok r := by
  refine PerCounter.decode_encode (fun _ _ _ => nofun) fun counter n _ => ?_
  have small : (0 : Int) ≤ n.toNat ∧ (n.toNat : Int) < (Nat.pow 2 64 : Nat) :=
    ⟨Int.natCast_nonneg _, by exact_mod_cast n.toNat_lt⟩
  rw [Json.natural, if_pos small]
  exact congrArg Except.ok (UInt64.ofNat_toNat (x := n))

theorem PlainRates.decode_encode {r : PlainRates}
    (finite : ∀ counter, ∀ x ∈ r.get counter, x.isFinite = true) :
    decode r.encode = .ok r :=
  PerCounter.decode_encode (fun counter x given => Json.ofFloat_ne_null (finite counter x given))
    fun counter x given => Json.double_ofFloat.2 ⟨finite counter x given, rfl⟩

namespace Traffic

def IsFinite : Traffic → Prop
  | .counters _ => True
  | .rates r => ∀ counter, ∀ rate ∈ r.get counter, rate.isFinite = true

theorem isFinite_of_decode {members : List (String × Json)} {t : Traffic}
    (finite : ∀ m ∈ members, m.2.IsFinite) (decoded : decode members = .ok t) : t.IsFinite := by
  rw [decode] at decoded
  split at decoded
  · obtain ⟨counters, -, same⟩ := bind_eq_ok.1 decoded
    cases same
    trivial
  · next found =>
    obtain ⟨rates, read, same⟩ := bind_eq_ok.1 decoded
    cases same
    obtain ⟨fields, listed, each⟩ := PerCounter.decode_eq_ok.1 read
    have members := Json.finite_of_record (finite _ (List.mem_of_find?_eq_some found)) listed
    exact fun counter => Json.isFinite_of_optional members (each counter)
  · cases decoded

def member : Traffic → String × Json
  | .counters c => ("counters", c.encode)
  | .rates r => ("rates", r.encode)

theorem decode_member {t : Traffic} (finite : t.IsFinite) : decode [t.member] = .ok t := by
  cases t with
  | counters counters => exact bind_eq_ok.2 ⟨counters, counters.decode_encode, rfl⟩
  | rates rates => exact bind_eq_ok.2 ⟨rates, PlainRates.decode_encode finite, rfl⟩

theorem isReadable_member {t : Traffic} (finite : t.IsFinite) : t.member.2.isReadable = true := by
  cases t with
  | counters counters => exact PerCounter.isReadable_encode fun _ _ _ => rfl
  | rates rates =>
    refine PerCounter.isReadable_encode fun counter rate given => ?_
    rw [Json.ofFloat, if_pos (finite counter rate given)]
    rfl

end Traffic

namespace Interface

theorem decode_encode {i : Interface} (settled : i.attributes.Settled)
    (finite : i.traffic.IsFinite) :
    decode i.encode = .ok
      { i with attributes.speed := Attributes.correctedSpeed i.attributes.speed } := by
  have written : i.encode = .obj [("attributes", i.attributes.encode), i.traffic.member] := by
    cases i with | mk attributes traffic =>
    cases traffic <;> rfl
  have known : Json.known ["attributes"] [("attributes", i.attributes.encode), i.traffic.member] =
      .ok [("attributes", i.attributes.encode)] := by
    cases i.traffic <;> rfl
  have collected : Json.collected ["attributes"]
      [("attributes", i.attributes.encode), i.traffic.member] = .ok [i.traffic.member] :=
    Json.collected_eq_ok.2
      ⟨by cases i.traffic <;> rfl, by simpa using Traffic.isReadable_member finite⟩
  rw [written]
  refine bind_eq_ok.2 ⟨_, rfl, bind_eq_ok.2
    ⟨_, known, bind_eq_ok.2 ⟨_, Attributes.decode_encode settled, ?_⟩⟩⟩
  exact bind_eq_ok.2
    ⟨_, collected, bind_eq_ok.2 ⟨i.traffic, Traffic.decode_member finite, rfl⟩⟩

theorem settled_of_decode {value : Json} {i : Interface} (finite : value.IsFinite)
    (decoded : decode value = .ok i) :
    i.attributes.Settled ∧ i.traffic.IsFinite := by
  simp only [decode, bind_eq_ok, pure_eq_ok] at decoded
  obtain ⟨members, listed, fields, kept, attributes, own, rest, others, traffic, carried, same⟩ :=
    decoded
  have parts := Json.finite_of_members finite listed
  obtain ⟨value, stored, read⟩ := Json.required_eq_ok.1 own
  obtain ⟨rfl, -⟩ := Json.collected_eq_ok.1 others
  cases same
  exact ⟨Attributes.settled_of_decode
    (parts _ (Json.mem_of_known kept (Json.mem_of_lookup stored))) read,
    Traffic.isFinite_of_decode (fun m member => parts m (List.mem_of_mem_filter member)) carried⟩

/-- An interface that was decoded is decoded again to itself, apart from a speed that is still too
large. -/
theorem decode_encode_of_decode {value : Json} {i : Interface} (finite : value.IsFinite)
    (decoded : decode value = .ok i) :
    decode i.encode = .ok
      { i with attributes.speed := Attributes.correctedSpeed i.attributes.speed } ∧
      (decode i.encode = .ok i ↔ ¬Attributes.largestSpeed < i.attributes.speed) := by
  obtain ⟨settled, regular⟩ := settled_of_decode finite decoded
  have again := decode_encode settled regular
  refine ⟨again, ?_⟩
  rw [again, ← Attributes.correctedSpeed_eq_self_iff settled.speed]
  constructor
  · intro same
    exact congrArg (fun i => i.attributes.speed) (Except.ok.inj same)
  · intro same
    rw [same]

def portWithSpeed (speed : Float) : Json :=
  .obj [("attributes",
    .obj [("index", .str "1"), ("descr", .str " eth0\n"), ("speed", .float speed),
    ("oper_status", .str " 1"), ("phys_address", .str "0:1a:+2B")]),
    ("rates", .obj [("in_octets", .int 1000), ("in_err", .null)])]

theorem isFinite_portWithSpeed {speed : Float} (finite : speed.isFinite = true) :
    (portWithSpeed speed).IsFinite := by
  simp only [portWithSpeed, Json.IsFinite, Json.HaveFinite, true_and, and_true]
  exact finite

theorem decode_encode_of_portWithSpeed :
    (portWithSpeed 1e16).IsFinite ∧ ∃ i, decode (portWithSpeed 1e16) = .ok i ∧
      decode i.encode = .ok
        { i with attributes.speed := Attributes.correctedSpeed i.attributes.speed } ∧
        (decode i.encode = .ok i ↔ ¬Attributes.largestSpeed < i.attributes.speed) := by
  have finite : (portWithSpeed 1e16).IsFinite := isFinite_portWithSpeed (by decide)
  exact ⟨finite, _, rfl, decode_encode_of_decode finite rfl⟩

theorem decode_encode_of_tooFast :
    ∃ i j, decode (portWithSpeed 1e17) = .ok i ∧ decode i.encode = .ok j ∧
      i.attributes.speed = 1e13 ∧ j.attributes.speed = 1e9 ∧ decode i.encode ≠ .ok i := by
  have first : Attributes.correctedSpeed 1e17 = 1e13 := by decide +kernel
  have second : Attributes.correctedSpeed 1e13 = 1e9 := by decide +kernel
  have different : (1e9 : Float) ≠ 1e13 := by decide +kernel
  obtain ⟨i, decoded, speed⟩ : ∃ i, decode (portWithSpeed 1e17) = .ok i ∧
      i.attributes.speed = Attributes.correctedSpeed 1e17 :=
    ⟨_, rfl, rfl⟩
  obtain ⟨settled, regular⟩ := settled_of_decode (isFinite_portWithSpeed (by decide)) decoded
  have again := decode_encode settled regular
  rw [first] at speed
  rw [speed, second] at again
  refine ⟨i, _, decoded, again, speed, rfl, fun same => different ?_⟩
  rw [again] at same
  rw [← speed]
  exact congrArg (fun i => i.attributes.speed) (Except.ok.inj same)

end Interface

end IfaceMonitor
