import IfaceMonitor.Levels.Packet
import IfaceMonitor.Levels.Traffic
import IfaceMonitor.Proofs.Discovery.Normal

namespace IfaceMonitor

theorem SingleSettings.decode_encode (s : SingleSettings) : decode s.encode = .ok s := by
  refine Json.record_bind rfl (by decide) fun fields found => ?_
  have enabled : Json.required fields "enabled" Json.flag = .ok s.enabled :=
    Json.required_of_lookup (found "enabled")
  have naming : Json.withDefault fields "naming" .index NameSource.decode = .ok s.naming := by
    rw [Json.withDefault, found "naming"]
    exact s.naming.decode_encode
  have padded : Json.withDefault fields "pad_portnumbers" true Json.flag = .ok s.padded := by
    rw [Json.withDefault, found "pad_portnumbers"]
    rfl
  rw [enabled, naming, padded, decode_labels s.labels (found "labels")]
  rfl

theorem GroupEntry.decode_encode (e : GroupEntry) : decode e.encode = .ok e := by
  have written : e.encode =
      .objOf [("group_name", some (.str e.name)),
        ("member_appearance", some e.memberNaming.encode)] := rfl
  rw [written]
  refine Json.record_bind rfl (by decide) fun fields found => ?_
  have name : Json.required fields "group_name" Json.text = .ok e.name :=
    Json.required_of_lookup (found "group_name")
  have naming : Json.withDefault fields "member_appearance" .index NameSource.decode =
      .ok e.memberNaming := by
    rw [Json.withDefault, found "member_appearance"]
    exact e.memberNaming.decode_encode
  rw [name, naming]
  rfl

theorem Grouping.decode_encode (g : Grouping) : decode g.encode = .ok g := by
  refine Json.record_bind rfl (by decide) fun fields found => ?_
  have enabled : Json.required fields "enabled" Json.flag = .ok g.enabled :=
    Json.required_of_lookup (found "enabled")
  have items : Json.withDefault fields "group_items" [] (Json.list GroupEntry.decode) =
      .ok g.items := by
    rw [Json.withDefault, found "group_items"]
    exact Json.list_ofList fun e _ => e.decode_encode
  rw [enabled, items, decode_labels g.labels (found "labels")]
  rfl

theorem DiscoveryRule.decode_encode {r : DiscoveryRule} (normal : r.criteria.Normal) :
    decode r.encode = .ok r := by
  refine Json.record_bind rfl (by decide) fun fields found => ?_
  have criteria : Json.withDefault fields "matching_conditions" .unrestricted Criteria.decode =
      .ok r.criteria := by
    rw [Json.withDefault, found "matching_conditions"]
    exact Criteria.decode_encode normal
  have single : Json.withDefault fields "discovery_single" none
      (Json.optional SingleSettings.decode) = .ok r.single :=
    Json.withDefault_optional (found "discovery_single") (fun _ _ => Json.obj_ne_null _) fun s _ =>
      s.decode_encode
  have grouping : Json.withDefault fields "grouping" none (Json.optional Grouping.decode) =
      .ok r.grouping :=
    Json.withDefault_optional (found "grouping") (fun _ _ => Json.obj_ne_null _) fun g _ =>
      g.decode_encode
  rw [criteria, single, grouping]
  rfl

theorem GroupConfig.yields_normal : Json.Yields Normal decode := by
  intro value c decoded
  simp only [decode, decodeWith, bind_eq_ok, pure_eq_ok] at decoded
  obtain ⟨fields, -, naming, -, inclusion, included, exclusions, excluded, same⟩ := decoded
  cases same
  exact ⟨Criteria.yields_normal.optionalMember included,
    Criteria.yields_normal.list.withDefault (List.forall_mem_nil _) excluded⟩

namespace LevelPair

structure Normal (bound : Bound) (l : LevelPair) : Prop where
  finite : l.warn.isFinite = true ∧ l.crit.isFinite = true
  ordered : l.isOrdered bound = true

theorem yields_normal (bound : Bound) : Json.Yields (Normal bound) (decodeOrdered bound) := by
  intro value l decoded
  simp only [decodeOrdered, decode, bind_eq_ok] at decoded
  obtain ⟨read, ⟨⟨warn, crit⟩, -, created⟩, checked⟩ := decoded
  have finite : (warn.isFinite && crit.isFinite) = true ∧ read = ⟨warn, crit⟩ := by
    rw [create] at created
    split at created
    · next finite =>
      cases created
      exact ⟨finite, rfl⟩
    · cases created
  obtain ⟨finite, rfl⟩ := finite
  rw [requireOrder] at checked
  split at checked
  · next ordered =>
    cases checked
    exact ⟨Bool.and_eq_true_iff.1 finite, ordered⟩
  · cases checked

theorem decodeOrdered_encode {bound : Bound} {l : LevelPair} (normal : l.Normal bound) :
    decodeOrdered bound l.encode = .ok l := by
  obtain ⟨warn, crit⟩ := normal.finite
  have first : Json.double (.ofFloat l.warn) = .ok l.warn := Json.double_ofFloat.2 ⟨warn, rfl⟩
  have second : Json.double (.ofFloat l.crit) = .ok l.crit := Json.double_ofFloat.2 ⟨crit, rfl⟩
  have created : create l.warn l.crit = .ok l := by rw [create, warn, crit]; rfl
  have checked : l.requireOrder bound = .ok l := by rw [requireOrder, if_pos normal.ordered]
  have read : decode l.encode = .ok l := by
    rw [decode, encode, Json.pair, first, second]
    exact congrArg Decoded.ofConfig created
  rw [decodeOrdered, read]
  exact congrArg Decoded.ofConfig checked

end LevelPair

namespace PacketLimit

theorem yields_normal : Json.Yields (fun l => l.levels.Normal .upper) decode := by
  intro value l decoded
  simp only [decode, bind_eq_ok, pure_eq_ok] at decoded
  obtain ⟨fields, -, scale, -, levels, read, same⟩ := decoded
  cases same
  exact (LevelPair.yields_normal .upper).required read

theorem decode_encode {l : PacketLimit} (normal : l.levels.Normal .upper) :
    decode l.encode = .ok l := by
  have written : l.encode =
      .objOf [("kind", some (.str l.scale.name)), ("levels", some l.levels.encode)] := rfl
  rw [written]
  refine Json.record_bind rfl (by decide) fun fields found => ?_
  have scale : Json.required fields "kind" (Json.choice [("abs", .absolute), ("perc", .percent)]) =
      .ok l.scale := by
    rw [Json.required_of_lookup (found "kind")]
    cases l.scale <;> rfl
  have levels : Json.required fields "levels" (LevelPair.decodeOrdered .upper) = .ok l.levels := by
    rw [Json.required_of_lookup (found "levels")]
    exact LevelPair.decodeOrdered_encode normal
  rw [scale]
  exact bind_eq_ok.2 ⟨l.scale, rfl, bind_eq_ok.2 ⟨l.levels, levels, rfl⟩⟩

end PacketLimit

namespace PacketLimits

def given (l : PacketLimits) : List PacketLimit :=
  l.input.toList ++ l.output.toList ++ l.both.toList

def Normal (l : PacketLimits) : Prop :=
  ∀ limit ∈ l.given, limit.levels.Normal .upper

theorem yields_normal : Json.Yields Normal decode := by
  intro value l decoded
  simp only [decode, bind_eq_ok, pure_eq_ok] at decoded
  obtain ⟨fields, -, input, first, output, second, both, third, same⟩ := decoded
  cases same
  intro limit member
  simp only [given, List.mem_append, Option.mem_toList] at member
  rcases member with (member | member) | member
  · exact PacketLimit.yields_normal.optionalMember first limit member
  · exact PacketLimit.yields_normal.optionalMember second limit member
  · exact PacketLimit.yields_normal.optionalMember third limit member

theorem decode_encode {l : PacketLimits} (normal : l.Normal) : decode l.encode = .ok l := by
  refine Json.record_bind rfl (by decide) fun fields found => ?_
  have read {name : String} {limit : Option PacketLimit}
      (stored : List.lookup name fields = limit.map PacketLimit.encode)
      (part : limit.toList ⊆ l.given) :
      Json.withDefault fields name none (Json.optional PacketLimit.decode) = .ok limit :=
    Json.withDefault_optional stored (fun _ _ => Json.obj_ne_null _) fun x member =>
      PacketLimit.decode_encode (normal x (part (Option.mem_toList.2 member)))
  have input : l.input.toList ⊆ l.given := fun x member => by
    simp [given, Option.mem_toList.1 member]
  have output : l.output.toList ⊆ l.given := fun x member => by
    simp [given, Option.mem_toList.1 member]
  have both : l.both.toList ⊆ l.given := fun x member => by
    simp [given, Option.mem_toList.1 member]
  rw [read (found "in") input, read (found "out") output, read (found "both") both]
  rfl

end PacketLimits

namespace LevelSpec

def Normal : LevelSpec → Prop
  | fixed _ bound levels => levels.Normal bound
  | predictive config => config.isReadable = true

def InOrder : LevelSpec → Prop
  | fixed _ .upper levels => levels.warn ≤ levels.crit
  | fixed _ .lower levels => levels.warn ≥ levels.crit
  | predictive _ => True

theorem Normal.inOrder {l : LevelSpec} (normal : l.Normal) : l.InOrder := by
  cases l with
  | fixed scale bound levels =>
    cases bound with
    | upper => exact of_decide_eq_true (p := levels.warn ≤ levels.crit) normal.ordered
    | lower => exact of_decide_eq_true (p := levels.warn ≥ levels.crit) normal.ordered
  | predictive config => trivial

theorem decodeMembers_normal {form : Json → Decoded Form} {members : List (String × Json)}
    {l : LevelSpec} (readable : ∀ m ∈ members, m.2.isReadable = true)
    (decoded : decodeMembers form members = .ok l) : l.Normal := by
  obtain ⟨kinds, -, decoded⟩ := bind_eq_ok.1 decoded
  obtain ⟨chosen, -, decoded⟩ := bind_eq_ok.1 decoded
  cases chosen with
  | fixed scale =>
    simp only [decodeForm, decodeFixed, bind_eq_ok, pure_eq_ok] at decoded
    obtain ⟨fields, -, bound, -, levels, read, same⟩ := decoded
    cases same
    exact (LevelPair.yields_normal bound).required read
  | predictive =>
    simp only [decodeForm, bind_eq_ok, pure_eq_ok] at decoded
    obtain ⟨fields, listed, config, read, same⟩ := decoded
    cases same
    obtain ⟨stored, found, same⟩ := Json.required_eq_ok.1 read
    cases same
    exact readable _ (Json.mem_of_known listed (Json.mem_of_lookup found))

theorem decodeMembers_encodeMembers {l : LevelSpec} (normal : l.Normal) :
    decodeMembers TrafficRule.decodeForm l.encodeMembers = .ok l := by
  cases l with
  | fixed scale bound levels =>
    have read : LevelPair.decodeOrdered bound levels.encode = .ok levels :=
      LevelPair.decodeOrdered_encode normal
    have members : decodeFixed scale [("bound", bound.encode), ("levels", levels.encode)] =
        .ok (fixed scale bound levels) :=
      bind_eq_ok.2 ⟨bound, by cases bound <;> rfl, bind_eq_ok.2 ⟨levels, read, rfl⟩⟩
    have form : TrafficRule.decodeForm (.str scale.name) = .ok (.fixed scale) := by
      cases scale <;> rfl
    exact bind_eq_ok.2
      ⟨[("kind", .str scale.name)], rfl, bind_eq_ok.2 ⟨.fixed scale, form, members⟩⟩
  | predictive config => rfl

theorem readable_encodeMembers {l : LevelSpec} (normal : l.Normal) :
    ∀ m ∈ l.encodeMembers, m.2.isReadable = true := by
  cases l with
  | fixed scale bound levels =>
    have levels : levels.encode.isReadable = true := by
      rw [LevelPair.encode, Json.ofFloat, Json.ofFloat, if_pos normal.finite.1,
        if_pos normal.finite.2]
      rfl
    simp only [encodeMembers, List.forall_mem_cons]
    exact ⟨rfl, rfl, levels, List.forall_mem_nil _⟩
  | predictive config =>
    simp only [encodeMembers, List.forall_mem_cons]
    exact ⟨rfl, normal, List.forall_mem_nil _⟩

theorem collected_encodeMembers (direction : Json) {l : LevelSpec} (normal : l.Normal) :
    Json.collected ["direction"] (("direction", direction) :: l.encodeMembers) =
      .ok l.encodeMembers :=
  Json.collected_eq_ok.2 ⟨by cases l <;> rfl, readable_encodeMembers normal⟩

end LevelSpec

namespace TrafficRule

theorem yields_normal : Json.Yields (fun r => r.levels.Normal) decode := by
  intro value r decoded
  simp only [decode, bind_eq_ok, pure_eq_ok] at decoded
  obtain ⟨members, -, fields, -, direction, -, rest, listed, levels, read, same⟩ := decoded
  cases same
  exact LevelSpec.decodeMembers_normal (Json.collected_eq_ok.1 listed).2 read

theorem decode_encode {r : TrafficRule} (normal : r.levels.Normal) : decode r.encode = .ok r := by
  have direction : Json.known ["direction"]
      (("direction", r.direction.encode) :: r.levels.encodeMembers) =
        .ok [("direction", r.direction.encode)] := by
    cases r.levels <;> rfl
  have read : RuleDirection.decode r.direction.encode = .ok r.direction := by
    cases r.direction <;> rfl
  refine bind_eq_ok.2
    ⟨_, rfl, bind_eq_ok.2 ⟨_, direction, bind_eq_ok.2 ⟨r.direction, read, ?_⟩⟩⟩
  exact bind_eq_ok.2 ⟨_, LevelSpec.collected_encodeMembers _ normal,
    bind_eq_ok.2 ⟨r.levels, LevelSpec.decodeMembers_encodeMembers normal, rfl⟩⟩

end TrafficRule

/-- Decoded configuration is decoded again to itself, and its levels are in order. -/
theorem configuration_decode_encode :
    (∀ value r, DiscoveryRule.decode value = .ok r → DiscoveryRule.decode r.encode = .ok r) ∧
    (∀ value c, GroupConfig.decode value = .ok c → GroupConfig.decode c.encode = .ok c) ∧
    (∀ value r, TrafficRule.decode value = .ok r → TrafficRule.decode r.encode = .ok r ∧
      r.levels.InOrder) ∧
    ∀ value l, PacketLimits.decode value = .ok l →
      PacketLimits.decode l.encode = .ok l ∧ ∀ limit ∈ l.given,
        limit.levels.warn ≤ limit.levels.crit := by
  refine ⟨fun value r decoded => ?_, fun value c decoded => ?_, fun value r decoded =>
    ?_, fun value l decoded => ?_⟩
  · exact DiscoveryRule.decode_encode (DiscoveryRule.yields_normal decoded)
  · exact GroupConfig.decode_encode (GroupConfig.yields_normal decoded)
  · have normal := TrafficRule.yields_normal decoded
    exact ⟨TrafficRule.decode_encode normal, normal.inOrder⟩
  · have normal := PacketLimits.yields_normal decoded
    exact ⟨PacketLimits.decode_encode normal, fun limit member =>
      of_decide_eq_true (normal limit member).ordered⟩

def liberalRule : Json :=
  .arr [.obj [("match_alias", .arr [])],
    .obj [("enabled", .bool true), ("naming", .obj [("alias", .null)]),
      ("labels", .obj [("b", .str "1"), ("a", .str "2")])]]

def spacedGroup : Json :=
  .obj [("exclusion_conditions", .arr [.obj [("portstates", .arr [.str " 7\n", .str " x y"])]])]

def numberedLevels : Json :=
  .obj [("direction", .str "both"), ("kind", .int 1), ("bound", .str "lower"),
    ("levels", .arr [.float 10.0, .float 5.0])]

def outgoingLimits : Json :=
  .obj [("out", .obj [("levels", .arr [.float 0.5, .float 5.0]), ("kind", .str "perc")])]

theorem configuration_of_liberal_records :
    (∃ r, DiscoveryRule.decode liberalRule = .ok r ∧ DiscoveryRule.decode r.encode = .ok r) ∧
    (∃ c, GroupConfig.decode spacedGroup = .ok c ∧ GroupConfig.decode c.encode = .ok c) ∧
    (∃ r, TrafficRule.decode numberedLevels = .ok r ∧ TrafficRule.decode r.encode = .ok r ∧
      r.levels.InOrder) ∧
    ∃ l, PacketLimits.decode outgoingLimits = .ok l ∧
      PacketLimits.decode l.encode = .ok l ∧ ∀ limit ∈ l.given,
        limit.levels.warn ≤ limit.levels.crit := by
  obtain ⟨rules, groups, traffic, packets⟩ := configuration_decode_encode
  refine ⟨⟨_, rfl, ?_⟩, ⟨_, rfl, ?_⟩, ⟨_, rfl, ?_⟩, ⟨_, rfl, ?_⟩⟩
  · exact rules liberalRule _ rfl
  · exact groups spacedGroup _ rfl
  · exact traffic numberedLevels _ rfl
  · exact packets outgoingLimits _ rfl

end IfaceMonitor
