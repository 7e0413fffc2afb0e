import IfaceMonitor.Discovery.Service
import IfaceMonitor.Proofs.Json.Record
import IfaceMonitor.Proofs.Text.Trim

namespace IfaceMonitor

namespace LinkStatus

def Normal (s : LinkStatus) : Prop :=
  ofCode s.code = s

theorem ofCode_normal (text : String) : (ofCode text).Normal := by
  have known : ∀ s ∈ named, ofCode s.code = s := by decide
  rw [Normal]
  cases found : named.find? (·.code == Text.trim text) with
  | some s =>
    have chosen : ofCode text = s := by simp only [ofCode, found, Option.getD_some]
    rw [chosen]
    exact known s (List.mem_of_find?_eq_some found)
  | none =>
    have kept : ofCode text = .other (Text.trim text) := by
      simp only [ofCode, found, Option.getD_none]
    rw [kept, code, ofCode, Text.trim_trim, found, Option.getD_none]

theorem decode_encode {s : LinkStatus} (normal : s.Normal) : decode s.encode = .ok s :=
  congrArg Except.ok normal

end LinkStatus

theorem NameSource.decode_encode (s : NameSource) : decode s.encode = .ok s := by
  cases s <;> rfl

theorem Labels.decode_encode (l : Labels) : decode l.encode = .ok l :=
  Json.table_ofTable fun _ _ => rfl

namespace Pattern

theorem Anchored.compile_text (p : Anchored) : compile p.text = .ok p := by
  rw [compile]
  split
  · next regex parsed => exact congrArg Except.ok (ext_text rfl)
  · next fault parsed => cases p.parsed.symm.trans parsed

theorem Patterns.decode_encode (l : Patterns) : decode l.encode = .ok l := by
  have texts : Json.list Json.text l.encode = .ok l.texts := Json.list_ofList fun _ _ => rfl
  have compiled : compile l.texts = .ok l := by
    rw [compile, Patterns.texts, mapM_eq_ok]
    exact List.forall₂_map_left_iff.2 (List.forall₂_same.2 fun p _ => p.compile_text)
  rw [decode, texts]
  exact congrArg Decoded.ofConfig compiled

end Pattern

section Members
variable {fields : List (String × Json)} {name : String}

theorem decode_patterns (l : Option Pattern.Patterns)
    (stored : List.lookup name fields = l.map Pattern.Patterns.encode) :
    Json.withDefault fields name none (Json.optional Pattern.Patterns.decode) = .ok l :=
  Json.withDefault_optional stored (fun _ _ => Json.ofList_ne_null _) fun p _ => p.decode_encode

theorem decode_states {l : Option (List LinkStatus)}
    (normal : ∀ states ∈ l, ∀ s ∈ states, s.Normal)
    (stored : List.lookup name fields = l.map (Json.ofList LinkStatus.encode)) :
    Json.withDefault fields name none (Json.optional (Json.list LinkStatus.decode)) = .ok l :=
  Json.withDefault_optional stored (fun _ _ => Json.ofList_ne_null _) fun states hs =>
    Json.list_ofList fun s listed => LinkStatus.decode_encode (normal states hs s listed)

theorem decode_texts (l : Option (List String))
    (stored : List.lookup name fields = l.map (Json.ofList .str)) :
    Json.withDefault fields name none (Json.optional (Json.list Json.text)) = .ok l :=
  Json.withDefault_optional stored (fun _ _ => Json.ofList_ne_null _) fun _ _ =>
    Json.list_ofList fun _ _ => rfl

theorem decode_naming (o : Option NameSource)
    (stored : List.lookup name fields = o.map NameSource.encode) :
    Json.withDefault fields name none (Json.optional NameSource.decode) = .ok o :=
  Json.withDefault_optional stored (fun _ _ => nofun) fun s _ => s.decode_encode

theorem decode_labels (l : Labels)
    (stored : List.lookup name fields = if l.isEmpty = true then none else some l.encode) :
    Json.withDefault fields name .empty Labels.decode = .ok l :=
  Json.withDefault_of_lookup stored Table.isEmpty_iff.1 l.decode_encode

end Members

namespace Criteria

structure Normal (c : Criteria) : Prop where
  operStates : ∀ states ∈ c.operStates, ∀ s ∈ states, s.Normal
  adminStates : ∀ states ∈ c.adminStates, ∀ s ∈ states, s.Normal

theorem decode_encode {c : Criteria} (normal : c.Normal) : decode c.encode = .ok c := by
  refine Json.record_bind rfl (by decide) fun fields found => ?_
  dsimp only
  rw [decode_patterns c.index (found "match_index"),
    decode_patterns c.aliasName (found "match_alias"), decode_patterns c.descr (found "match_desc"),
    decode_texts c.typeCodes (found "porttypes"), decode_states normal.operStates
    (found "portstates"), decode_states normal.adminStates (found "admin_states")]
  rfl

end Criteria

namespace GroupConfig

structure Normal (c : GroupConfig) : Prop where
  inclusion : ∀ criteria ∈ c.inclusion, criteria.Normal
  exclusions : ∀ criteria ∈ c.exclusions, criteria.Normal

theorem decode_encode {c : GroupConfig} (normal : c.Normal) : decode c.encode = .ok c := by
  refine Json.record_bind rfl (by decide) fun fields found => ?_
  have naming : Json.withDefault fields "member_appearance" .index NameSource.decode =
      .ok c.memberNaming := by
    rw [Json.withDefault, found "member_appearance"]
    exact c.memberNaming.decode_encode
  have inclusion : Json.withDefault fields "inclusion_condition" none
      (Json.optional Criteria.decode) = .ok c.inclusion :=
    Json.withDefault_optional (found "inclusion_condition")
      (fun _ _ => Json.obj_ne_null _) fun criteria given =>
      Criteria.decode_encode (normal.inclusion criteria given)
  have exclusions : Json.withDefault fields "exclusion_conditions" [] (Json.list Criteria.decode) =
      .ok c.exclusions :=
    Json.withDefault_of_lookup (found "exclusion_conditions") List.isEmpty_iff.1
      (Json.list_ofList fun criteria listed =>
        Criteria.decode_encode (normal.exclusions criteria listed))
  rw [naming, inclusion, exclusions]
  rfl

end GroupConfig

namespace Discovered

structure Normal (d : Discovered) : Prop where
  operStates : ∀ states ∈ d.operStates, ∀ s ∈ states, s.Normal
  adminStates : ∀ states ∈ d.adminStates, ∀ s ∈ states, s.Normal
  group : ∀ config ∈ d.group, config.Normal

theorem decode_encode {d : Discovered} (normal : d.Normal)
    (finite : ∀ speed ∈ d.speed, speed.isFinite = true) :
    decode d.encode = .ok d := by
  refine Json.record_bind rfl (by decide) fun fields found => ?_
  have speed : Json.withDefault fields "discovered_speed" .none (Json.optional Json.double) =
      .ok d.speed := by
    refine Json.withDefault_optional (found "discovered_speed") ?_ ?_
    · exact fun speed known => Json.ofFloat_ne_null (finite speed known)
    · exact fun speed known => Json.double_ofFloat.2 ⟨finite speed known, rfl⟩
  have group : Json.withDefault fields "aggregate" .none
      (Json.optional (GroupConfig.decodeWith NameSource.decode)) = .ok d.group :=
    Json.withDefault_optional (found "aggregate")
      (fun _ _ => Json.obj_ne_null _) fun config given =>
      GroupConfig.decode_encode (normal.group config given)
  dsimp only [ofFields]
  rw [decode_naming d.naming (found "item_appearance"),
    decode_states normal.operStates (found "discovered_oper_status"), speed,
    decode_states normal.adminStates (found "discovered_admin_status"), group]
  rfl

end Discovered

namespace Service

theorem decode_encode {s : Service} (normal : s.parameters.Normal)
    (finite : ∀ speed ∈ s.parameters.speed, speed.isFinite = true) :
    decode s.encode = .ok s := by
  refine Json.record_bind rfl (by decide) fun fields found => ?_
  have name : Json.required fields "item" Json.text = .ok s.name :=
    Json.required_of_lookup (found "item")
  have parameters : Json.required fields "parameters" Discovered.decode = .ok s.parameters := by
    rw [Json.required_of_lookup (found "parameters")]
    exact Discovered.decode_encode normal finite
  rw [name, parameters, decode_labels s.labels (found "labels")]
  rfl

end Service

section Writing
variable (levels : Nat)

theorem writable_texts (texts : List String) :
    Json.Writable (levels + 1) (Json.ofList .str texts) :=
  Json.writable_ofList fun _ _ => trivial

theorem writable_states (states : List LinkStatus) :
    Json.Writable (levels + 1) (Json.ofList LinkStatus.encode states) :=
  Json.writable_ofList fun _ _ => trivial

theorem Criteria.writable_encode (c : Criteria) : Json.Writable (levels + 2) c.encode := by
  have patterns (l : Option Pattern.Patterns) :
      ∀ v ∈ l.map Pattern.Patterns.encode, Json.Writable (levels + 1) v :=
    Json.writable_map fun _ _ => writable_texts levels _
  have states (l : Option (List LinkStatus)) :
      ∀ v ∈ l.map (Json.ofList LinkStatus.encode), Json.Writable (levels + 1) v :=
    Json.writable_map fun _ _ => writable_states levels _
  refine Json.writable_objOf ?_
  simp only [List.forall_mem_cons]
  exact ⟨patterns c.index, patterns c.aliasName, patterns c.descr, Json.writable_map fun _ _ =>
    writable_texts levels _,
    states c.operStates, states c.adminStates, List.forall_mem_nil _⟩

theorem GroupConfig.writable_encode (c : GroupConfig) : Json.Writable (levels + 4) c.encode := by
  refine Json.writable_objOf ?_
  simp only [List.forall_mem_cons]
  refine ⟨?_, Json.writable_map fun criteria _ => criteria.writable_encode (levels + 1),
    Json.writable_unless (Json.writable_ofList fun criteria _ => criteria.writable_encode levels),
      List.forall_mem_nil _⟩
  rintro _ ⟨⟩
  trivial

theorem Discovered.writable_encode {d : Discovered}
    (survives : ∀ speed ∈ d.speed, speed.isFinite = true → Json.Survives speed) :
    Json.Writable (levels + 5) d.encode := by
  have states (l : Option (List LinkStatus)) :
      ∀ v ∈ l.map (Json.ofList LinkStatus.encode), Json.Writable (levels + 4) v :=
    Json.writable_map fun _ _ => writable_states (levels + 3) _
  refine Json.writable_objOf ?_
  simp only [List.forall_mem_cons]
  exact ⟨Json.writable_map fun _ _ => trivial, states d.operStates,
    Json.writable_map fun speed known =>
      Json.writable_ofFloat (survives speed known), states d.adminStates,
    Json.writable_map fun config _ => config.writable_encode levels, List.forall_mem_nil _⟩

theorem Service.writable_encode {s : Service}
    (survives : ∀ speed ∈ s.parameters.speed, speed.isFinite = true → Json.Survives speed) :
    Json.Writable (levels + 6) s.encode := by
  refine Json.writable_objOf ?_
  simp only [List.forall_mem_cons]
  refine ⟨?_, ?_, Json.writable_unless (Json.writable_ofTable fun _ _ => trivial),
    List.forall_mem_nil _⟩
  · rintro _ ⟨⟩
    trivial
  · rintro _ ⟨⟩
    exact Discovered.writable_encode levels survives

end Writing

end IfaceMonitor
