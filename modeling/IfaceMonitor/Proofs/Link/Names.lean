import IfaceMonitor.Link.Attributes
import IfaceMonitor.Proofs.Json.Record
import IfaceMonitor.Proofs.Text.Trim
import Mathlib.Logic.Function.Iterate

namespace IfaceMonitor.Attributes

structure IsNormalName (name : String) : Prop where
  nul : '\x00' ∉ name.toList
  feed : '\n' ∉ name.toList
  front : ∀ c ∈ name.toList.head?, Text.isBlank c = false
  back : ∀ c ∈ name.toList.getLast?, Text.isBlank c = false

def spaced (c : Char) : Char :=
  if c == '\n' then ' ' else c

def Keeps (text name : String) : Prop :=
  ∃ front kept back, Text.AllBlank front ∧ Text.AllBlank back ∧
    text.toList.filter (· != '\x00') = front ++ kept ++ back ∧ name.toList = kept.map spaced

variable {text name : String}

theorem spaced_eq_self {c : Char} (other : c ≠ '\n') : spaced c = c := by
  simp [spaced, other]

theorem spaced_ne_feed (c : Char) : spaced c ≠ '\n' := by
  by_cases feed : c = '\n' <;> simp [spaced, feed]

theorem spaced_ne_nul {c : Char} (other : c ≠ '\x00') : spaced c ≠ '\x00' := by
  by_cases feed : c = '\n' <;> simp [spaced, feed, other]

theorem isBlank_spaced (c : Char) : Text.isBlank (spaced c) = Text.isBlank c := by
  by_cases feed : c = '\n'
  · subst feed
    rfl
  · rw [spaced_eq_self feed]

theorem isNormalName_iff :
    IsNormalName name ↔ '\x00' ∉ name.toList ∧ '\n' ∉ name.toList ∧
      Text.trimChars name.toList = name.toList := by
  rw [Text.trimChars_eq_self_iff]
  exact ⟨fun h => ⟨h.nul, h.feed, h.front, h.back⟩, fun ⟨nul, feed, front, back⟩ =>
    ⟨nul, feed, front, back⟩⟩

theorem toList_normalizedName (text : String) :
    (normalizedName text).toList =
      (Text.trimChars (text.toList.filter (· != '\x00'))).map spaced := by
  rw [normalizedName, String.toList_ofList]
  rfl

theorem isNormalName_normalizedName (text : String) : IsNormalName (normalizedName text) := by
  rw [isNormalName_iff, toList_normalizedName]
  refine ⟨fun member => ?_, fun member => ?_, ?_⟩
  · obtain ⟨c, kept, nul⟩ := List.mem_map.1 member
    have other : c ≠ '\x00' := bne_iff_ne.1 (List.mem_filter.1 (Text.mem_of_mem_trimChars kept)).2
    exact spaced_ne_nul other nul
  · obtain ⟨c, -, feed⟩ := List.mem_map.1 member
    exact spaced_ne_feed c feed
  · rw [Text.trimChars_map isBlank_spaced, Text.trimChars_trimChars]

theorem keeps_normalizedName (text : String) : Keeps text (normalizedName text) := by
  obtain ⟨front, back, blank, blank', whole⟩ :=
    Text.exists_trimChars (text.toList.filter (· != '\x00'))
  exact ⟨front, _, back, blank, blank', whole.symm, toList_normalizedName text⟩

theorem normalizedName_eq_iff :
    normalizedName text = name ↔ IsNormalName name ∧ Keeps text name := by
  constructor
  · rintro rfl
    exact ⟨isNormalName_normalizedName text, keeps_normalizedName text⟩
  · rintro ⟨normal, front, kept, back, blank, blank', whole, written⟩
    have trimmed := (isNormalName_iff.1 normal).2.2
    -- Line feeds are white space too: one at the end of what is kept would be a space at the end of
    -- the name.
    refine String.toList_injective ?_
    calc (normalizedName text).toList = (Text.trimChars (front ++ kept ++ back)).map spaced := by
          rw [toList_normalizedName, whole]
      _ = (Text.trimChars kept).map spaced := by
          rw [Text.trimChars_append_blank _ blank', Text.trimChars_append_of_blank blank]
      _ = Text.trimChars (kept.map spaced) := (Text.trimChars_map isBlank_spaced kept).symm
      _ = name.toList := by rw [← written, trimmed]

example : normalizedName " \x00 a\n\x00b \x00" = "a b" := by rfl

theorem IsNormalName.keeps (normal : IsNormalName name) : Keeps name name := by
  refine ⟨[], name.toList, [], List.forall_mem_nil _, List.forall_mem_nil _, ?_, ?_⟩
  · rw [List.nil_append, List.append_nil, List.filter_eq_self]
    exact fun c member => bne_iff_ne.2 (ne_of_mem_of_not_mem member normal.nul)
  · have same : name.toList.map spaced = name.toList.map id :=
      List.map_congr_left fun c member => spaced_eq_self (ne_of_mem_of_not_mem member normal.feed)
    rw [same, List.map_id]

theorem normalizedName_eq_self_iff : normalizedName name = name ↔ IsNormalName name := by
  rw [normalizedName_eq_iff]
  exact ⟨And.left, fun normal => ⟨normal, normal.keeps⟩⟩

theorem normalizedName_normalizedName (text : String) :
    normalizedName (normalizedName text) = normalizedName text :=
  normalizedName_eq_self_iff.2 (isNormalName_normalizedName text)

theorem normalizedName_iterate (times : ℕ) (text : String) :
    normalizedName (normalizedName^[times] text) = normalizedName text := by
  induction times with
  | zero => rfl
  | succ times ih => rw [Function.iterate_succ_apply', normalizedName_normalizedName, ih]

inductive Adjustment
  | typeCode (typeCode : String)
  | speed (speed : Float)
  | adminStatus (status : LinkStatus)
  | address (address : HardwareAddress)
  | group (group : String)
  | outQueue (length : Float)

def adjust (a : Attributes) : Adjustment → Attributes
  | .typeCode typeCode => a.setTypeCode typeCode
  | .speed speed => a.setSpeed speed
  | .adminStatus status => a.setAdminStatus status
  | .address address => a.setAddress address
  | .group group => a.setGroup group
  | .outQueue length => a.setOutQueue length

def textUnder (name : String) (value : Json) : String :=
  match value.record fieldNames with
  | .ok fields => ((Json.withDefault fields name "" Json.text).toOption).getD ""
  | .error _ => ""

/-- Attributes that are created from texts for the description and the alias, or decoded from a
record with these texts, and then adjusted any number of times. -/
inductive MadeFrom : String → String → Attributes → Prop
  | created {index descr aliasName : String} {operStatus : LinkStatus} {a : Attributes}
      (made : create index descr aliasName operStatus = .ok a) : MadeFrom descr aliasName a
  | decoded {value : Json} {a : Attributes} (made : decode value = .ok a) :
      MadeFrom (textUnder "descr" value) (textUnder "alias" value) a
  | adjusted {descr aliasName : String} {a : Attributes} (before : MadeFrom descr aliasName a)
      (step : Adjustment) :
      MadeFrom descr aliasName (a.adjust step)

structure HasNames (descr aliasName : String) (a : Attributes) : Prop where
  descr : a.descr = normalizedName descr
  aliasName : a.aliasName = normalizedName aliasName

structure SameParts (a b : Attributes) : Prop where
  index : b.index = a.index
  descr : b.descr = a.descr
  aliasName : b.aliasName = a.aliasName
  node : b.node = a.node

variable {index descr aliasName : String} {operStatus : LinkStatus} {a b c : Attributes}
  {value : Json}

theorem SameParts.identity (same : SameParts a b) : b.identity = a.identity := by
  rw [Attributes.identity, Attributes.identity, nodeName, nodeName, same.index, same.descr,
    same.aliasName, same.node]

theorem SameParts.trans (first : SameParts a b) (second : SameParts b c) : SameParts a c :=
  ⟨second.index.trans first.index, second.descr.trans first.descr,
    second.aliasName.trans first.aliasName,
    second.node.trans first.node⟩

structure Creates (index descr aliasName : String) (operStatus : LinkStatus) (a : Attributes) :
    Prop where
  filled : (Text.trim index).isEmpty = false
  index : a.index = index
  names : HasNames descr aliasName a
  operStatus : a.operStatus = operStatus
  adminStatus : a.adminStatus = none

theorem creates_of_create (created : create index descr aliasName operStatus = .ok a) :
    Creates index descr aliasName operStatus a := by
  rw [create] at created
  split at created
  · cases created
  · next filled =>
    cases created
    exact ⟨Bool.eq_false_iff.2 filled, rfl, ⟨rfl, rfl⟩, rfl, rfl⟩

theorem exists_create (filled : (Text.trim index).isEmpty = false) (descr aliasName : String)
    (operStatus : LinkStatus) :
    ∃ a, create index descr aliasName operStatus = .ok a ∧
      Creates index descr aliasName operStatus a := by
  have created : ∃ a, create index descr aliasName operStatus = .ok a := by
    rw [create, filled]
    exact ⟨_, rfl⟩
  obtain ⟨a, created⟩ := created
  exact ⟨a, created, creates_of_create created⟩

theorem textUnder_of_record {fields : List (String × Json)}
    (listed : value.record fieldNames = .ok fields)
    (read : Json.withDefault fields name "" Json.text = .ok text) :
    textUnder name value = text := by
  rw [textUnder, listed]
  simp only [read]
  rfl

theorem hasNames_of_decode (decoded : decode value = .ok a) :
    HasNames (textUnder "descr" value) (textUnder "alias" value) a := by
  simp only [decode, bind_eq_ok, pure_eq_ok, Decoded.ofInterface_eq_ok] at decoded
  obtain ⟨fields, listed, index, -, descr, descrRead, aliasName, aliasRead, typeCode, -, speed, -,
    operStatus, -, adminStatus, -,
    address, -, outQueue, -, speedText, -, group, -, node, -, extraInfo, -, base,
      created, rfl⟩ := decoded
  obtain ⟨once, onceAlias⟩ := (creates_of_create created).names
  rw [textUnder_of_record listed descrRead, textUnder_of_record listed aliasRead]
  exact ⟨(congrArg normalizedName once).trans (normalizedName_normalizedName descr),
    (congrArg normalizedName onceAlias).trans (normalizedName_normalizedName aliasName)⟩

namespace HasNames

theorem of_sameParts (names : HasNames descr aliasName a) (same : SameParts a b) :
    HasNames descr aliasName b :=
  ⟨same.descr.trans names.descr, same.aliasName.trans names.aliasName⟩

theorem sameParts_normalized (names : HasNames descr aliasName a) : SameParts a a.normalized where
  index := rfl
  descr := normalizedName_eq_self_iff.2 (names.descr ▸ isNormalName_normalizedName descr)
  aliasName :=
    normalizedName_eq_self_iff.2 (names.aliasName ▸ isNormalName_normalizedName aliasName)
  node := rfl

theorem sameParts_adjust (names : HasNames descr aliasName a) (step : Adjustment) :
    SameParts a (a.adjust step) := by
  cases step with
  | speed speed =>
    have set : SameParts a { a with speed } := ⟨rfl, rfl, rfl, rfl⟩
    exact set.trans (names.of_sameParts set).sameParts_normalized
  | _ => exact ⟨rfl, rfl, rfl, rfl⟩

theorem sameParts_iterate (names : HasNames descr aliasName a) (times : ℕ) :
    SameParts a (normalized^[times] a) := by
  induction times with
  | zero => exact ⟨rfl, rfl, rfl, rfl⟩
  | succ times ih =>
    rw [Function.iterate_succ_apply']
    exact ih.trans (names.of_sameParts ih).sameParts_normalized

end HasNames

theorem hasNames_of_made (made : MadeFrom descr aliasName a) : HasNames descr aliasName a := by
  induction made with
  | created made => exact (creates_of_create made).names
  | decoded made => exact hasNames_of_decode made
  | adjusted before step ih => exact ih.of_sameParts (ih.sameParts_adjust step)

/-- The names of an interface are the normal forms of two texts. Nothing that is done to names
changes them, so the identity depends neither on how often they are normalized nor on how often the
texts were before. -/
structure NamesSettled (givenDescr givenAlias : String) (a : Attributes) : Prop where
  descr : IsNormalName a.descr ∧ Keeps givenDescr a.descr
  aliasName : IsNormalName a.aliasName ∧ Keeps givenAlias a.aliasName
  descr_again : normalizedName a.descr = a.descr
  aliasName_again : normalizedName a.aliasName = a.aliasName
  adjusted (step : Adjustment) :
    (a.adjust step).descr = a.descr ∧ (a.adjust step).aliasName = a.aliasName ∧
      (a.adjust step).identity = a.identity
  identity_again (times : ℕ) : (normalized^[times] a).identity = a.identity
  identity_of_texts (m n : ℕ) (b : Attributes) : MadeFrom (normalizedName^[m] givenDescr)
    (normalizedName^[n] givenAlias) b →
    b.index = a.index → b.node = a.node → b.identity = a.identity

theorem names_settled (made : MadeFrom descr aliasName a) : NamesSettled descr aliasName a := by
  have names := hasNames_of_made made
  exact
    { descr := normalizedName_eq_iff.1 names.descr.symm
      aliasName := normalizedName_eq_iff.1 names.aliasName.symm
      descr_again := names.sameParts_normalized.descr
      aliasName_again := names.sameParts_normalized.aliasName
      adjusted := fun step =>
        have same := names.sameParts_adjust step
        ⟨same.descr, same.aliasName, same.identity⟩
      identity_again := fun times => (names.sameParts_iterate times).identity
      identity_of_texts := fun m n b other index node => by
        obtain ⟨otherDescr, otherAlias⟩ := hasNames_of_made other
        rw [normalizedName_iterate, ← names.descr] at otherDescr
        rw [normalizedName_iterate, ← names.aliasName] at otherAlias
        exact SameParts.identity ⟨index, otherDescr, otherAlias, node⟩ }

theorem names_settled_of_uplink :
    ∃ a, create "7" "eth0\x00\x00" " uplink\nto core " .up = .ok a ∧
      MadeFrom "eth0\x00\x00" " uplink\nto core " (a.adjust (.speed 1e16)) ∧
      NamesSettled "eth0\x00\x00" " uplink\nto core " (a.adjust (.speed 1e16)) ∧
      (a.adjust (.speed 1e16)).identity = "7.eth0.uplink to core.None" := by
  obtain ⟨a, created, identity⟩ : ∃ a,
    create "7" "eth0\x00\x00" " uplink\nto core " .up = .ok a ∧
      (a.adjust (.speed 1e16)).identity = "7.eth0.uplink to core.None" := ⟨_, rfl, by rfl⟩
  have made := (MadeFrom.created created).adjusted (.speed 1e16)
  exact ⟨a, created, made, names_settled made, identity⟩

end IfaceMonitor.Attributes
