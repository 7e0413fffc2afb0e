import IfaceMonitor.Json.Record
import IfaceMonitor.Proofs.Json.RoundTrip
import IfaceMonitor.Proofs.Outcome

namespace IfaceMonitor

namespace Table
variable {α : Type}

theorem lookupIn_eq_some {entries : List (String × α)}
    (sorted : entries.Pairwise fun a b => a.1 < b.1) {e : String × α} (member : e ∈ entries) :
    lookupIn e.1 entries = some e.2 := by
  induction entries with
  | nil => cases member
  | cons first rest ih =>
    obtain ⟨below, sorted⟩ := List.pairwise_cons.1 sorted
    rcases List.mem_cons.1 member with rfl | member
    · rw [lookupIn, if_pos rfl]
    · have other : first.1 ≠ e.1 := fun same => String.lt_irrefl _ (same ▸ below e member)
      rw [lookupIn, if_neg other]
      exact ih sorted member

theorem mem_of_lookupIn {entries : List (String × α)} {key : String} {value : α}
    (found : lookupIn key entries = some value) :
    (key, value) ∈ entries := by
  induction entries with
  | nil => cases found
  | cons first rest ih =>
    rw [lookupIn] at found
    split at found
    · next same =>
      cases found
      exact same ▸ List.mem_cons_self
    · exact List.mem_cons_of_mem _ (ih found)

theorem mem_entries {t : Table α} {key : String} {value : α} :
    (key, value) ∈ t.entries ↔ t.get? key = some value :=
  ⟨lookupIn_eq_some t.sorted, mem_of_lookupIn⟩

theorem get?_foldl_insert (entries : List (String × α)) (distinct : (entries.map (·.1)).Nodup)
    (t : Table α) (key : String) :
    (entries.foldl (fun t e => t.insert e.1 e.2) t).get? key =
      (lookupIn key entries <|> t.get? key) := by
  induction entries generalizing t with
  | nil => simp [lookupIn]
  | cons first rest ih =>
    obtain ⟨fresh, distinct⟩ := List.nodup_cons.1 distinct
    rw [List.foldl_cons, ih distinct, get?_insert, lookupIn]
    split
    · next same =>
      subst same
      have absent : lookupIn first.1 rest = none :=
        Option.eq_none_iff_forall_ne_some.2 fun value found =>
          fresh (List.mem_map_of_mem (f := (·.1)) (mem_of_lookupIn found))
      simp [absent]
    · rfl

theorem nodup_keys (t : Table α) : t.keys.Nodup := by
  refine List.pairwise_map.2 (t.sorted.imp ?_)
  intro a b below same
  exact String.lt_irrefl _ (same ▸ below)

theorem ofList_entries (t : Table α) : ofList t.entries = t := by
  refine ext_get? fun key => ?_
  rw [ofList, get?_foldl_insert t.entries t.nodup_keys, get?_empty, get?]
  cases lookupIn key t.entries <;> rfl

theorem isEmpty_iff {t : Table α} : t.isEmpty = true ↔ t = empty := by
  constructor
  · intro none
    cases t with | mk entries sorted =>
    cases List.isEmpty_iff.1 none
    rfl
  · rintro rfl
    rfl

end Table

theorem Decoded.ofInterface_eq_ok {α : Type} {x : Except InterfaceError α} {a : α} :
    ofInterface x = .ok a ↔ x = .ok a := by
  cases x <;> simp [ofInterface]

namespace Json
variable {α : Type} {encode : α → Json} {decode : Json → Decoded α}

theorem list_ofList {xs : List α} (each : ∀ x ∈ xs, decode (encode x) = .ok x) :
    list decode (ofList encode xs) = .ok xs := by
  rw [ofList, list, mapM_eq_ok]
  exact List.forall₂_map_left_iff.2 (List.forall₂_same.2 each)

theorem table_ofTable_eq_ok {t s : Table α} :
    table decode (ofTable encode t) = .ok s ↔
      ∃ entries, List.Forall₂ (fun e d => decode (encode e.2) = .ok d.2 ∧
        e.1 = d.1) t.entries entries ∧
        Table.ofList entries = s := by
  simp only [table, ofTable, members, bind_eq_ok, pure_eq_ok, Except.ok.injEq, exists_eq_left',
    mapM_eq_ok, List.forall₂_map_left_iff]
  refine exists_congr fun entries => and_congr_left' ?_
  have same : (fun (e d : String × α) => ∃ x, decode (encode e.2) = .ok x ∧ (e.1, x) = d) =
      fun e d => decode (encode e.2) = .ok d.2 ∧ e.1 = d.1 := by
    funext e d
    refine propext ⟨?_, fun ⟨decoded, named⟩ => ⟨d.2, decoded, Prod.ext named rfl⟩⟩
    rintro ⟨x, decoded, rfl⟩
    exact ⟨decoded, rfl⟩
  rw [same]

theorem table_ofTable {t : Table α} (each : ∀ e ∈ t.entries, decode (encode e.2) = .ok e.2) :
    table decode (ofTable encode t) = .ok t :=
  table_ofTable_eq_ok.2 ⟨t.entries, List.forall₂_same.2 fun e member =>
    ⟨each e member, rfl⟩, t.ofList_entries⟩

theorem decodes_of_table {t s : Table α} (decoded : table decode (ofTable encode t) = .ok s)
    {e : String × α} (member : e ∈ t.entries) : ∃ x, decode (encode e.2) = .ok x := by
  obtain ⟨entries, pairs, -⟩ := table_ofTable_eq_ok.1 decoded
  obtain ⟨i, bound, rfl⟩ := List.mem_iff_getElem.1 member
  exact ⟨_, (pairs.get bound (pairs.length_eq ▸ bound)).1⟩

theorem double_ofFloat {x y : Float} :
    double (ofFloat x) = .ok y ↔ x.isFinite = true ∧ x = y := by
  rw [ofFloat]
  split
  · next finite => simp [double, finite]
  · next infinite => simp [double, infinite]

def present (members : List (String × Option Json)) : List (String × Json) :=
  members.filterMap fun (name, value) => value.map (name, ·)

section Records
variable {ms : List (String × Option Json)}

theorem fst_mem_of_mem_present {m : String × Json} (member : m ∈ present ms) :
    m.1 ∈ ms.map (·.1) := by
  obtain ⟨⟨name, value⟩, listed, shown⟩ := List.mem_filterMap.1 member
  obtain ⟨json, -, rfl⟩ := Option.map_eq_some_iff.1 shown
  exact List.mem_map_of_mem (f := (·.1)) listed

theorem present_nodup (distinct : (ms.map (·.1)).Nodup) : ((present ms).map (·.1)).Nodup := by
  refine List.pairwise_map.2 (List.pairwise_filterMap.2 ((List.pairwise_map.1 distinct).imp ?_))
  intro a b different m shown n shown'
  obtain ⟨-, -, rfl⟩ := Option.map_eq_some_iff.1 shown
  obtain ⟨-, -, rfl⟩ := Option.map_eq_some_iff.1 shown'
  exact different

theorem record_objOf {names : List String} (named : ms.map (·.1) = names)
    (distinct : names.Nodup) :
    record names (objOf ms) = .ok (present ms) := by
  subst named
  have all : (present ms).filter (fun m => (ms.map (·.1)).contains m.1) = present ms :=
    List.filter_eq_self.2 fun m member => by simpa using fst_mem_of_mem_present member
  have kept : known (ms.map (·.1)) (present ms) = .ok (present ms) := by
    rw [known, all, if_pos (present_nodup distinct)]
  exact kept

theorem lookup_present (distinct : (ms.map (·.1)).Nodup) (name : String) :
    List.lookup name (present ms) = (List.lookup name ms).join := by
  induction ms with
  | nil => rfl
  | cons m ms ih =>
    obtain ⟨other, value⟩ := m
    obtain ⟨fresh, distinct⟩ := List.nodup_cons.1 distinct
    have behind : List.lookup name (present ((other, value) :: ms)) =
        if name = other then value <|> List.lookup name (present ms) else List.lookup name
            (present ms) := by
      cases value with
      | none => simp [present]
      | some value =>
        by_cases same : name = other
        · simp [present, same]
        · simp [present, List.lookup_cons, beq_eq_false_iff_ne.2 same, same]
    rw [behind, List.lookup_cons, ih distinct]
    by_cases same : name = other
    · subst same
      have absent : List.lookup name ms = none := by
        refine List.lookup_eq_none_iff.2 fun m member => bne_iff_ne.2 ?_
        rintro rfl
        exact fresh (List.mem_map_of_mem (f := (·.1)) member)
      simp [absent]
    · simp [beq_eq_false_iff_ne.2 same, same]

theorem exists_record {names : List String} (named : ms.map (·.1) = names)
    (distinct : names.Nodup) :
    ∃ fields, record names (objOf ms) = .ok fields ∧
      ∀ name, List.lookup name fields = (List.lookup name ms).join :=
  ⟨present ms, record_objOf named distinct, lookup_present (named ▸ distinct)⟩

theorem record_bind {names : List String} {rest : List (String × Json) → Decoded α} {x : α}
    (named : ms.map (·.1) = names) (distinct : names.Nodup)
    (decoded : ∀ fields, (∀ name, List.lookup name fields = (List.lookup name ms).join) →
      rest fields = .ok x) :
    (record names (objOf ms) >>= rest) = .ok x := by
  obtain ⟨fields, read, found⟩ := exists_record named distinct
  exact bind_eq_ok.2 ⟨fields, read, decoded fields found⟩

end Records

section Fields
variable {fields : List (String × Json)} {name : String}

theorem mem_of_lookup {value : Json} (stored : List.lookup name fields = some value) :
    (name, value) ∈ fields := by
  obtain ⟨before, after, cut, -⟩ := List.lookup_eq_some_iff.1 stored
  exact cut ▸ List.mem_append_right before List.mem_cons_self

theorem mem_of_known {names : List String} {members : List (String × Json)}
    (kept : known names members = .ok fields) {m : String × Json} (member : m ∈ fields) :
    m ∈ members := by
  rw [known] at kept
  split at kept
  · cases kept
    exact List.mem_of_mem_filter member
  · cases kept

theorem haveReadable_iff {members : List (String × Json)} :
    haveReadable members = true ↔ ∀ m ∈ members, m.2.isReadable = true := by
  induction members with
  | nil => simp [haveReadable]
  | cons m members ih => rw [haveReadable, Bool.and_eq_true, ih, List.forall_mem_cons]

theorem forM_readable {members : List (String × Json)} :
    (members.forM fun m => discard m.2.readable) = (.ok () : Decoded Unit) ↔
      ∀ m ∈ members, m.2.isReadable = true := by
  have step (m : String × Json) : discard m.2.readable = (.ok () : Decoded Unit) ↔
      m.2.isReadable = true := by
    rw [readable]
    split
    · next read => exact iff_of_true rfl read
    · next unread => exact iff_of_false nofun unread
  induction members with
  | nil => simp [pure, Except.pure]
  | cons m members ih =>
    rw [List.forM_eq_forM] at ih ⊢
    rw [List.forM_cons, bind_eq_ok, List.forall_mem_cons]
    exact ⟨fun ⟨_, own, rest⟩ => ⟨(step m).1 own, ih.1 rest⟩, fun ⟨own, rest⟩ =>
      ⟨(), (step m).2 own, ih.2 rest⟩⟩

theorem collected_eq_ok {direct : List String} {members : List (String × Json)} :
    collected direct members = .ok fields ↔
      members.filter (fun m => !direct.contains m.1) = fields ∧ ∀ m ∈ fields,
        m.2.isReadable = true := by
  rw [collected]
  simp only [bind_eq_ok, pure_eq_ok]
  constructor
  · rintro ⟨⟨⟩, read, same⟩
    exact ⟨same, same ▸ forM_readable.1 read⟩
  · rintro ⟨same, read⟩
    exact ⟨(), forM_readable.2 (same ▸ read), same⟩

theorem required_eq_ok {x : α} :
    required fields name decode = .ok x ↔
      ∃ value, List.lookup name fields = some value ∧ decode value = .ok x := by
  rw [required]
  cases List.lookup name fields <;> simp

theorem required_of_lookup {value : Json} (stored : List.lookup name fields = some value) :
    required fields name decode = decode value := by
  simp [required, stored]

theorem withDefault_of_lookup {x default : α} {absent : Prop} [Decidable absent]
    (stored : List.lookup name fields = if absent then none else some (encode x))
    (same : absent → x = default) (each : decode (encode x) = .ok x) :
    withDefault fields name default decode = .ok x := by
  rw [withDefault, stored]
  split
  · next value shown =>
    split at shown
    · cases shown
    · cases shown
      exact each
  · next shown =>
    split at shown
    · next left => rw [same left]
    · cases shown

theorem str_ne_null (text : String) : Json.str text ≠ .null :=
  nofun

theorem obj_ne_null (members : List (String × Json)) : Json.obj members ≠ .null :=
  nofun

theorem ofList_ne_null (xs : List α) : ofList encode xs ≠ .null :=
  nofun

theorem ofFloat_ne_null {x : Float} (finite : x.isFinite = true) : ofFloat x ≠ .null := by
  rw [ofFloat, if_pos finite]
  exact Json.noConfusion

theorem optional_of_ne_null {value : Json} {x : α} (filled : value ≠ .null)
    (decoded : decode value = .ok x) :
    optional decode value = .ok (some x) := by
  rw [optional]
  · rw [decoded]
    rfl
  · exact filled

theorem withDefault_optional {o : Option α} (stored : List.lookup name fields = o.map encode)
    (filled : ∀ x ∈ o, encode x ≠ .null) (each : ∀ x ∈ o, decode (encode x) = .ok x) :
    withDefault fields name none (optional decode) = .ok o := by
  cases o with
  | none => rw [withDefault, stored, Option.map_none]
  | some x =>
    rw [withDefault, stored, Option.map_some]
    exact optional_of_ne_null (filled x rfl) (each x rfl)

end Fields

def Yields (p : α → Prop) (decode : Json → Decoded α) : Prop :=
  ∀ ⦃value x⦄, decode value = .ok x → p x

namespace Yields
variable {p : α → Prop}

theorem list (each : Yields p decode) : Yields (fun xs => ∀ x ∈ xs, p x) (list decode) := by
  intro value xs decoded x member
  cases value with
  | arr items =>
    have pairs := mapM_eq_ok.1 decoded
    obtain ⟨i, bound, rfl⟩ := List.mem_iff_getElem.1 member
    exact each (pairs.get (pairs.length_eq ▸ bound) bound)
  | _ => cases decoded

theorem optional (each : Yields p decode) :
    Yields (fun o => ∀ x ∈ o, p x) (optional decode) := by
  intro value o decoded x given
  obtain rfl : o = some x := given
  rw [Json.optional.eq_def] at decoded
  split at decoded
  · cases decoded
  · obtain ⟨y, found, same⟩ := map_eq_ok.1 decoded
    cases same
    exact each found

theorem required (each : Yields p decode) {fields : List (String × Json)} {name : String} {x : α}
    (decoded : required fields name decode = .ok x) : p x := by
  rw [Json.required] at decoded
  split at decoded
  · exact each decoded
  · cases decoded

theorem withDefault (each : Yields p decode) {fields : List (String × Json)} {name : String}
    {default x : α} (missing : p default)
    (decoded : withDefault fields name default decode = .ok x) : p x := by
  rw [Json.withDefault] at decoded
  split at decoded
  · exact each decoded
  · cases decoded
    exact missing

theorem optionalMember (each : Yields p decode) {fields : List (String × Json)} {name : String}
    {o : Option α} (decoded : Json.withDefault fields name none (Json.optional decode) = .ok o) :
    ∀ x ∈ o, p x := by
  have missing : ∀ x ∈ (none : Option α), p x := by rintro x ⟨⟩
  exact each.optional.withDefault missing decoded

end Yields

section Carries
variable {β α' β' : Type}

def Carries (f : α → β) (decode : Json → Decoded α) (decode' : Json → Decoded β) : Prop :=
  ∀ ⦃value x⦄, decode value = .ok x → decode' value = .ok (f x)

namespace Carries
variable {f : α → β} {g : α' → β'} {decode' : Json → Decoded β}
  {other : Json → Decoded α'} {other' : Json → Decoded β'}

theorem list (each : Carries f decode decode') :
    Carries (List.map f) (list decode) (list decode') := by
  intro value xs read
  cases value with
  | arr items =>
    exact mapM_eq_ok.2
      (List.forall₂_map_right_iff.2 ((mapM_eq_ok.1 read).imp fun _ _ decoded => each decoded))
  | _ => cases read

theorem pair (first : Carries f decode decode') (second : Carries g other other') :
    Carries (Prod.map f g) (pair decode other) (pair decode' other') := by
  intro value p read
  unfold Json.pair at read
  split at read
  · obtain ⟨x, left, read⟩ := bind_eq_ok.1 read
    obtain ⟨y, right, read⟩ := bind_eq_ok.1 read
    cases read
    exact bind_eq_ok.2 ⟨_, first left, bind_eq_ok.2 ⟨_, second right, rfl⟩⟩
  · cases read

theorem triple {γ δ : Type} {h : γ → δ} {last : Json → Decoded γ}
    {last' : Json → Decoded δ} (first : Carries f decode decode')
    (second : Carries g other other') (third : Carries h last last') :
    Carries (Prod.map f (Prod.map g h)) (triple decode other last)
      (triple decode' other' last') := by
  intro value p read
  unfold Json.triple at read
  split at read
  · obtain ⟨x, left, read⟩ := bind_eq_ok.1 read
    obtain ⟨y, middle, read⟩ := bind_eq_ok.1 read
    obtain ⟨z, right, read⟩ := bind_eq_ok.1 read
    cases read
    exact bind_eq_ok.2
      ⟨_, first left,
      bind_eq_ok.2 ⟨_, second middle, bind_eq_ok.2 ⟨_, third right, rfl⟩⟩⟩
  · cases read

theorem withDefault (each : Carries f decode decode') {fields : List (String × Json)}
    {name : String} {default x : α} (read : withDefault fields name default decode = .ok x) :
    Json.withDefault fields name (f default) decode' = .ok (f x) := by
  unfold Json.withDefault at read ⊢
  cases found : List.lookup name fields with
  | none =>
    rw [found] at read
    cases read
    rfl
  | some value =>
    rw [found] at read
    exact each read

end Carries

end Carries

section Writing
variable {levels : Nat}

theorem writableItems_iff {items : List Json} :
    WritableItems levels items ↔ ∀ v ∈ items, Writable levels v := by
  induction items with
  | nil => simp [WritableItems]
  | cons v items ih => rw [WritableItems, ih, List.forall_mem_cons]

theorem writableMembers_iff {members : List (String × Json)} :
    WritableMembers levels members ↔ ∀ m ∈ members, Writable levels m.2 := by
  induction members with
  | nil => simp [WritableMembers]
  | cons m members ih => rw [WritableMembers, ih, List.forall_mem_cons]

theorem writable_ofFloat {x : Float} (survives : x.isFinite = true → Survives x) :
    Writable levels (ofFloat x) := by
  rw [ofFloat]
  split
  · next finite => exact ⟨finite, survives finite⟩
  · trivial

theorem writable_ofList {xs : List α} (each : ∀ x ∈ xs, Writable levels (encode x)) :
    Writable (levels + 1) (ofList encode xs) :=
  ⟨Nat.succ_pos levels, writableItems_iff.2 (List.forall_mem_map.2 each)⟩

theorem writable_ofTable {t : Table α} (each : ∀ e ∈ t.entries, Writable levels (encode e.2)) :
    Writable (levels + 1) (ofTable encode t) :=
  ⟨Nat.succ_pos levels, writableMembers_iff.2 (List.forall_mem_map.2 each)⟩

theorem writable_map {o : Option α} (each : ∀ x ∈ o, Writable levels (encode x)) :
    ∀ v ∈ o.map encode, Writable levels v := by
  intro v shown
  obtain ⟨x, given, rfl⟩ := Option.map_eq_some_iff.1 shown
  exact each x given

theorem writable_unless {absent : Prop} [Decidable absent] {value : Json}
    (writable : Writable levels value) :
    ∀ v ∈ if absent then none else some value, Writable levels v := by
  intro v shown
  split at shown
  · cases shown
  · exact Option.some.inj shown ▸ writable

theorem writable_objOf {ms : List (String × Option Json)}
    (each : ∀ m ∈ ms, ∀ v ∈ m.2, Writable levels v) :
    Writable (levels + 1) (objOf ms) := by
  refine ⟨Nat.succ_pos levels, writableMembers_iff.2 fun m member => ?_⟩
  obtain ⟨⟨name, value⟩, listed, shown⟩ := List.mem_filterMap.1 member
  obtain ⟨json, filled, rfl⟩ := Option.map_eq_some_iff.1 shown
  exact each (name, value) listed json filled

end Writing

end Json

end IfaceMonitor
