import IfaceMonitor.Proofs.Discovery.Drafts

namespace IfaceMonitor

namespace DiscoveryRule

def lists (r : DiscoveryRule) (name : String) : Bool :=
  r.grouping.any fun g => g.enabled && g.items.any (·.name == name)

def keepsOut (r : DiscoveryRule) (a : Attributes) : Bool :=
  r.grouping.any (!·.enabled) && r.criteria.accepts a

end DiscoveryRule

/-- An interface belongs to a group by the first rule that lists the group, if no rule above keeps
it out, or by its tag if no rule lists the group. -/
inductive Belongs (rules : List DiscoveryRule) (name : String) (a : Attributes) : Prop
  | listed {above below : List DiscoveryRule} {r : DiscoveryRule}
      (cut : rules = above ++ r :: below) (first : ∀ other ∈ above, other.lists name = false)
      (lists : r.lists name = true) (meets : r.criteria.accepts a = true)
      (free : ∀ other ∈ above, other.keepsOut a = false)
  | tagged (unlisted : ∀ r ∈ rules, r.lists name = false) (tag : a.group = some name)

def LastEntry (items : List GroupEntry) (entry : GroupEntry) : Prop :=
  ∃ before after, items = before ++ entry :: after ∧ ∀ other ∈ after,
    other.name ≠ entry.name

theorem exists_first {α : Type} {p : α → Bool} {xs : List α} {x : α} (member : x ∈ xs)
    (holds : p x = true) :
    ∃ before y after,
      xs = before ++ y :: after ∧ p y = true ∧ ∀ z ∈ before, p z = false := by
  obtain ⟨y, found⟩ := Option.isSome_iff_exists.1 (List.find?_isSome.2 ⟨x, member, holds⟩)
  obtain ⟨chosen, before, after, cut, others⟩ := List.find?_eq_some_iff_append.1 found
  exact ⟨before, y, after, cut, chosen, fun z hz => by simpa using others z hz⟩

theorem DiscoveryRule.exists_lastEntry {r : DiscoveryRule} {name : String}
    (lists : r.lists name = true) :
    ∃ g entry, r.grouping = some g ∧ g.enabled = true ∧ LastEntry g.items entry ∧
      entry.name = name := by
  obtain ⟨g, grouping, listed⟩ := (Option.any_eq_true _ _).1 lists
  obtain ⟨enabled, listed⟩ := Bool.and_eq_true_iff.1 listed
  obtain ⟨i, member, named⟩ := List.any_eq_true.1 listed
  obtain ⟨after, entry, before, cut, same, others⟩ :=
    exists_first (p := fun i : GroupEntry => i.name == name) (List.mem_reverse.2 member) named
  have named : entry.name = name := beq_iff_eq.1 same
  refine ⟨g, entry, grouping, enabled,
    ⟨before.reverse, after.reverse, ?_, fun other later => ?_⟩, named⟩
  · simpa using congrArg List.reverse cut
  · rw [named]
    exact beq_eq_false_iff_ne.1 (others other (List.mem_reverse.1 later))

namespace GroupDecls

def named? (decls : GroupDecls) (name : String) : Option GroupDecl :=
  decls.find? (·.name == name)

theorem named?_nil (name : String) : named? [] name = none := rfl

theorem named?_cons (decl : GroupDecl) (decls : GroupDecls) (name : String) :
    named? (decl :: decls) name = if decl.name = name then some decl else decls.named? name := by
  rw [named?, List.find?_cons]
  split
  · next same => rw [if_pos (beq_iff_eq.1 same)]
  · next other => rw [if_neg (beq_eq_false_iff_ne.1 other), named?]

theorem named?_append (decls others : GroupDecls) (name : String) :
    named? (decls ++ others) name = (decls.named? name).or (others.named? name) :=
  List.find?_append

theorem isSome_named?_iff {decls : GroupDecls} {name : String} :
    (decls.named? name).isSome = true ↔ name ∈ decls.map (·.name) := by
  simp [named?]

theorem named?_eq_some_iff {decls : GroupDecls} (nodup : (decls.map (·.name)).Nodup)
    {name : String} {decl : GroupDecl} :
    decls.named? name = some decl ↔ decl ∈ decls ∧ decl.name = name := by
  have spec {other : GroupDecl} (found : decls.named? name = some other) :
      other ∈ decls ∧ other.name = name :=
    ⟨List.mem_of_find?_eq_some found, by
      simpa using List.find?_some (p := fun d : GroupDecl => d.name == name) found⟩
  constructor
  · exact spec
  · rintro ⟨member, rfl⟩
    obtain ⟨other, found⟩ :=
      Option.isSome_iff_exists.1 (isSome_named?_iff.2 (List.mem_map_of_mem member))
    rw [found, List.inj_on_of_nodup_map nodup (spec found).1 member (spec found).2]

theorem named?_reverse {decls : GroupDecls} (nodup : (decls.map (·.name)).Nodup) (name : String) :
    named? decls.reverse name = decls.named? name := by
  have reversed : ((List.reverse decls).map (·.name)).Nodup := by
    rwa [List.map_reverse, List.nodup_reverse]
  ext decl
  rw [named?_eq_some_iff reversed, named?_eq_some_iff nodup, List.mem_reverse]

theorem named?_put (decls : GroupDecls) (decl : GroupDecl) (name : String) :
    (decls.put decl).named? name = if decl.name = name then some decl else decls.named? name := by
  induction decls with
  | nil => exact named?_cons decl [] name
  | cons other rest ih =>
    rw [put]
    by_cases same : other.name = decl.name
    · rw [if_pos same, named?_cons, named?_cons, same]
      by_cases here : decl.name = name <;> simp [here]
    · rw [if_neg same, named?_cons, named?_cons, ih]
      by_cases here : other.name = name
      · have different : decl.name ≠ name := fun h => same (here.trans h.symm)
        simp [here, different]
      · simp [here]

theorem named?_putAll (decls others : GroupDecls) (name : String) :
    (decls.putAll others).named? name = (named? others.reverse name).or (decls.named? name) := by
  induction others generalizing decls with
  | nil => rfl
  | cons decl rest ih =>
    have step : decls.putAll (decl :: rest) = (decls.put decl).putAll rest := rfl
    rw [step, ih, named?_put, List.reverse_cons, named?_append, named?_cons, named?_nil,
      Option.or_assoc]
    by_cases here : decl.name = name <;> simp [here]

theorem named?_foldl_putNew (decls tagged : GroupDecls) (name : String) :
    (tagged.foldl putNew decls).named? name = (decls.named? name).or (tagged.named? name) := by
  induction tagged generalizing decls with
  | nil => simp [named?_nil]
  | cons decl rest ih =>
    have step : (decls.putNew decl).named? name = (decls.named? name).or (named? [decl] name) := by
      rw [putNew]
      split
      · next met =>
        by_cases here : decl.name = name
        · have found : (decls.named? name).isSome = true := by
            rw [isSome_named?_iff, ← here]
            simpa using met
          rw [Option.or_of_isSome found]
        · simp [named?_cons, named?_nil, here]
      · rw [named?_append]
    rw [List.foldl_cons, ih, step, Option.or_assoc, ← named?_append, List.singleton_append]

theorem lists_iff {r : DiscoveryRule} {name : String} (above : List DiscoveryRule) :
    r.lists name = true ↔ name ∈ (ofRule above r).map (·.name) := by
  rw [DiscoveryRule.lists, ofRule]
  cases r.grouping with
  | none => simp
  | some g =>
    cases enabled : g.enabled with
    | false => simp [enabled]
    | true => simp [enabled]

theorem named?_ofRule_of_unlisted {r : DiscoveryRule} {name : String}
    (unlisted : r.lists name = false) (above : List DiscoveryRule) :
    named? (ofRule above r).reverse name = none := by
  rw [← Option.not_isSome_iff_eq_none, isSome_named?_iff, List.map_reverse, List.mem_reverse,
    ← lists_iff above, unlisted]
  exact Bool.false_ne_true

def declOf (above : List DiscoveryRule) (r : DiscoveryRule) (g : Grouping) (entry : GroupEntry) :
    GroupDecl where
  name := entry.name
  config :=
    { memberNaming := entry.memberNaming, inclusion := some r.criteria,
      exclusions := exclusionsIn above.reverse }
  labels := g.labels

theorem named?_ofRule (above : List DiscoveryRule) {r : DiscoveryRule} {g : Grouping}
    (grouping : r.grouping = some g) (enabled : g.enabled = true) {entry : GroupEntry}
    (last : LastEntry g.items entry) :
    named? (ofRule above r).reverse entry.name = some (declOf above r g entry) := by
  obtain ⟨before, after, items, behind⟩ := last
  have decls : ofRule above r = g.items.map (declOf above r g) := by
    simp only [ofRule, grouping, enabled, if_true]
    rfl
  have later : named? ((after.map (declOf above r g)).reverse) entry.name = none := by
    rw [← Option.not_isSome_iff_eq_none, isSome_named?_iff]
    simpa [declOf] using behind
  rw [decls, items, List.map_append, List.map_cons, List.reverse_append, List.reverse_cons,
    List.append_assoc, named?_append, later, Option.none_or, List.singleton_append, named?_cons]
  exact if_pos rfl

theorem named?_ofRulesBelow_of_unlisted {rules : List DiscoveryRule} {name : String}
    (unlisted : ∀ r ∈ rules, r.lists name = false) (above : List DiscoveryRule) :
    (ofRulesBelow above rules).named? name = none := by
  induction rules generalizing above with
  | nil => rfl
  | cons r rest ih =>
    obtain ⟨here, later⟩ := List.forall_mem_cons.1 unlisted
    rw [ofRulesBelow, named?_putAll, named?_ofRule_of_unlisted here, ih later]
    rfl

theorem named?_ofRulesBelow {before below : List DiscoveryRule} {r : DiscoveryRule} {name : String}
    (first : ∀ other ∈ before, other.lists name = false) (lists : r.lists name = true)
    (above : List DiscoveryRule) :
    (ofRulesBelow above (before ++ r :: below)).named? name =
      named? (ofRule (above ++ before) r).reverse name := by
  induction before generalizing above with
  | nil =>
    have found : (named? (ofRule above r).reverse name).isSome = true := by
      rwa [isSome_named?_iff, List.map_reverse, List.mem_reverse, ← lists_iff]
    rw [List.nil_append, ofRulesBelow, named?_putAll, Option.or_of_isSome found, List.append_nil]
  | cons other rest ih =>
    obtain ⟨here, later⟩ := List.forall_mem_cons.1 first
    rw [List.cons_append, ofRulesBelow, named?_putAll, named?_ofRule_of_unlisted here,
      Option.none_or, ih later, List.append_assoc, List.singleton_append]

theorem nodup_ofRulesBelow (above rules : List DiscoveryRule) :
    ((ofRulesBelow above rules).map (·.name)).Nodup := by
  induction rules generalizing above with
  | nil => exact List.nodup_nil
  | cons r rest ih => exact nodup_putAll (ih (above ++ [r])) _

theorem exclusionsIn_any (rules : List DiscoveryRule) (a : Attributes) :
    (exclusionsIn rules).any (·.accepts a) = rules.any (·.keepsOut a) := by
  induction rules with
  | nil => rfl
  | cons r rest ih =>
    rw [exclusionsIn] at ih ⊢
    cases grouping : r.grouping with
    | none => simp [DiscoveryRule.keepsOut, grouping, ih]
    | some g => cases enabled : g.enabled <;> simp [DiscoveryRule.keepsOut, grouping, enabled, ih]

end GroupDecls

namespace Discovery
variable {rules : List DiscoveryRule} {attributes : List Attributes}

theorem named?_declaredGroups (rules : List DiscoveryRule) (attributes : List Attributes)
    (name : String) :
    (declaredGroups rules attributes).named? name =
      ((GroupDecls.ofRules rules).named? name).or
        (GroupDecls.named? (attributes.filterMap (taggedGroup? rules)) name) := by
  have once : ((GroupDecls.ofRules rules).map (·.name)).Nodup :=
    GroupDecls.nodup_ofRulesBelow [] rules
  rw [declaredGroups, GroupDecls.named?_putAll, GroupDecls.named?_reverse once,
    GroupDecls.named?_foldl_putNew, GroupDecls.named?_nil, Option.none_or]

theorem named?_of_listed {above below : List DiscoveryRule} {r : DiscoveryRule} {entry : GroupEntry}
    (cut : rules = above ++ r :: below)
    (first : ∀ other ∈ above, other.lists entry.name = false) {g : Grouping}
    (grouping : r.grouping = some g) (enabled : g.enabled = true) (last : LastEntry g.items entry) :
    (declaredGroups rules attributes).named? entry.name =
      some (GroupDecls.declOf above r g entry) := by
  have declared := GroupDecls.named?_ofRule above grouping enabled last
  have lists : r.lists entry.name = true := by
    rw [GroupDecls.lists_iff above, ← List.mem_reverse, ← List.map_reverse,
      ← GroupDecls.isSome_named?_iff, declared]
    rfl
  rw [named?_declaredGroups, GroupDecls.ofRules, cut, GroupDecls.named?_ofRulesBelow first lists,
    List.nil_append, declared]
  rfl

theorem named?_of_unlisted {name : String} (unlisted : ∀ r ∈ rules, r.lists name = false) :
    (declaredGroups rules attributes).named? name =
      GroupDecls.named? (attributes.filterMap (taggedGroup? rules)) name := by
  rw [named?_declaredGroups, GroupDecls.ofRules,
    GroupDecls.named?_ofRulesBelow_of_unlisted unlisted, Option.none_or]

theorem taggedGroup?_of_tag {a : Attributes} {name : String} (tag : a.group = some name)
    (some_name : name ≠ "") :
    taggedGroup? rules a = some ⟨name, .ofTag (settingsFor rules a).naming, .empty⟩ := by
  have filled : name.isEmpty = false := by simpa using some_name
  simp [taggedGroup?, tag, filled]

theorem eq_of_taggedGroup? {a : Attributes} {g : GroupDecl} (h : taggedGroup? rules a = some g) :
    g.name ≠ "" ∧ g = ⟨g.name, .ofTag (settingsFor rules a).naming, .empty⟩ := by
  rw [taggedGroup?] at h
  split at h
  · cases h
  · split at h
    · cases h
    · next filled =>
      cases h
      exact ⟨by simpa using filled, rfl⟩

/-- The labels and the members of a declared group, and how these are named, follow from the rules
and the tags. -/
structure Resolved (rules : List DiscoveryRule) (g : GroupDecl) : Prop where
  members : ∀ a, g.config.includes g.name a = true ↔ Belongs rules g.name a
  listed : ∀ {above below : List DiscoveryRule} {r : DiscoveryRule} {grouping : Grouping}
    {entry : GroupEntry},
    rules = above ++ r :: below → (∀ other ∈ above, other.lists g.name = false) →
      r.grouping = some grouping →
      grouping.enabled = true → LastEntry grouping.items entry → entry.name = g.name →
        g.labels = grouping.labels ∧ g.config.memberNaming = entry.memberNaming
  unlisted : (∀ r ∈ rules, r.lists g.name = false) → g.labels = .empty

theorem named?_of_mem {g : GroupDecl} (declared : g ∈ declaredGroups rules attributes) :
    (declaredGroups rules attributes).named? g.name = some g :=
  (GroupDecls.named?_eq_some_iff (declaredGroups_nodup rules attributes)).2 ⟨declared, rfl⟩

theorem eq_declOf_of_listed {g : GroupDecl} (declared : g ∈ declaredGroups rules attributes)
    {above below : List DiscoveryRule} {r : DiscoveryRule} (cut : rules = above ++ r :: below)
    (first : ∀ other ∈ above, other.lists g.name = false) {grouping : Grouping}
    (own : r.grouping = some grouping) (enabled : grouping.enabled = true) {entry : GroupEntry}
    (last : LastEntry grouping.items entry) (named : entry.name = g.name) :
    g = GroupDecls.declOf above r grouping entry := by
  have found := named?_of_mem declared
  rw [← named] at first found
  rw [named?_of_listed cut first own enabled last, Option.some.injEq] at found
  exact found.symm

theorem exists_tag_of_unlisted {g : GroupDecl} (declared : g ∈ declaredGroups rules attributes)
    (unlisted : ∀ r ∈ rules, r.lists g.name = false) :
    ∃ a ∈ attributes, taggedGroup? rules a = some g := by
  have found := named?_of_mem declared
  rw [named?_of_unlisted unlisted] at found
  exact List.mem_filterMap.1 (List.mem_of_find?_eq_some found)

theorem includes_declOf (above : List DiscoveryRule) (r : DiscoveryRule) (g : Grouping)
    (entry : GroupEntry) (name : String) (a : Attributes) :
    (GroupDecls.declOf above r g entry).config.includes name a =
      (r.criteria.accepts a && !above.any (·.keepsOut a)) := by
  show (r.criteria.accepts a && !(GroupDecls.exclusionsIn above.reverse).any (·.accepts a)) = _
  rw [GroupDecls.exclusionsIn_any, List.any_reverse]

theorem declared_cases {g : GroupDecl} (declared : g ∈ declaredGroups rules attributes) :
    ((∀ r ∈ rules, r.lists g.name = false) ∧
      ∃ a ∈ attributes, taggedGroup? rules a = some g) ∨
      ∃ above r below, rules = above ++ r :: below ∧
        (∀ other ∈ above, other.lists g.name = false) ∧ r.lists g.name = true ∧
        ∃ grouping entry, g = GroupDecls.declOf above r grouping entry := by
  by_cases unlisted : ∀ r ∈ rules, r.lists g.name = false
  · exact Or.inl ⟨unlisted, exists_tag_of_unlisted declared unlisted⟩
  · obtain ⟨r, member, lists⟩ : ∃ r ∈ rules, r.lists g.name = true := by
      simpa using unlisted
    obtain ⟨above, r, below, cut, lists, first⟩ :=
      exists_first (p := fun r => r.lists g.name) member lists
    obtain ⟨grouping, entry, own, enabled, last, named⟩ := DiscoveryRule.exists_lastEntry lists
    exact Or.inr ⟨above, r, below, cut, first, lists, grouping, entry,
      eq_declOf_of_listed declared cut first own enabled last named⟩

theorem resolved_of_mem {g : GroupDecl} (declared : g ∈ declaredGroups rules attributes) :
    Resolved rules g where
  members a := by
    constructor
    · intro included
      rcases declared_cases declared
        with ⟨unlisted, b, -, tagged⟩ | ⟨above, r, below, cut, first, lists,
        grouping, entry, whole⟩
      · rw [(eq_of_taggedGroup? tagged).2] at included
        exact .tagged unlisted (beq_iff_eq.1 included)
      · rw [whole, includes_declOf] at included
        obtain ⟨meets, free⟩ := Bool.and_eq_true_iff.1 included
        exact .listed cut first lists meets (by simpa using free)
    · intro belongs
      cases belongs with
      | listed cut first lists meets free =>
        obtain ⟨grouping, entry, own, enabled, last, named⟩ :=
          DiscoveryRule.exists_lastEntry lists
        rw [eq_declOf_of_listed declared cut first own enabled last named, includes_declOf, meets]
        simpa using free
      | tagged unlisted tag =>
        obtain ⟨b, -, tagged⟩ := exists_tag_of_unlisted declared unlisted
        rw [(eq_of_taggedGroup? tagged).2]
        exact beq_iff_eq.2 tag
  listed cut first own enabled last named := by
    have whole := eq_declOf_of_listed declared cut first own enabled last named
    exact ⟨congrArg GroupDecl.labels whole,
      congrArg (fun g : GroupDecl => g.config.memberNaming) whole⟩
  unlisted unlisted := by
    obtain ⟨b, -, tagged⟩ := exists_tag_of_unlisted declared unlisted
    exact congrArg GroupDecl.labels (eq_of_taggedGroup? tagged).2

theorem exists_declared_of_belongs {name : String} (some_name : name ≠ "") {a : Attributes}
    (given : a ∈ attributes) (belongs : Belongs rules name a) :
    ∃ g ∈ declaredGroups rules attributes, g.name = name := by
  have found : ((declaredGroups rules attributes).named? name).isSome = true := by
    cases belongs with
    | listed cut first lists meets free =>
      obtain ⟨grouping, entry, own, enabled, last, rfl⟩ := DiscoveryRule.exists_lastEntry lists
      rw [named?_of_listed cut first own enabled last]
      rfl
    | tagged unlisted tag =>
      rw [named?_of_unlisted unlisted, GroupDecls.isSome_named?_iff]
      exact List.mem_map.2
        ⟨_, List.mem_filterMap.2 ⟨a, given, taggedGroup?_of_tag tag some_name⟩, rfl⟩
  exact List.mem_map.1 (GroupDecls.isSome_named?_iff.1 found)

theorem requireNames_of_valid (valid : checkRules rules = .ok rules) :
    ∀ r ∈ rules, r.requireNames = .ok () := by
  have each : rules.forM DiscoveryRule.requireNames = .ok () := by
    rw [checkRules] at valid
    cases step : rules.forM DiscoveryRule.requireNames with
    | ok _ => rfl
    | error e =>
      rw [step] at valid
      cases valid
  clear valid
  induction rules with
  | nil => exact fun r member => absurd member List.not_mem_nil
  | cons r rest ih =>
    rw [List.forM_eq_forM, List.forM_cons] at each
    cases own : r.requireNames with
    | error e =>
      rw [own] at each
      cases each
    | ok _ =>
      rw [own] at each
      exact List.forall_mem_cons.2 ⟨own, ih each⟩

theorem name_ne_of_lists {r : DiscoveryRule} (valid : r.requireNames = .ok ()) {name : String}
    (lists : r.lists name = true) :
    name ≠ "" := by
  rintro rfl
  obtain ⟨g, grouping, listed⟩ := (Option.any_eq_true _ _).1 lists
  obtain ⟨i, member, named⟩ := List.any_eq_true.1 (Bool.and_eq_true_iff.1 listed).2
  have blank : (g.items.any fun i => (Text.trim i.name).isEmpty) = true :=
    List.any_eq_true.2 ⟨i, member, by rw [beq_iff_eq.1 named]; rfl⟩
  rw [DiscoveryRule.requireNames, grouping] at valid
  simp only [blank, if_true] at valid
  cases valid

theorem name_ne_of_declared (valid : checkRules rules = .ok rules) {g : GroupDecl}
    (declared : g ∈ declaredGroups rules attributes) : g.name ≠ "" := by
  rcases declared_cases declared
    with ⟨-, a, -, tagged⟩ | ⟨above, r, below, cut, -, lists, -⟩
  · exact (eq_of_taggedGroup? tagged).1
  · have member : r ∈ rules := cut ▸ List.mem_append_right above List.mem_cons_self
    exact name_ne_of_lists (requireNames_of_valid valid r member) lists

def filledGroups (rules : List DiscoveryRule) (interfaces : Section) : GroupDecls :=
  (declaredGroups rules (interfaces.map (·.attributes))).filter fun g =>
    !(g.config.membersIn g.name interfaces).isEmpty

theorem mem_filledGroups {interfaces : Section} {g : GroupDecl} :
    g ∈ filledGroups rules interfaces ↔
      g ∈ declaredGroups rules (interfaces.map (·.attributes)) ∧
        ∃ i ∈ interfaces, g.config.includes g.name i.attributes = true := by
  rw [filledGroups, List.mem_filter, GroupConfig.membersIn]
  simp

theorem name_mem_filledGroups (valid : checkRules rules = .ok rules) (interfaces : Section)
    (name : String) :
    name ∈ (filledGroups rules interfaces).map (·.name) ↔
      name ≠ "" ∧ ∃ i ∈ interfaces, Belongs rules name i.attributes := by
  rw [List.mem_map]
  constructor
  · rintro ⟨g, filled, rfl⟩
    obtain ⟨declared, i, given, included⟩ := mem_filledGroups.1 filled
    exact ⟨name_ne_of_declared valid declared, i, given,
      ((resolved_of_mem declared).members _).1 included⟩
  · rintro ⟨some_name, i, given, belongs⟩
    obtain ⟨g, declared, rfl⟩ :=
      exists_declared_of_belongs some_name (List.mem_map_of_mem given) belongs
    exact ⟨g, mem_filledGroups.2
      ⟨declared, i, given, ((resolved_of_mem declared).members _).2 belongs⟩, rfl⟩

structure GroupItem (interfaces : Section) (g : GroupDecl) (s : Service) : Prop where
  name : s.name = g.name ∨ s.name = g.name ++ " 1"
  parameters : s.parameters = groupParameters g.config (g.config.membersIn g.name interfaces)
  labels : s.labels = g.labels

def groupDraft (interfaces : Section) (g : GroupDecl) : DraftItem where
  name := g.name
  parameters := groupParameters g.config (g.config.membersIn g.name interfaces)
  index := "1"
  labels := g.labels
  isIndex := false

theorem groupItem_of_draft (names : List String) (interfaces : Section) (g : GroupDecl) :
    GroupItem interfaces g ((groupDraft interfaces g).toService names) where
  name := by
    by_cases completed : (groupDraft interfaces g).Completed names
    · right
      have shown : shownIndex "1" = "1" := by decide
      rw [DraftItem.toService_name_of_completed completed, groupDraft, shown, String.append_assoc]
      rfl
    · left
      exact DraftItem.toService_name_of_not_completed completed
  parameters := rfl
  labels := rfl

theorem groupDraft?_eq (interfaces : Section) (g : GroupDecl) :
    groupDraft? interfaces g =
      if (!(g.config.membersIn g.name interfaces).isEmpty) =
        true then some (groupDraft interfaces g) else none := by
  simp only [groupDraft?, List.isEmpty_map]
  cases (g.config.membersIn g.name interfaces).isEmpty <;> rfl

theorem groupDrafts_eq_map (rules : List DiscoveryRule) (interfaces : Section) :
    groupDrafts rules interfaces = (filledGroups rules interfaces).map (groupDraft interfaces) := by
  have step : groupDraft? interfaces = fun g =>
      if (!(g.config.membersIn g.name interfaces).isEmpty) =
          true then some (groupDraft interfaces g) else none :=
    funext (groupDraft?_eq interfaces)
  rw [groupDrafts, step, filledGroups, ← List.filterMap_eq_map (f := groupDraft interfaces),
    List.filterMap_filter]
  rfl

theorem group_services (rules : List DiscoveryRule) (interfaces : Section) :
    (findServices rules interfaces).filter (·.parameters.group.isSome) =
      (groupDrafts rules interfaces).map (·.toService (allNames rules interfaces)) := by
  have left : (singleDrafts rules interfaces).filter (·.parameters.group.isSome) = [] := by
    refine List.filter_eq_nil_iff.2 fun d member => ?_
    rw [ungrouped_of_mem_singleDrafts member]
    exact Bool.false_ne_true
  have kept : (groupDrafts rules interfaces).filter (·.parameters.group.isSome) =
      groupDrafts rules interfaces :=
    List.filter_eq_self.2 fun d member => grouped_of_mem_groupDrafts member
  calc (findServices rules interfaces).filter (·.parameters.group.isSome)
      = ((drafts rules interfaces).filter (·.parameters.group.isSome)).map
          (·.toService (allNames rules interfaces)) :=
            filter_findServices rules interfaces (·.group.isSome)
    _ = _ := by rw [drafts, List.filter_append, left, kept, List.nil_append]

/-- The items of groups are those of the groups that have members, one for each. The first rule that
lists a group decides about it, and the tags decide about a group that no rule lists. -/
theorem group_services_resolved {rules : List DiscoveryRule} (valid : checkRules rules = .ok rules)
    (interfaces : Section) :
    ∃ groups : GroupDecls,
      (groups.map (·.name)).Nodup ∧
      (∀ name, name ∈ groups.map (·.name) ↔
        name ≠ "" ∧ ∃ i ∈ interfaces, Belongs rules name i.attributes) ∧
      (∀ g ∈ groups, Resolved rules g) ∧
      List.Forall₂ (GroupItem interfaces) groups
        ((findServices rules interfaces).filter (·.parameters.group.isSome)) := by
  refine ⟨filledGroups rules interfaces, ?_, name_mem_filledGroups valid interfaces,
    fun g filled => ?_, ?_⟩
  · exact (List.filter_sublist.map _).nodup (declaredGroups_nodup rules _)
  · exact resolved_of_mem (mem_filledGroups.1 filled).1
  · rw [group_services, groupDrafts_eq_map, List.map_map, List.forall₂_map_right_iff,
      List.forall₂_same]
    exact fun g _ => groupItem_of_draft _ interfaces g

def noLoopback : DiscoveryRule where
  criteria := { Criteria.unrestricted with typeCodes := some ["24"] }
  single := none
  grouping := some { enabled := false, items := [], labels := .empty }

def intoLan : DiscoveryRule where
  criteria := .unrestricted
  single := none
  grouping :=
    some { enabled := true, items := [⟨"lan", .index⟩, ⟨"lan", .descr⟩], labels := .empty }

theorem group_services_of_lan :
    ∃ g s,
      (findServices [noLoopback, intoLan] [upPort "1" "eth1" (some "lan")]).filter
        (·.parameters.group.isSome) = [s] ∧
        g.name = "lan" ∧ g.config.memberNaming = .descr ∧
          GroupItem [upPort "1" "eth1" (some "lan")] g s := by
  have valid : checkRules [noLoopback, intoLan] = .ok [noLoopback, intoLan] := rfl
  obtain ⟨groups, -, names, resolved, items⟩ :=
    group_services_resolved valid [upPort "1" "eth1" (some "lan")]
  have cut : [noLoopback, intoLan] = [noLoopback] ++ intoLan :: [] := rfl
  have belongs : Belongs [noLoopback, intoLan] "lan" (upPort "1" "eth1" (some "lan")).attributes :=
    .listed cut (by decide) rfl rfl (by decide)
  have declared : "lan" ∈ groups.map (·.name) :=
    (names "lan").2 ⟨by decide, _, List.mem_cons_self, belongs⟩
  have one : (findServices [noLoopback, intoLan] [upPort "1" "eth1" (some "lan")]).filter
      (·.parameters.group.isSome) = [_] := rfl
  rw [one] at items ⊢
  obtain ⟨g, _, item, rest, rfl⟩ := List.forall₂_cons_right_iff.1 items
  cases List.forall₂_nil_right_iff.1 rest
  have named : g.name = "lan" := (List.mem_singleton.1 declared).symm
  have last : LastEntry [⟨"lan", .index⟩, ⟨"lan", .descr⟩] ⟨"lan", .descr⟩ :=
    ⟨[_], [], rfl, by simp⟩
  obtain ⟨-, naming⟩ :=
    (resolved g List.mem_cons_self).listed cut (by rw [named]; decide) rfl rfl last named.symm
  exact ⟨g, _, rfl, named, naming, item⟩

end Discovery

end IfaceMonitor
