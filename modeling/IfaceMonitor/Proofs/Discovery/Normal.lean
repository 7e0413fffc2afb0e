import IfaceMonitor.KernelStatistics
import IfaceMonitor.Link.Node
import IfaceMonitor.Proofs.Discovery.Codec
import IfaceMonitor.Proofs.Discovery.Drafts
import IfaceMonitor.Proofs.Link.Names

namespace IfaceMonitor

structure Attributes.Normal (a : Attributes) : Prop where
  operStatus : a.operStatus.Normal
  adminStatus : ∀ s ∈ a.adminStatus, s.Normal

def Section.Normal (interfaces : Section) : Prop :=
  ∀ i ∈ interfaces, i.attributes.Normal

theorem LinkStatus.yields_normal : Json.Yields Normal decode := by
  intro value s decoded
  obtain ⟨text, -, same⟩ := bind_eq_ok.1 decoded
  cases same
  exact ofCode_normal text

theorem Attributes.yields_normal : Json.Yields Normal decode := by
  intro value a decoded
  simp only [decode, bind_eq_ok, pure_eq_ok, Decoded.ofInterface_eq_ok] at decoded
  obtain ⟨fields, -, index, -, descr, -, aliasName, -, typeCode, -, speed, -, operStatus, oper,
    adminStatus, admin, address, -,
    outQueue, -, speedText, -, group, -, node, -, extraInfo, -, base, created, same⟩ := decoded
  have reported : base.operStatus = operStatus := (creates_of_create created).operStatus
  cases same
  exact ⟨reported ▸ LinkStatus.yields_normal.required oper,
    LinkStatus.yields_normal.optionalMember admin⟩

theorem Section.yields_normal : Json.Yields Normal decode := by
  refine Json.Yields.list fun value i decoded => ?_
  simp only [Interface.decode, bind_eq_ok, pure_eq_ok] at decoded
  obtain ⟨members, -, fields, -, attributes, own, rest, -, traffic, -, same⟩ := decoded
  cases same
  exact Attributes.yields_normal.required own

namespace KernelStatistics

theorem interface_normal {index : Nat} {name : String} {counters : RawCounters} {i : Interface}
    (listed : interface index name counters = .ok i) : i.attributes.Normal := by
  obtain ⟨attributes, created, same⟩ := bind_eq_ok.1 listed
  have creates := Attributes.creates_of_create created
  rw [pure_eq_ok] at same
  subst same
  refine ⟨?_, ?_⟩
  · simp only [Attributes.setTypeCode, creates.operStatus]
    exact LinkStatus.ofCode_normal "1"
  · simp only [Attributes.setTypeCode, creates.adminStatus]
    nofun

theorem interfacesFrom_normal {index : Nat} {lines : List (String × RawCounters)}
    {interfaces : Section} (listed : interfacesFrom index lines = .ok interfaces) :
    interfaces.Normal := by
  induction lines generalizing index interfaces with
  | nil =>
    rw [interfacesFrom, Except.ok.injEq] at listed
    subst listed
    exact List.forall_mem_nil _
  | cons line lines ih =>
    obtain ⟨name, counters⟩ := line
    rw [interfacesFrom] at listed
    obtain ⟨first, own, listed⟩ := bind_eq_ok.1 listed
    obtain ⟨others, rest, whole⟩ := bind_eq_ok.1 listed
    rw [pure_eq_ok] at whole
    subst whole
    exact List.forall_mem_cons.2 ⟨interface_normal own, ih rest⟩

theorem normal_of_parse {text : String} {interfaces : Section}
    (parsed : parse text = .ok interfaces) : interfaces.Normal :=
  interfacesFrom_normal parsed

end KernelStatistics

theorem Section.ofNodes_normal {nodes : List (String × Section)}
    (normal : ∀ node ∈ nodes, node.2.Normal) :
    (ofNodes nodes).Normal := by
  intro i member
  obtain ⟨⟨node, interfaces⟩, listed, tagged⟩ := List.mem_flatMap.1 member
  obtain ⟨j, own, rfl⟩ := List.mem_map.1 tagged
  obtain ⟨oper, admin⟩ := normal _ listed j own
  exact ⟨oper, admin⟩

theorem Criteria.yields_normal : Json.Yields Normal decode := by
  intro value c decoded
  simp only [decode, bind_eq_ok, pure_eq_ok] at decoded
  obtain ⟨fields, -, index, -, aliasName, -, descr, -, typeCodes, -, operStates, oper,
    adminStates, admin, same⟩ := decoded
  cases same
  exact ⟨LinkStatus.yields_normal.list.optionalMember oper,
    LinkStatus.yields_normal.list.optionalMember admin⟩

theorem Criteria.unrestricted_normal : unrestricted.Normal where
  operStates := by rintro _ ⟨⟩
  adminStates := by rintro _ ⟨⟩

theorem DiscoveryRule.yields_normal : Json.Yields (fun r => r.criteria.Normal) decode := by
  intro value r decoded
  simp only [decode, bind_eq_ok, pure_eq_ok] at decoded
  obtain ⟨fields, -, criteria, conditions, single, -, grouping, -, same⟩ := decoded
  cases same
  exact Criteria.yields_normal.withDefault Criteria.unrestricted_normal conditions

theorem DiscoveryRule.standard_normal : standard.criteria.Normal := by
  refine ⟨?_, nofun⟩
  rintro _ ⟨⟩ s member
  rw [List.mem_singleton.1 member]
  exact LinkStatus.ofCode_normal "1"

namespace GroupDecls

theorem mem_of_mem_put {decl g : GroupDecl} {decls : GroupDecls} (member : g ∈ decls.put decl) :
    g = decl ∨ g ∈ decls := by
  induction decls with
  | nil => exact Or.inl (List.mem_singleton.1 member)
  | cons other rest ih =>
    rw [put] at member
    split at member
    · exact (List.mem_cons.1 member).imp_right (List.mem_cons_of_mem other)
    · rcases List.mem_cons.1 member with rfl | member
      · exact Or.inr List.mem_cons_self
      · exact (ih member).imp_right (List.mem_cons_of_mem other)

theorem mem_of_mem_putNew {decl g : GroupDecl} {decls : GroupDecls}
    (member : g ∈ decls.putNew decl) : g = decl ∨ g ∈ decls := by
  rw [putNew] at member
  split at member
  · exact Or.inr member
  · exact (List.mem_append.1 member).symm.imp_left List.mem_singleton.1

theorem mem_of_mem_foldl {step : GroupDecls → GroupDecl → GroupDecls}
    (each : ∀ {decl g : GroupDecl} {decls : GroupDecls}, g ∈ step decls decl →
      g = decl ∨ g ∈ decls)
    {g : GroupDecl} {decls others : GroupDecls} (member : g ∈ others.foldl step decls) :
    g ∈ decls ∨ g ∈ others := by
  induction others generalizing decls with
  | nil => exact Or.inl member
  | cons decl rest ih =>
    rcases ih member with kept | added
    · exact (each kept).elim (fun same => Or.inr (same ▸ List.mem_cons_self)) Or.inl
    · exact Or.inr (List.mem_cons_of_mem decl added)

theorem mem_of_mem_putAll {g : GroupDecl} {decls others : GroupDecls}
    (member : g ∈ decls.putAll others) :
    g ∈ decls ∨ g ∈ others :=
  mem_of_mem_foldl mem_of_mem_put member

theorem mem_of_mem_foldl_putNew {g : GroupDecl} {decls others : GroupDecls}
    (member : g ∈ others.foldl putNew decls) :
    g ∈ decls ∨ g ∈ others :=
  mem_of_mem_foldl mem_of_mem_putNew member

theorem mem_exclusionsIn {rules : List DiscoveryRule} {criteria : Criteria}
    (member : criteria ∈ exclusionsIn rules) :
    ∃ r ∈ rules, r.criteria = criteria := by
  obtain ⟨r, listed, chosen⟩ := List.mem_filterMap.1 member
  refine ⟨r, listed, ?_⟩
  split at chosen
  · split at chosen
    · cases chosen
    · exact Option.some.inj chosen
  · cases chosen

theorem config_normal_of_mem_ofRulesBelow (above rules : List DiscoveryRule)
    (normal : ∀ r ∈ above ++ rules, r.criteria.Normal) {g : GroupDecl}
    (member : g ∈ ofRulesBelow above rules) : g.config.Normal := by
  induction rules generalizing above with
  | nil => cases member
  | cons r rest ih =>
    rcases mem_of_mem_putAll member with later | own
    · exact ih (above ++ [r]) (by simpa using normal) later
    · rw [ofRule] at own
      split at own
      · split at own
        · obtain ⟨item, listed, rfl⟩ := List.mem_map.1 own
          refine ⟨?_, fun criteria excluded => ?_⟩
          · rintro _ ⟨⟩
            exact normal r (List.mem_append_right above List.mem_cons_self)
          · obtain ⟨other, higher, rfl⟩ := mem_exclusionsIn excluded
            exact normal other (List.mem_append_left _ (List.mem_reverse.1 higher))
        · cases own
      · cases own

end GroupDecls

namespace Discovery
variable {rules : List DiscoveryRule} {interfaces : Section}

theorem config_normal_of_mem (normal : ∀ r ∈ rules, r.criteria.Normal)
    {attributes : List Attributes} {g : GroupDecl}
    (declared : g ∈ declaredGroups rules attributes) : g.config.Normal := by
  rw [declaredGroups] at declared
  rcases GroupDecls.mem_of_mem_putAll declared with tagged | listed
  · rcases GroupDecls.mem_of_mem_foldl_putNew tagged with none | member
    · cases none
    · obtain ⟨a, -, tag⟩ := List.mem_filterMap.1 member
      rw [taggedGroup?] at tag
      split at tag
      · cases tag
      · split at tag
        · cases tag
        · cases tag
          exact ⟨nofun, nofun⟩
  · exact GroupDecls.config_normal_of_mem_ofRulesBelow [] rules (by simpa using normal) listed

theorem operStatus_normal (members : List Attributes) : (Group.operStatus members).Normal := by
  simp only [Group.operStatus]
  split
  · exact LinkStatus.ofCode_normal "2"
  · split
    · exact LinkStatus.ofCode_normal "1"
    · exact LinkStatus.ofCode_normal "8"

theorem parameters_normal_of_mem_drafts (read : interfaces.Normal)
    (normal : ∀ r ∈ rules, r.criteria.Normal) {d : DraftItem}
    (drafted : d ∈ drafts rules interfaces) : d.parameters.Normal := by
  rcases List.mem_append.1 drafted with single | grouped
  · obtain ⟨sources, listed, -, -, same⟩ :=
      singles_eq_map rules (indexWidth? (interfaces.map (·.attributes))) []
        (interfaces.map (·.attributes))
    rw [singleDrafts, same] at single
    obtain ⟨a, source, rfl⟩ := List.mem_map.1 single
    obtain ⟨i, member, rfl⟩ := List.mem_map.1 (listed.subset source)
    obtain ⟨oper, admin⟩ := read i member
    refine ⟨?_, ?_, fun _ given => (by cases given)⟩
    · rintro _ ⟨⟩ s hs
      rwa [List.mem_singleton.1 hs]
    · intro states given s hs
      obtain ⟨status, known, rfl⟩ := Option.map_eq_some_iff.1 given
      rw [List.mem_singleton.1 hs]
      exact admin status known
  · obtain ⟨g, declared, draft⟩ := mem_groupDrafts.1 grouped
    obtain ⟨-, -, -, -, parameters⟩ := groupDraft?_eq_some draft
    rw [parameters]
    refine ⟨?_, fun _ given => (by cases given), ?_⟩
    · rintro _ ⟨⟩ s hs
      rw [List.mem_singleton.1 hs]
      exact operStatus_normal _
    · rintro _ ⟨⟩
      exact config_normal_of_mem normal declared

theorem normal_of_mem_findServices (read : interfaces.Normal)
    (normal : ∀ r ∈ rules, r.criteria.Normal) {s : Service}
    (found : s ∈ findServices rules interfaces) : s.parameters.Normal := by
  rw [findServices_eq_map, List.mem_map] at found
  obtain ⟨d, drafted, rfl⟩ := found
  exact parameters_normal_of_mem_drafts read normal drafted

end Discovery

end IfaceMonitor
