import IfaceMonitor.Group.Listing
import Mathlib.Data.List.Perm.Basic
import Mathlib.Data.List.Induction
import Mathlib.Data.List.Nodup

namespace IfaceMonitor

namespace MemberListing
variable {listing : MemberListing} {members : List (Option String × ListedMember)}
  {node : Option String}

def nodes (listing : MemberListing) : List (Option String) :=
  listing.map Prod.fst

def under (node : Option String) (members : List (Option String × ListedMember)) :
    List ListedMember :=
  (members.filter (·.1 == node)).map Prod.snd

def firstPlace (members : List (Option String × ListedMember)) (node : Option String) : Nat :=
  (members.map Prod.fst).idxOf node

structure Partitions (listing : MemberListing) (members : List (Option String × ListedMember)) :
    Prop where
  whole : (listing.flatMap Prod.snd).Perm (members.map Prod.snd)
  occurring : ∀ node, node ∈ listing.nodes ↔ node ∈ members.map Prod.fst
  ordered : listing.nodes.Pairwise fun a b => firstPlace members a < firstPlace members b
  grouped : ∀ entry ∈ listing, entry.2 = under entry.1 members

theorem nodes_add (node : Option String) (member : ListedMember) (listing : MemberListing) :
    (add node member listing).nodes = if node ∈
      listing.nodes then listing.nodes else listing.nodes ++ [node] := by
  induction listing with
  | nil => rfl
  | cons entry rest ih =>
    obtain ⟨other, members⟩ := entry
    simp only [add, nodes, List.map_cons, List.mem_cons] at ih ⊢
    by_cases same : other = node
    · simp [same]
    · rw [if_neg same, List.map_cons, ih]
      have apart : node ≠ other := fun h => same h.symm
      by_cases later : node ∈ rest.map Prod.fst <;> simp [later, apart]

theorem flatMap_add (node : Option String) (member : ListedMember) (listing : MemberListing) :
    ((add node member listing).flatMap Prod.snd).Perm (listing.flatMap Prod.snd ++ [member]) := by
  induction listing with
  | nil => exact .refl _
  | cons entry rest ih =>
    obtain ⟨other, members⟩ := entry
    rw [add]
    split
    · simp only [List.flatMap_cons, List.append_assoc]
      exact List.perm_append_comm.append_left members
    · simp only [List.flatMap_cons, List.append_assoc]
      exact ih.append_left members

theorem mem_add {member : ListedMember} (distinct : listing.nodes.Nodup)
    {entry : Option String × List ListedMember} (found : entry ∈ add node member listing) :
    (entry.1 ≠ node ∧ entry ∈ listing) ∨
      (entry.1 = node ∧ ∃ before, entry.2 = before ++ [member] ∧
        ((node, before) ∈ listing ∨ (before = [] ∧ node ∉ listing.nodes))) := by
  induction listing with
  | nil =>
    obtain rfl := List.mem_singleton.1 found
    exact .inr ⟨rfl, [], rfl, .inr ⟨rfl, List.not_mem_nil⟩⟩
  | cons head rest ih =>
    obtain ⟨other, members⟩ := head
    obtain ⟨fresh, distinct⟩ := List.nodup_cons.1 distinct
    rw [add] at found
    split at found
    · next same =>
      subst same
      rcases List.mem_cons.1 found with rfl | later
      · exact .inr ⟨rfl, members, rfl, .inl List.mem_cons_self⟩
      · have old : entry.1 ∈ nodes rest := List.mem_map_of_mem later
        exact .inl ⟨fun here => fresh (here ▸ old), List.mem_cons_of_mem _ later⟩
    · next apart =>
      rcases List.mem_cons.1 found with rfl | later
      · exact .inl ⟨apart, List.mem_cons_self⟩
      · rcases ih distinct later with ⟨elsewhere, old⟩ | ⟨here, before, extended, source⟩
        · exact .inl ⟨elsewhere, List.mem_cons_of_mem _ old⟩
        · refine .inr ⟨here, before, extended,
            source.imp (List.mem_cons_of_mem _) fun ⟨nothing, new⟩ => ⟨nothing, ?_⟩⟩
          exact List.not_mem_cons_of_ne_of_not_mem (Ne.symm apart) new

theorem under_append (node other : Option String) (member : ListedMember)
    (members : List (Option String × ListedMember)) :
    under other (members ++ [(node, member)]) = under other members ++ if node =
      other then [member] else [] := by
  by_cases same : node = other <;> simp [under, same]

theorem under_eq_nil (absent : node ∉ members.map Prod.fst) : under node members = [] := by
  rw [under, List.map_eq_nil_iff, List.filter_eq_nil_iff]
  intro m member same
  exact absent (eq_of_beq same ▸ List.mem_map_of_mem member)

theorem firstPlace_append_of_mem (there : node ∈ members.map Prod.fst)
    (m : Option String × ListedMember) :
    firstPlace (members ++ [m]) node = firstPlace members node := by
  rw [firstPlace, List.map_append, List.idxOf_append_of_mem there, firstPlace]

theorem firstPlace_append_of_not_mem (absent : node ∉ members.map Prod.fst)
    (member : ListedMember) :
    firstPlace (members ++ [(node, member)]) node = members.length := by
  rw [firstPlace, List.map_append, List.idxOf_append_of_notMem absent]
  simp

theorem Partitions.distinct (h : listing.Partitions members) : listing.nodes.Nodup :=
  h.ordered.imp fun before same => Nat.ne_of_lt before (congrArg _ same)

theorem Partitions.add (h : listing.Partitions members) (node : Option String)
    (member : ListedMember) :
    (MemberListing.add node member listing).Partitions (members ++ [(node, member)]) where
  whole := by
    rw [List.map_append]
    exact (flatMap_add node member listing).trans (h.whole.append_right _)
  occurring other := by
    rw [nodes_add, List.map_append, List.mem_append, ← h.occurring]
    split
    · next there =>
      refine ⟨.inl, fun either => either.elim id fun last => ?_⟩
      rwa [List.mem_singleton.1 last]
    · exact List.mem_append
  ordered := by
    have kept : listing.nodes.Pairwise fun a b =>
        firstPlace (members ++ [(node, member)]) a <
            firstPlace (members ++ [(node, member)]) b := by
      refine h.ordered.imp_of_mem fun first second before => ?_
      rwa [firstPlace_append_of_mem ((h.occurring _).1 first),
        firstPlace_append_of_mem ((h.occurring _).1 second)]
    rw [nodes_add]
    split
    · exact kept
    · next new =>
      -- A new node appears first at the new member, behind the places of all the others.
      refine List.pairwise_append.2
        ⟨kept, List.pairwise_singleton _ _, fun earlier there last only => ?_⟩
      obtain rfl := List.mem_singleton.1 only
      have old := (h.occurring earlier).1 there
      rw [firstPlace_append_of_mem old, firstPlace_append_of_not_mem (mt (h.occurring _).2 new)]
      exact Nat.lt_of_lt_of_eq (List.idxOf_lt_length_of_mem old) (List.length_map _)
  grouped entry found := by
    rw [under_append]
    rcases mem_add h.distinct found with ⟨elsewhere, old⟩ | ⟨rfl, before, extended, source⟩
    · rw [if_neg (Ne.symm elsewhere), List.append_nil, h.grouped entry old]
    · rw [if_pos rfl, extended]
      rcases source with old | ⟨rfl, new⟩
      · rw [← h.grouped _ old]
      · rw [under_eq_nil (mt (h.occurring _).2 new)]

theorem ofMembers_partitions (members : List (Option String × ListedMember)) :
    (ofMembers members).Partitions members := by
  induction members using List.reverseRecOn with
  | nil => exact ⟨.refl _, fun _ => .rfl, .nil, fun _ => nofun⟩
  | append_singleton members m ih =>
    rw [ofMembers, List.foldl_append]
    exact ih.add m.1 m.2

end MemberListing

namespace GroupConfig

def listed (c : GroupConfig) (group : String) (interfaces : Section) (a : Attributes) :
    ListedMember :=
  let width :=
    if group.toList.head? == some '0' then indexWidth? (interfaces.map (·.attributes)) else none
  { name := (a.itemName c.memberNaming width).text
    operStatus := a.operStatus
    adminStatus := a.adminStatus }

/-- Each member is listed once. The nodes are those of the members, each once and in the order in
which they appear first; under a node stand the members on that node in their order, and there is
one at least. -/
theorem listing_partition (c : GroupConfig) (group : String) (members : List Attributes)
    (interfaces : Section) :
    let listing := c.listing group members interfaces
    let shown := c.listed group interfaces
    let nodes := listing.map Prod.fst
    (listing.flatMap Prod.snd).Perm (members.map shown) ∧ nodes.Nodup ∧
      nodes.Pairwise (fun a b => (members.map (·.node)).idxOf a <
        (members.map (·.node)).idxOf b) ∧
      (∀ node, node ∈ nodes ↔ ∃ a ∈ members, a.node = node) ∧
      ∀ entry ∈ listing, entry.2 ≠ [] ∧
        entry.2 = (members.filter (·.node == entry.1)).map shown := by
  intro listing shown nodes
  have partitions : listing.Partitions (members.map fun a => (a.node, shown a)) :=
    MemberListing.ofMembers_partitions _
  have tags : (members.map fun a => (a.node, shown a)).map Prod.fst = members.map (·.node) := by
    rw [List.map_map]
    rfl
  have whole := partitions.whole
  have ordered := partitions.ordered
  have occurring (node : Option String) : node ∈ nodes ↔ ∃ a ∈ members, a.node = node := by
    rw [← List.mem_map, ← tags]
    exact partitions.occurring node
  have grouped (entry) (found : entry ∈ listing) :
      entry.2 = (members.filter (·.node == entry.1)).map shown := by
    rw [partitions.grouped entry found, MemberListing.under, List.filter_map, List.map_map]
    rfl
  rw [List.map_map] at whole
  simp only [MemberListing.firstPlace, tags] at ordered
  refine ⟨whole, partitions.distinct, ordered, occurring, fun entry found =>
    ⟨?_, grouped entry found⟩⟩
  obtain ⟨a, member, here⟩ := (occurring entry.1).1 (List.mem_map_of_mem found)
  rw [grouped entry found]
  exact List.ne_nil_of_mem (List.mem_map_of_mem (List.mem_filter.2 ⟨member, beq_iff_eq.2 here⟩))

end GroupConfig

end IfaceMonitor
