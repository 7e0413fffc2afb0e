import IfaceMonitor.Group.Combined
import Mathlib.Data.List.Basic

namespace IfaceMonitor

namespace Group
variable {members : List Attributes}

theorem operStatus_eq (members : List Attributes) :
    operStatus members =
      if ∀ a ∈ members, a.isUp = false then .down else if ∀ a ∈ members, a.isUp =
        true then .up else .degraded := by
  simp only [operStatus, List.countP_eq_zero, List.countP_eq_length, Bool.not_eq_true]

theorem operStatus_eq_down_iff :
    operStatus members = .down ↔ ∀ a ∈ members, a.isUp = false := by
  rw [operStatus_eq]
  split
  · next none_up => exact iff_of_true rfl none_up
  · next some_up =>
    refine iff_of_false ?_ some_up
    split <;> exact nofun

theorem operStatus_eq_up_iff :
    operStatus members = .up ↔ members ≠ [] ∧ ∀ a ∈ members, a.isUp = true := by
  rw [operStatus_eq]
  split
  · next none_up =>
    refine iff_of_false nofun fun ⟨filled, all_up⟩ => ?_
    obtain ⟨a, member⟩ := List.exists_mem_of_ne_nil members filled
    exact Bool.false_ne_true ((none_up a member).symm.trans (all_up a member))
  · next some_up =>
    have filled : members ≠ [] := by
      rintro rfl
      exact some_up (List.forall_mem_nil _)
    split
    · next all_up => exact iff_of_true rfl ⟨filled, all_up⟩
    · next not_all => exact iff_of_false nofun fun ⟨_, all_up⟩ => not_all all_up

theorem operStatus_eq_degraded_iff :
    operStatus members = .degraded ↔
      (∃ a ∈ members, a.isUp = true) ∧ ∃ a ∈ members, a.isUp = false := by
  rw [operStatus_eq]
  split
  · next none_up =>
    exact iff_of_false nofun fun ⟨⟨a, member, up⟩, _⟩ =>
      Bool.false_ne_true ((none_up a member).symm.trans up)
  · next some_up =>
    split
    · next all_up =>
      exact iff_of_false nofun fun ⟨_, a, member, other⟩ =>
        Bool.false_ne_true (other.symm.trans (all_up a member))
    · next not_all => exact iff_of_true rfl ⟨by simpa using some_up, by simpa using not_all⟩

theorem operStatus_isDown_filter (members : List Attributes) :
    (operStatus (members.filter (·.isUp))).isDown = (operStatus members).isDown := by
  rw [LinkStatus.isDown, LinkStatus.isDown, decide_eq_decide, operStatus_eq_down_iff,
    operStatus_eq_down_iff]
  constructor
  · intro none_up a member
    cases up : a.isUp with
    | false => rfl
    | true => exact up.symm.trans (none_up a (List.mem_filter.2 ⟨member, up⟩))
  · exact fun none_up a member => none_up a (List.mem_filter.1 member).1

theorem speed_filter (members : List Attributes) :
    speed (members.filter (·.isUp)) = speed members := by
  simp only [speed, List.filter_filter, Bool.and_self]

theorem outQueue_filter (members : List Attributes) :
    outQueue (members.filter (·.isUp)) = outQueue members := by
  simp only [outQueue, operStatus_isDown_filter, List.filter_filter, Bool.and_self]

end Group

theorem Measured.attributes_filter (members : List Measured) :
    (members.filter (·.attributes.isUp)).map (·.attributes) =
      (members.map (·.attributes)).filter (·.isUp) := by
  rw [List.filter_map]
  rfl

/-- A group has the speed, the queue, the rates and the gaps of its members that are up, as if there
were no others; the gaps are theirs one after the other. The state is down without a member that is
up, up if there are members and all are up, and degraded if some are and some are not. -/
theorem members_not_up_inert (group : String) (members : List Measured) :
    let up := members.filter (·.attributes.isUp)
    let whole := Measured.ofMembers group members
    let alone := Measured.ofMembers group up
    whole.attributes.speed = alone.attributes.speed ∧
      whole.attributes.outQueue = alone.attributes.outQueue ∧
      whole.rates = alone.rates ∧ whole.gaps = alone.gaps ∧
        whole.gaps = (up.map (·.gaps)).flatten ∧
      (whole.attributes.operStatus = .down ↔ ∀ m ∈ members, m.attributes.isUp = false) ∧
      (whole.attributes.operStatus = .up ↔
        members ≠ [] ∧ ∀ m ∈ members, m.attributes.isUp = true) ∧
      (whole.attributes.operStatus = .degraded ↔
        (∃ m ∈ members, m.attributes.isUp = true) ∧ ∃ m ∈ members,
          m.attributes.isUp = false) := by
  intro up whole alone
  have again : up.filter (·.attributes.isUp) = up := by
    simp only [up, List.filter_filter, Bool.and_self]
  have attributes : up.map (·.attributes) = (members.map (·.attributes)).filter (·.isUp) :=
    Measured.attributes_filter members
  refine ⟨?speed, ?queue, ?rates, ?gaps, ?order, ?down, ?up, ?degraded⟩
  case speed => exact ((congrArg Group.speed attributes).trans (Group.speed_filter _)).symm
  case queue => exact ((congrArg Group.outQueue attributes).trans (Group.outQueue_filter _)).symm
  case rates =>
    exact congrArg (List.foldl (fun total m => total.add m.rates) TrafficRates.missing) again.symm
  case gaps => exact congrArg (List.flatMap (·.gaps)) again.symm
  case order => exact List.flatMap_def
  case down => exact Group.operStatus_eq_down_iff.trans List.forall_mem_map
  case up => exact Group.operStatus_eq_up_iff.trans (by simp)
  case degraded =>
    exact Group.operStatus_eq_degraded_iff.trans
      (by simp only [List.mem_map, exists_exists_and_eq_and])

end IfaceMonitor
