import IfaceMonitor.Text.Blank
import Mathlib.Data.List.DropRight

namespace IfaceMonitor.Text

def AllBlank (cs : List Char) : Prop :=
  ∀ c ∈ cs, isBlank c = true

variable {front back cs : List Char}

theorem AllBlank.filter (h : AllBlank cs) (p : Char → Bool) : AllBlank (cs.filter p) :=
  fun c hc => h c (List.mem_of_mem_filter hc)

theorem dropEndWhile_append (p : Char → Bool) (front back : List Char) :
    dropEndWhile p (front ++ back) =
      if dropEndWhile p back = [] then dropEndWhile p front else front ++ dropEndWhile p back := by
  rw [dropEndWhile, List.reverse_append, List.dropWhile_append, dropEndWhile, dropEndWhile]
  by_cases nothing : back.reverse.dropWhile p = []
  · simp [nothing]
  · simp [nothing]

theorem dropEndWhile_eq_self {p : Char → Bool} (filled : cs ≠ [])
    (stop : p (cs.getLast filled) = false) : dropEndWhile p cs = cs :=
  List.rdropWhile_eq_self_iff.2 fun _ => Bool.not_eq_true _ ▸ stop

theorem dropWhile_eq_self_iff {p : Char → Bool} :
    cs.dropWhile p = cs ↔ ∀ c ∈ cs.head?, p c = false := by
  rw [List.dropWhile_eq_self_iff]
  cases cs <;> simp

theorem dropEndWhile_eq_self_iff {p : Char → Bool} :
    dropEndWhile p cs = cs ↔ ∀ c ∈ cs.getLast?, p c = false := by
  rw [dropEndWhile, List.reverse_eq_iff, dropWhile_eq_self_iff, List.head?_reverse]

theorem mem_of_mem_dropEndWhile {p : Char → Bool} {c : Char} (member : c ∈ dropEndWhile p cs) :
    c ∈ cs :=
  (List.rdropWhile_prefix p cs).subset member

theorem trimChars_append_of_blank (h : AllBlank front) (cs : List Char) :
    trimChars (front ++ cs) = trimChars cs := by
  rw [trimChars, List.dropWhile_append_of_pos h, trimChars]

theorem dropEndWhile_append_of_blank (cs : List Char) (h : AllBlank back) :
    dropEndWhile isBlank (cs ++ back) = dropEndWhile isBlank cs := by
  have reversed : ∀ c ∈ back.reverse, isBlank c = true := fun c hc =>
    h c (List.mem_reverse.1 hc)
  rw [dropEndWhile, List.reverse_append, List.dropWhile_append_of_pos reversed, dropEndWhile]

theorem trimChars_append_blank (cs : List Char) (h : AllBlank back) :
    trimChars (cs ++ back) = trimChars cs := by
  rw [trimChars, List.dropWhile_append]
  split
  · next none =>
    rw [List.dropWhile_eq_nil_iff.2 h, trimChars, List.isEmpty_iff.1 none]
  · rw [dropEndWhile_append_of_blank _ h, trimChars]

theorem trimChars_eq_self_iff :
    trimChars cs = cs ↔
      (∀ c ∈ cs.head?, isBlank c = false) ∧ ∀ c ∈ cs.getLast?, isBlank c = false := by
  rw [← dropWhile_eq_self_iff, ← dropEndWhile_eq_self_iff, trimChars]
  constructor
  · intro settled
    have within : (dropEndWhile isBlank (cs.dropWhile isBlank)).Sublist (cs.dropWhile isBlank) :=
      (List.rdropWhile_prefix isBlank _).sublist
    rw [settled] at within
    have front : cs.dropWhile isBlank = cs := (List.dropWhile_sublist isBlank).antisymm within
    rw [front] at settled
    exact ⟨front, settled⟩
  · rintro ⟨front, back⟩
    rw [front, back]

theorem exists_trimChars (cs : List Char) :
    ∃ front back, AllBlank front ∧ AllBlank back ∧ front ++ trimChars cs ++ back = cs := by
  refine ⟨cs.takeWhile isBlank, (cs.dropWhile isBlank).rtakeWhile isBlank, ?_, ?_, ?_⟩
  · exact fun c hc => List.mem_takeWhile_imp hc
  · exact fun c hc => List.mem_rtakeWhile_imp hc
  · have cut : trimChars cs ++ (cs.dropWhile isBlank).rtakeWhile isBlank = cs.dropWhile isBlank :=
      List.rdropWhile_append_rtakeWhile ..
    rw [List.append_assoc, cut, List.takeWhile_append_dropWhile]

theorem mem_of_mem_trimChars {c : Char} (member : c ∈ trimChars cs) : c ∈ cs := by
  obtain ⟨front, back, -, -, whole⟩ := exists_trimChars cs
  exact whole ▸ List.mem_append_left back (List.mem_append_right front member)

theorem trimChars_trimChars (cs : List Char) : trimChars (trimChars cs) = trimChars cs := by
  obtain ⟨front, back, blank, blank', whole⟩ := exists_trimChars cs
  calc trimChars (trimChars cs) = trimChars (front ++ trimChars cs ++ back) := by
        rw [trimChars_append_blank _ blank', trimChars_append_of_blank blank]
    _ = trimChars cs := by rw [whole]

theorem trim_trim (s : String) : trim (trim s) = trim s := by
  rw [trim, trim, String.toList_ofList, trimChars_trimChars]

theorem trimChars_map {f : Char → Char} (same : ∀ c, isBlank (f c) = isBlank c)
    (cs : List Char) :
    trimChars (cs.map f) = (trimChars cs).map f := by
  have blank : isBlank ∘ f = isBlank := funext same
  rw [trimChars, dropEndWhile, List.dropWhile_map, ← List.map_reverse, List.dropWhile_map,
    ← List.map_reverse, blank, trimChars, dropEndWhile]

theorem splitWhen_eq_singleton {p : Char → Bool} (h : ∀ c ∈ cs, p c = false) :
    splitWhen p cs = [cs] := by
  induction cs with
  | nil => rfl
  | cons c cs ih =>
    obtain ⟨here, h⟩ := List.forall_mem_cons.1 h
    rw [splitWhen, here, ih h, if_neg Bool.false_ne_true]

theorem splitWhen_append_cons {p : Char → Bool} {c : Char} (h : ∀ d ∈ front, p d = false)
    (cut : p c = true) (cs : List Char) :
    splitWhen p (front ++ c :: cs) = front :: splitWhen p cs := by
  induction front with
  | nil => rw [List.nil_append, splitWhen, if_pos cut]
  | cons d front ih =>
    obtain ⟨here, h⟩ := List.forall_mem_cons.1 h
    rw [List.cons_append, splitWhen, here, ih h, if_neg Bool.false_ne_true]

end IfaceMonitor.Text
