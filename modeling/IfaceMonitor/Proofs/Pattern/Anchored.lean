import IfaceMonitor.Pattern.Anchored
import IfaceMonitor.Proofs.Pattern.Tree.Parser
import IfaceMonitor.Proofs.Pattern.Walk

/-!
Where anchored patterns match. Inside its group a pattern is read as it is read alone
(`Tree.parse_anchored`), so the expression is a start condition before the expression of the pattern
(`Regex.parse_anchored`), and a list matches exactly the subjects that begin with a match of one of
its patterns (`Patterns.matchesStart_iff`). This holds of patterns that are valid alone: a text that
closes the group and opens another one is accepted too, and matches anywhere.
-/

namespace IfaceMonitor.Pattern

theorem anchored_eq (text : String) :
    anchored text = '^' :: '(' :: '?' :: ':' :: (text.toList ++ [')']) :=
  rfl

theorem readSequence_caret (fuel : Nat) (p : Progress) (cs : List Char) :
    readSequence (fuel + 1) false p ('^' :: cs) =
      readSequence fuel false (p.push (.assertion .lineStart)) cs :=
  rfl

theorem readSequence_group (fuel : Nat) (p : Progress) (cs : List Char) :
    readSequence (fuel + 1) false p ('(' :: '?' :: ':' :: cs) =
      (do
        let (q, rest) ← readSequence fuel false (.start p.captures) cs
        let (p, rest) ← closeGroup p q (.flags []) rest
        readSequence fuel false p rest) :=
  rfl

theorem Tree.parse_eq_ok {pattern : List Char} {t : Tree} :
    Tree.parse pattern = .ok t ↔
      ∃ p, readSequence (pattern.length + 1) false (.start []) pattern = .ok (p, []) ∧
      p.whole = t := by
  rw [Tree.parse, bind_eq_ok]
  constructor
  · rintro ⟨⟨p, rest⟩, read, complete⟩
    dsimp only at complete
    split at complete
    · next none =>
      cases complete
      exact ⟨p, by rw [read, List.isEmpty_iff.1 none], rfl⟩
    · cases complete
  · rintro ⟨p, read, rfl⟩
    exact ⟨_, read, rfl⟩

theorem Tree.parse_anchored {text : String} {t u : Tree} (own : Tree.parse text.toList = .ok t)
    (whole : Tree.parse (anchored text) = .ok u) :
    u = .sequence [.assertion .lineStart, .group (.flags []) t] := by
  obtain ⟨q, inner, rfl⟩ := Tree.parse_eq_ok.1 own
  obtain ⟨p, outer, rfl⟩ := Tree.parse_eq_ok.1 whole
  have enough : text.toList.length + 1 ≤ (':' :: (text.toList ++ [')'])).length + 2 := by simp
  obtain ⟨rest', inner', ahead⟩ := readSequence_follows enough _ (.append _) inner
  rw [anchored_eq, readSequence_caret, List.length_cons, List.length_cons, List.length_cons,
    readSequence_group] at outer
  have captures : (Progress.push (.start []) (.assertion .lineStart)).captures = [] := rfl
  rw [captures, inner'] at outer
  rcases ahead.nil with rfl | rfl
  -- a comment at the end of the pattern takes the parenthesis, and the group is not closed
  · cases outer
  · cases outer
    rfl

namespace Regex

theorem parse_eq_ok {pattern : List Char} {r : Regex} (parsed : Regex.parse pattern = .ok r) :
    ∃ t, Tree.parse pattern = .ok t ∧ Regex.ofTree t = .ok r := by
  obtain ⟨t, read, parsed⟩ := bind_eq_ok.1 parsed
  refine ⟨t, read, ?_⟩
  split at parsed
  · cases parsed
  · obtain ⟨s, meant, parsed⟩ := bind_eq_ok.1 parsed
    split at parsed
    · cases parsed
      exact meant
    · cases parsed

theorem ofTree_anchored {t : Tree} {r : Regex} (own : Regex.ofTree t = .ok r) :
    Regex.ofTree (.sequence [.assertion .lineStart, .group (.flags []) t]) =
      .ok (sequence [look .start, r]) := by
  obtain ⟨⟨r, f⟩, meant, same⟩ := bind_eq_ok.1 own
  cases same
  have unchanged : Flags.standard.apply [] = Flags.standard := rfl
  simp only [ofTree, Tree.meaning, Tree.meanings, bind, Except.bind, unchanged, meant]
  rfl

theorem parse_anchored {text : String} {r s : Regex} (own : Regex.parse text.toList = .ok r)
    (whole : Regex.parse (anchored text) = .ok s) : s = sequence [look .start, r] := by
  obtain ⟨t, read, meant⟩ := parse_eq_ok own
  obtain ⟨u, read', meant'⟩ := parse_eq_ok whole
  rw [Tree.parse_anchored read read', ofTree_anchored meant] at meant'
  exact (Except.ok.inj meant').symm

theorem behind_start {subject : List Char} {i : Nat} (inside : i ≤ subject.length) :
    Look.start.holds (Cursor.behind subject i) = true ↔ i = 0 := by
  rw [Look.holds, Cursor.behind, Option.isNone_iff_eq_none, List.getLast?_eq_none_iff,
    List.take_eq_nil_iff]
  constructor
  · rintro (none | rfl)
    · exact none
    · exact Nat.le_zero.1 inside
  · exact Or.inl

theorem matchesIn_sequence_start (r : Regex) (subject : List Char) :
    (sequence [look .start, r]).matchesIn subject = true ↔ ∃ j, r.Matches subject 0 j := by
  rw [matchesIn_iff]
  simp only [matches_sequence, InTurn, Matches]
  constructor
  · rintro ⟨i, j, inside, _, ⟨first, rfl⟩, _, matched, rfl⟩
    rw [(behind_start inside).1 first] at matched
    exact ⟨_, matched⟩
  · rintro ⟨j, matched⟩
    exact ⟨0, j, Nat.zero_le _, 0, ⟨rfl, rfl⟩, j, matched, rfl⟩

end Regex

theorem Anchored.compile_eq_ok {text : String} {p : Anchored}
    (compiled : Anchored.compile text = .ok p) :
    Regex.parse (anchored text) = .ok p.regex := by
  rw [Anchored.compile] at compiled
  split at compiled
  · next parsed =>
    cases compiled
    exact parsed
  · cases compiled

theorem Anchored.matchesStart_of_parse {text : String} {p : Anchored} {r : Regex}
    (compiled : Anchored.compile text = .ok p) (own : Regex.parse text.toList = .ok r)
    (subject : String) :
    p.matchesStart subject = true ↔ ∃ j, r.Matches subject.toList 0 j := by
  rw [Anchored.matchesStart, Regex.parse_anchored own (Anchored.compile_eq_ok compiled),
    Regex.matchesIn_sequence_start]

namespace Patterns

/-- A list of patterns that are valid alone matches the subjects that begin with a match of one of
them. -/
theorem matchesStart_iff {texts : List String} {l : Patterns}
    (compiled : Patterns.compile texts = .ok l)
    (valid : ∀ t ∈ texts, ∃ r, Regex.parse t.toList = .ok r) (subject : String) :
    l.matchesStart subject = true ↔
      ∃ t ∈ texts, ∃ r, Regex.parse t.toList = .ok r ∧
        ∃ j, r.Matches subject.toList 0 j := by
  have each := mapM_eq_ok.1 compiled
  clear compiled
  rw [matchesStart]
  induction each with
  | nil => simp
  | @cons text p texts l compiled _ ih =>
    obtain ⟨⟨r, own⟩, valid⟩ := List.forall_mem_cons.1 valid
    have first := Anchored.matchesStart_of_parse compiled own subject
    simp only [List.any_cons, Bool.or_eq_true, first, ih valid, List.exists_mem_cons_iff, own,
      Except.ok.injEq, exists_eq_left']

example : (Patterns.compile ["eth"]).toOption.map
    (fun l => (l.matchesStart "eth0", l.matchesStart "veth0")) = some (true, false) := by
  decide +kernel

theorem matchesStart_of_alternatives :
    ∃ l, Patterns.compile ["eth|wlan", "bond[0-9]+"] = .ok l ∧
      ∀ subject, l.matchesStart subject = true ↔
      ∃ t ∈ ["eth|wlan", "bond[0-9]+"], ∃ r, Regex.parse t.toList = .ok r ∧
        ∃ j, r.Matches subject.toList 0 j := by
  refine ⟨_, rfl, fun subject => matchesStart_iff rfl ?_ subject⟩
  simp only [List.forall_mem_cons, List.not_mem_nil, false_imp_iff, implies_true, and_true]
  exact ⟨⟨_, rfl⟩, _, rfl⟩

theorem matchesStart_of_closed_group :
    Regex.parse "a)|(?:b".toList = .error .unopenedGroup ∧
      ∃ l, Patterns.compile ["a)|(?:b"] = .ok l ∧ l.matchesStart "xb" = true :=
  ⟨rfl, _, rfl, by decide +kernel⟩

end Patterns

end IfaceMonitor.Pattern
