import IfaceMonitor.Pattern.Tree.Escape
import IfaceMonitor.Proofs.Outcome

/-!
Patterns with a parenthesis behind them. Each reader does with the longer text what it did with the
pattern, and leaves the parenthesis (`Ahead`), unless the pattern ends in a comment, which takes the
parenthesis too. Here this is said of white space and of escapes.
-/

namespace IfaceMonitor.Pattern

/-- What is left of a text and what is left of it with a parenthesis behind it: the parenthesis too,
unless a comment took it. -/
def Ahead (rest rest' : List Char) : Prop :=
  rest' = rest ++ [')'] ∨ rest = [] ∧ rest' = []

namespace Ahead
variable {c : Char} {rest rest' : List Char}

theorem append (rest : List Char) : Ahead rest (rest ++ [')']) :=
  Or.inl rfl

theorem cons (ahead : Ahead (c :: rest) rest') : rest' = c :: (rest ++ [')']) :=
  ahead.resolve_right fun absurd => nomatch absurd.1

theorem nil (ahead : Ahead [] rest') : rest' = [] ∨ rest' = [')'] :=
  ahead.symm.imp And.right id

theorem head?_ne (ahead : Ahead rest rest') (other : c ≠ ')') (plain : rest.head? ≠ some c) :
    rest'.head? ≠ some c := by
  rcases ahead with rfl | ⟨-, rfl⟩
  · cases rest with
    | nil => exact fun same => other (Option.some.inj same).symm
    | cons d rest => exact plain
  · nofun

theorem length_le (ahead : Ahead rest rest') : rest.length ≤ rest'.length := by
  rcases ahead with rfl | ⟨rfl, rfl⟩
  · simp
  · exact Nat.le_refl 0

end Ahead

def Follows {α : Type} (read read' : Reader α) : Prop :=
  ∀ ⦃cs cs' x rest⦄, Ahead cs cs' → read cs = .ok (x, rest) → ∃ rest',
    read' cs' = .ok (x, rest') ∧ Ahead rest rest'

theorem bind_ahead {α β : Type} {read read' : Reader α}
    {next next' : α × List Char → Except Fault (β × List Char)} {cs cs' rest : List Char}
    {x : β} (first : Follows read read') (ahead : Ahead cs cs')
    (whole : (read cs >>= next) = .ok (x, rest))
    (second : ∀ a r r', Ahead r r' → next (a, r) = .ok (x, rest) →
      ∃ rest', next' (a, r') = .ok (x, rest') ∧ Ahead rest rest') :
    ∃ rest', (read' cs' >>= next') = .ok (x, rest') ∧ Ahead rest rest' := by
  obtain ⟨⟨a, r⟩, own, whole⟩ := bind_eq_ok.1 whole
  obtain ⟨r', own', ahead⟩ := first ahead own
  obtain ⟨rest', whole', ahead⟩ := second a r r' ahead whole
  exact ⟨rest', bind_eq_ok.2 ⟨_, own', whole'⟩, ahead⟩

theorem ok_ahead {α : Type} {x y : α} {r r' rest : List Char} (ahead : Ahead r r')
    (read : (.ok (x, r) : Except Fault (α × List Char)) = .ok (y, rest)) :
    ∃ rest', (.ok (x, r') : Except Fault (α × List Char)) = .ok (y, rest') ∧
      Ahead rest rest' := by
  cases read
  exact ⟨r', rfl, ahead⟩

variable {verbose : Bool} {cs cs' : List Char}

theorem length_skipComment (cs : List Char) : (skipComment cs).length ≤ cs.length := by
  induction cs with
  | nil => exact Nat.le_refl 0
  | cons c cs ih =>
    rw [skipComment]
    split
    · exact Nat.le_succ _
    · exact Nat.le_succ_of_le ih

theorem length_skipBlanks (fuel : Nat) (cs : List Char) :
    (skipBlanks fuel cs).length ≤ cs.length := by
  induction fuel generalizing cs with
  | zero => exact Nat.le_refl _
  | succ fuel ih =>
    cases cs with
    | nil => exact Nat.le_refl 0
    | cons c cs =>
      rw [skipBlanks]
      split
      · exact Nat.le_succ_of_le (ih cs)
      · split
        · exact Nat.le_succ_of_le (Nat.le_trans (ih _) (length_skipComment cs))
        · exact Nat.le_refl _

theorem length_skip (verbose : Bool) (cs : List Char) : (skip verbose cs).length ≤ cs.length := by
  rw [skip]
  split
  · exact length_skipBlanks _ _
  · exact Nat.le_refl _

theorem skipComment_ahead (cs : List Char) :
    Ahead (skipComment cs) (skipComment (cs ++ [')'])) := by
  induction cs with
  | nil => exact Or.inr ⟨rfl, rfl⟩
  | cons c cs ih =>
    rw [List.cons_append, skipComment, skipComment]
    split
    · exact .append cs
    · exact ih

theorem skipBlanks_nil (fuel : Nat) : skipBlanks fuel [] = [] := by
  cases fuel <;> rfl

theorem skipBlanks_ahead {fuel fuel' : Nat} (enough : cs.length ≤ fuel)
    (enough' : cs'.length ≤ fuel') (ahead : Ahead cs cs') :
    Ahead (skipBlanks fuel cs) (skipBlanks fuel' cs') := by
  induction fuel generalizing fuel' cs cs' with
  | zero =>
    obtain rfl := List.length_eq_zero_iff.1 (Nat.le_zero.1 enough)
    exact nothing_ahead enough' ahead
  | succ fuel ih =>
    cases cs with
    | nil => exact nothing_ahead enough' ahead
    | cons c cs =>
      obtain rfl := ahead.cons
      obtain ⟨fuel', rfl⟩ : ∃ more, fuel' = more + 1 :=
        ⟨fuel' - 1, by simp at enough'; omega⟩
      rw [skipBlanks, skipBlanks]
      have fewer : cs.length ≤ fuel := Nat.le_of_succ_le_succ enough
      have fewer' : (cs ++ [')']).length ≤ fuel' := Nat.le_of_succ_le_succ enough'
      split
      · exact ih fewer fewer' (.append cs)
      · split
        · have shorter := length_skipComment cs
          have shorter' := length_skipComment (cs ++ [')'])
          exact ih (Nat.le_trans shorter fewer) (Nat.le_trans shorter' fewer')
            (skipComment_ahead cs)
        · exact .append (c :: cs)
where
  nothing_ahead {fuel fuel' : Nat} {cs' : List Char} (enough' : cs'.length ≤ fuel')
    (ahead : Ahead [] cs') :
      Ahead (skipBlanks fuel []) (skipBlanks fuel' cs') := by
    rw [skipBlanks_nil]
    rcases ahead.nil with rfl | rfl
    · rw [skipBlanks_nil]
      exact ahead
    · obtain ⟨more, rfl⟩ := Nat.exists_eq_add_of_le' enough'
      exact ahead

theorem skip_ahead (verbose : Bool) (ahead : Ahead cs cs') :
    Ahead (skip verbose cs) (skip verbose cs') := by
  rw [skip, skip]
  split
  · exact skipBlanks_ahead (Nat.le_refl _) (Nat.le_refl _) ahead
  · exact ahead

theorem exists_of_append {c first second : Char} {more rest : List Char} (other : second ≠ ')')
    (begins : c :: (more ++ [')']) = first :: second :: rest) :
    ∃ rest, c :: more = first :: second :: rest := by
  cases more with
  | nil =>
    cases begins
    exact absurd rfl other
  | cons d more =>
    cases begins
    exact ⟨more, rfl⟩

theorem skip_nil (verbose : Bool) : skip verbose [] = [] := by
  cases verbose <;> rfl

theorem skip_cases (verbose : Bool) (ahead : Ahead cs cs') :
    skip verbose cs = [] ∨ ∃ c more, skip verbose cs = c :: more ∧
      skip verbose cs' = c :: (more ++ [')']) := by
  have skipped := skip_ahead verbose ahead
  cases left : skip verbose cs with
  | nil => exact Or.inl rfl
  | cons c more => exact Or.inr ⟨c, more, rfl, (left ▸ skipped).cons⟩

theorem takeSkipping_follows (n : Nat) :
    Follows (takeSkipping verbose n) (takeSkipping verbose n) := by
  induction n with
  | zero =>
    intro cs cs' taken rest ahead read
    cases read
    exact ⟨cs', rfl, ahead⟩
  | succ n ih =>
    intro cs cs' taken rest ahead read
    rw [takeSkipping] at read ⊢
    rcases skip_cases verbose ahead with none | ⟨c, more, left, left'⟩
    · rw [none] at read
      cases read
    · rw [left] at read
      rw [left']
      refine bind_ahead ih (.append more) read fun taken r r' ahead read => ?_
      cases read
      exact ⟨r', rfl, ahead⟩

theorem takeBraced_follows {fuel fuel' : Nat} (enough : fuel ≤ fuel') :
    Follows (takeBraced verbose fuel) (takeBraced verbose fuel') := by
  induction fuel generalizing fuel' with
  | zero => exact fun _ _ _ _ _ read => nomatch read
  | succ fuel ih =>
    intro cs cs' taken rest ahead read
    obtain ⟨fuel', rfl⟩ := Nat.exists_eq_add_of_lt enough
    rw [takeBraced] at read ⊢
    rcases skip_cases verbose ahead with none | ⟨c, more, left, left'⟩
    · rw [none] at read
      cases read
    · rw [left] at read
      rw [left']
      dsimp only at read ⊢
      split at read
      · next brace =>
        cases read
        exact ⟨_, if_pos brace, .append _⟩
      · next other =>
        rw [if_neg other]
        refine bind_ahead (ih (by omega)) (.append more) read fun taken r r' ahead read => ?_
        cases read
        exact ⟨r', rfl, ahead⟩

theorem readHex_follows (n : Nat) :
    Follows (readHex verbose (n + 1)) (readHex verbose (n + 1)) := by
  intro cs cs' x rest ahead read
  rw [readHex] at read ⊢
  rcases skip_cases verbose ahead with none | ⟨c, more, left, left'⟩
  · rw [none] at read
    dsimp only at read
    rw [takeSkipping, skip_nil] at read
    cases read
  · rw [left] at read
    rw [left']
    by_cases brace : c = '\x7b'
    · subst brace
      refine bind_ahead (takeBraced_follows (by simp))
        (.append more) read fun taken r r' ahead read => ?_
      cases code : charOfHex? taken <;> simp only [code] at read ⊢
      · cases read
      · exact ok_ahead ahead read
    · simp only [List.cons.injEq, brace, false_and, imp_false, not_false_eq_true,
        implies_true] at read ⊢
      refine bind_ahead (takeSkipping_follows (n + 1))
        (.append (c :: more)) read fun taken r r' ahead read => ?_
      cases code : charOfHex? taken <;> simp only [code] at read ⊢
      · cases read
      · exact ok_ahead ahead read

theorem readProperty_follows (negated : Bool) :
    Follows (readProperty verbose negated) (readProperty verbose negated) := by
  intro cs cs' x rest ahead read
  unfold readProperty at read ⊢
  rcases skip_cases verbose ahead with none | ⟨c, more, left, left'⟩
  · rw [none] at read
    cases read
  · rw [left] at read
    rw [left']
    by_cases brace : c = '\x7b'
    · subst brace
      exact bind_ahead (takeBraced_follows (by simp)) (.append _) read fun taken r r' => ok_ahead
    · grind [ok_ahead, Ahead.append]

theorem readBoundary_follows : Follows (readBoundary verbose) (readBoundary verbose) := by
  intro cs cs' x rest ahead read
  cases cs with
  | nil => rcases ahead.nil with rfl | rfl <;> exact ok_ahead ahead read
  | cons c more =>
    obtain rfl := ahead.cons
    unfold readBoundary at read ⊢
    by_cases brace : c = '\x7b'
    · subst brace
      simp only at read ⊢
      rcases skip_cases verbose (.append more) with none | ⟨d, others, left, left'⟩
      · rw [none] at read
        cases read
      · rw [left] at read
        rw [left']
        dsimp only at read ⊢
        split at read
        · next named =>
          rw [if_pos named]
          refine bind_ahead (takeBraced_follows (by simp))
            (.append (d :: others)) read fun name r r' ahead read => ?_
          cases kind : boundaryNames.lookup (String.ofList name) <;> simp only [kind] at read ⊢
          · cases read
          · exact ok_ahead ahead read
        · next other =>
          rw [if_neg other]
          exact ok_ahead (.append ('\x7b' :: more)) read
    · grind [ok_ahead, Ahead.append]

theorem readEscape_follows : Follows (readEscape verbose) (readEscape verbose) := by
  intro cs cs' x rest ahead read
  unfold readEscape at read ⊢
  cases cs with
  | nil => cases read
  | cons c more =>
    obtain rfl := ahead.cons
    dsimp only at read ⊢
    split at read
    · cases read
    · next noDigit =>
      rw [if_neg noDigit]
      split at read
      -- what is left are the escapes that go on behind their letter, and the escaped punctuation
      all_goals try exact ok_ahead (.append more) read
      · exact readHex_follows 1 (.append more) read
      · exact readHex_follows 3 (.append more) read
      · exact readHex_follows 7 (.append more) read
      · exact readProperty_follows false (.append more) read
      · exact readProperty_follows true (.append more) read
      · exact readBoundary_follows (.append more) read
      · split at read
        · next escapable =>
          rw [if_pos escapable]
          exact ok_ahead (.append more) read
        · cases read

end IfaceMonitor.Pattern
