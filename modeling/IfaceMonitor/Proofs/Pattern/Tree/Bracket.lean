import IfaceMonitor.Pattern.Tree.Bracket
import IfaceMonitor.Proofs.Pattern.Tree.Escape

namespace IfaceMonitor.Pattern

variable {verbose : Bool} {cs cs' : List Char}

theorem cutAt?_append {p : Char → Bool} (other : p ')' = false) (cs : List Char) :
    Text.cutAt? p (cs ++ [')']) = (Text.cutAt? p cs).map fun (before, behind) =>
      (before, behind ++ [')']) := by
  induction cs with
  | nil => simp [Text.cutAt?, other]
  | cons c cs ih =>
    rw [List.cons_append, Text.cutAt?, Text.cutAt?]
    split
    · rfl
    · rw [ih, Option.map_map, Option.map_map]
      rfl

def posixNamed? (negated : Bool) (cs : List Char) : Option (ClassTree × List Char) :=
  match Text.cutAt? (· == ':') cs with
  | some (name, ']' :: rest) => (CharClass.posix.lookup (String.ofList name)).map fun set =>
      (.posix set negated, rest)
  | _ => none

theorem posixNamed?_append (negated : Bool) (cs : List Char) :
    posixNamed? negated (cs ++ [')']) = (posixNamed? negated cs).map fun (set, rest) =>
      (set, rest ++ [')']) := by
  rw [posixNamed?, posixNamed?, cutAt?_append rfl]
  rcases Text.cutAt? (· == ':') cs with _ | ⟨name, _ | ⟨c, rest⟩⟩
  · rfl
  · rfl
  · by_cases bracket : c = ']'
    · subst bracket
      simp [Function.comp_def]
    · simp [bracket]

theorem posixClass?_caret (cs : List Char) :
    posixClass? (':' :: '^' :: cs) = posixNamed? true cs := by
  simp only [posixClass?]
  rfl

theorem posixClass?_colon {c : Char} (plain : c ≠ '^') (cs : List Char) :
    posixClass? (':' :: c :: cs) = posixNamed? false (c :: cs) := by
  simp [posixClass?, plain]
  rfl

theorem posixClass?_append (cs : List Char) :
    posixClass? (cs ++ [')']) = (posixClass? cs).map fun (set, rest) => (set, rest ++ [')']) := by
  cases cs with
  | nil => rfl
  | cons c more =>
    by_cases colon : c = ':'
    · subst colon
      cases more with
      | nil => rfl
      | cons d more =>
        by_cases caret : d = '^'
        · subst caret
          rw [List.cons_append, List.cons_append, posixClass?_caret, posixClass?_caret,
            posixNamed?_append]
        · rw [List.cons_append, List.cons_append, posixClass?_colon caret, posixClass?_colon caret,
            ← List.cons_append, posixNamed?_append]
    · simp [posixClass?, colon]

theorem readMember_follows : Follows (readMember verbose) (readMember verbose) := by
  intro cs cs' x rest ahead read
  unfold readMember at read ⊢
  cases cs with
  | nil => cases read
  | cons c more =>
    obtain rfl := ahead.cons
    by_cases slash : c = '\\'
    · subst slash
      refine bind_ahead readEscape_follows (.append more) read fun escape r r' ahead read => ?_
      cases escape with
      | literal | named => exact ok_ahead ahead read
      | assertion => cases read
    · grind [ok_ahead, Ahead.append]

theorem head?_dropWhile_append {c : Char} (other : c ≠ ')') (cs : List Char) :
    ((cs ++ [')']).dropWhile Text.isBlank).head? = some c ↔
      (cs.dropWhile Text.isBlank).head? = some c := by
  rw [List.dropWhile_append]
  split
  · next none =>
    rw [List.isEmpty_iff.1 none]
    have kept : [')'].dropWhile Text.isBlank = [')'] := rfl
    simp [kept, other.symm]
  · next some =>
    rw [List.head?_append]
    cases left : (cs.dropWhile Text.isBlank).head? with
    | none => simp [List.head?_eq_none_iff.1 left] at some
    | some d => rfl

theorem peekBehindHyphen_append (verbose : Bool) {c : Char} (stop : c = ']' ∨ c = '-')
    (cs : List Char) :
    peekBehindHyphen verbose (cs ++ [')']) = some c ↔ peekBehindHyphen verbose cs = some c := by
  have other : c ≠ ')' := by rcases stop with rfl | rfl <;> decide
  have first : (cs ++ [')']).head? = some c ↔ cs.head? = some c := by
    cases cs <;> simp [other.symm]
  cases verbose with
  | false => exact first
  | true =>
    have solid : Text.isBlank c = false := by rcases stop with rfl | rfl <;> rfl
    have front (here : cs.head? = some c) : cs.dropWhile Text.isBlank = cs := by
      obtain ⟨rest, rfl⟩ := List.head?_eq_some_iff.1 here
      exact List.dropWhile_cons_of_neg (by simp [solid])
    simp only [peekBehindHyphen, if_true]
    cases left : cs.dropWhile Text.isBlank with
    | nil =>
      have left' : (cs ++ [')']).dropWhile Text.isBlank = [')'] := by
        rw [List.dropWhile_append, left]
        rfl
      have absent : cs.head? ≠ some c := by
        intro here
        rw [← front here, left] at here
        cases here
      rw [left']
      simp [other.symm, absent]
    | cons d rest =>
      have left' : (cs ++ [')']).dropWhile Text.isBlank = d :: (rest ++ [')']) := by
        rw [List.dropWhile_append, left]
        rfl
      rw [left']
      by_cases sign : d = '#'
      · subst sign
        have absent : cs.head? ≠ some c := by
          intro here
          rw [← front here, left] at here
          rcases stop with rfl | rfl <;> cases here
        have only {first second : Option Char} (absent : second ≠ some c) :
            (first <|> second) = some c ↔ first = some c := by
          cases first <;> simp [absent]
        have absent' : (cs ++ [')']).head? ≠ some c := mt first.1 absent
        exact (only absent').trans ((head?_dropWhile_append other rest).trans (only absent).symm)
      · simp [sign]

def memberAlone : Literal ⊕ ClassTree → ClassTree
  | .inl l => .literal l
  | .inr named => named

def readBehindMember (verbose : Bool) (first : Literal ⊕ ClassTree) : Reader ClassTree
  | [] => .error .unclosedClass
  | c :: more =>
    if c = '-' ∧ peekBehindHyphen verbose more ≠ some ']' ∧
      peekBehindHyphen verbose more ≠ some '-' then do
      let (last, rest) ← readMember verbose (skip verbose more)
      match first, last with
      | .inl a, .inl b =>
        if a.char ≤ b.char then .ok (.range a b, rest) else .error .badClassRange
      | _, _ => .error .badClassRange
    else .ok (memberAlone first, c :: more)

theorem readMemberOrRange_eq (cs : List Char) :
    readMemberOrRange verbose cs = readMember verbose cs >>= fun p =>
      readBehindMember verbose p.1 (skip verbose p.2) := by
  rw [readMemberOrRange]
  refine bind_congr fun ⟨first, rest⟩ => ?_
  dsimp only
  cases skip verbose rest with
  | nil => rfl
  | cons c more =>
    rw [readBehindMember]
    cases first <;> grind [memberAlone]

theorem readBehindMember_follows (first : Literal ⊕ ClassTree) :
    Follows (readBehindMember verbose first) (readBehindMember verbose first) := by
  intro cs cs' x rest ahead read
  cases cs with
  | nil => cases read
  | cons c more =>
    obtain rfl := ahead.cons
    rw [readBehindMember] at read ⊢
    have bracket := not_congr (peekBehindHyphen_append verbose (.inl rfl) more)
    have hyphen := not_congr (peekBehindHyphen_append verbose (.inr rfl) more)
    have same := and_congr_right (a := c = '-') fun _ => and_congr bracket hyphen
    split at read
    · next range =>
      rw [if_pos (same.2 range)]
      refine bind_ahead readMember_follows (skip_ahead verbose (.append more)) read
        fun last r r' ahead read => ?_
      rcases first with a | named <;> rcases last with b | named' <;> try cases read
      dsimp only at read ⊢
      split at read
      · next ordered =>
        rw [if_pos ordered]
        exact ok_ahead ahead read
      · cases read
    · next alone =>
      rw [if_neg (mt same.1 alone)]
      exact ok_ahead (.append (c :: more)) read

theorem readMemberOrRange_follows :
    Follows (readMemberOrRange verbose) (readMemberOrRange verbose) := by
  intro cs cs' x rest ahead read
  rw [readMemberOrRange_eq] at read ⊢
  exact bind_ahead readMember_follows ahead read fun first r r' ahead =>
    readBehindMember_follows first (skip_ahead verbose ahead)

theorem leadingHyphens_of_ne {fuel : Nat} (items : List ClassTree) (plain : cs.head? ≠ some '-') :
    leadingHyphens verbose fuel items cs = (items, cs) := by
  cases fuel with
  | zero => rfl
  | succ fuel =>
    unfold leadingHyphens
    split
    · exact absurd rfl plain
    · rfl

theorem leadingHyphens_ahead (verbose : Bool) {fuel fuel' : Nat} (items : List ClassTree)
    (enough : cs.length ≤ fuel) (enough' : cs'.length ≤ fuel') (ahead : Ahead cs cs') :
    ∃ found rest rest', leadingHyphens verbose fuel items cs = (found, rest) ∧
      leadingHyphens verbose fuel' items cs' = (found, rest') ∧ Ahead rest rest' := by
  induction fuel generalizing fuel' items cs cs' with
  | zero =>
    obtain rfl := List.length_eq_zero_iff.1 (Nat.le_zero.1 enough)
    exact ⟨items, [], cs', rfl, leadingHyphens_of_ne items (ahead.head?_ne (by decide) nofun),
      ahead⟩
  | succ fuel ih =>
    by_cases hyphen : cs.head? = some '-'
    · obtain ⟨more, rfl⟩ := List.head?_eq_some_iff.1 hyphen
      obtain rfl := ahead.cons
      obtain ⟨fuel', rfl⟩ : ∃ more, fuel' = more + 1 :=
        ⟨fuel' - 1, by simp at enough'; omega⟩
      have fewer := Nat.le_trans (length_skip verbose more) (Nat.le_of_succ_le_succ enough)
      have fewer' :=
        Nat.le_trans (length_skip verbose (more ++ [')'])) (Nat.le_of_succ_le_succ enough')
      exact ih _ fewer fewer' (skip_ahead verbose (.append more))
    · have hyphen' := ahead.head?_ne (by decide) hyphen
      exact ⟨items, cs, cs', leadingHyphens_of_ne items hyphen,
        leadingHyphens_of_ne items hyphen', ahead⟩

def firstMembers (verbose negated : Bool) (cs : List Char) : Bool × List ClassTree × List Char :=
  match cs with
  | ']' :: rest => (negated, [.literal ⟨']', false⟩], skip verbose rest)
  | cs => (negated, leadingHyphens verbose cs.length [] cs)

theorem firstMembers_of_ne {negated : Bool} (plain : cs.head? ≠ some ']') :
    firstMembers verbose negated cs = (negated, leadingHyphens verbose cs.length [] cs) := by
  unfold firstMembers
  split
  · exact absurd rfl plain
  · rfl

theorem openClass_caret {more : List Char} (left : skip verbose cs = '^' :: more) :
    openClass verbose cs = firstMembers verbose true (skip verbose more) := by
  simp only [openClass, left]
  rfl

theorem openClass_of_ne (plain : (skip verbose cs).head? ≠ some '^') :
    openClass verbose cs = firstMembers verbose false (skip verbose cs) := by
  rw [openClass]
  cases left : skip verbose cs with
  | nil => rfl
  | cons c more =>
    have other : c ≠ '^' := by
      rintro rfl
      exact plain (by rw [left]; rfl)
    simp only [List.cons.injEq, other, false_and, imp_false, not_false_eq_true, implies_true]
    rfl

theorem firstMembers_ahead (negated : Bool) (ahead : Ahead cs cs') :
    ∃ items rest rest', firstMembers verbose negated cs = (negated, items, rest) ∧
      firstMembers verbose negated cs' = (negated, items, rest') ∧ Ahead rest rest' := by
  by_cases bracket : cs.head? = some ']'
  · obtain ⟨more, rfl⟩ := List.head?_eq_some_iff.1 bracket
    obtain rfl := ahead.cons
    exact ⟨_, _, _, rfl, rfl, skip_ahead verbose (.append more)⟩
  · obtain ⟨items, rest, rest', found, found', behind⟩ :=
      leadingHyphens_ahead verbose [] (Nat.le_refl _) (Nat.le_refl _) ahead
    refine ⟨items, rest, rest', ?_, ?_, behind⟩
    · rw [firstMembers_of_ne bracket, found]
    · rw [firstMembers_of_ne (ahead.head?_ne (by decide) bracket), found']

theorem openClass_ahead (verbose : Bool) (ahead : Ahead cs cs') :
    ∃ negated items rest rest', openClass verbose cs = (negated, items, rest) ∧
      openClass verbose cs' = (negated, items, rest') ∧
      Ahead rest rest' := by
  have skipped := skip_ahead verbose ahead
  by_cases caret : (skip verbose cs).head? = some '^'
  · obtain ⟨more, left⟩ := List.head?_eq_some_iff.1 caret
    rw [left] at skipped
    rw [openClass_caret left, openClass_caret skipped.cons]
    exact ⟨true, firstMembers_ahead true (skip_ahead verbose (.append more))⟩
  · rw [openClass_of_ne caret, openClass_of_ne (skipped.head?_ne (by decide) caret)]
    exact ⟨false, firstMembers_ahead false skipped⟩

theorem readClassBody_follows {fuel fuel' : Nat} (enough : fuel ≤ fuel') (pending : Pending)
    (items : List ClassTree) :
    Follows (readClassBody verbose fuel pending items)
      (readClassBody verbose fuel' pending items) := by
  induction fuel generalizing fuel' pending items with
  | zero => exact fun _ _ _ _ _ read => nomatch read
  | succ fuel ih =>
    intro cs cs' x rest ahead read
    obtain ⟨fuel', rfl⟩ : ∃ more, fuel' = more + 1 := ⟨fuel' - 1, by omega⟩
    have enough := Nat.le_of_succ_le_succ enough
    rw [readClassBody] at read ⊢
    rcases skip_cases verbose ahead with none | ⟨c, more, left, left'⟩
    · rw [none] at read
      cases read
    · rw [left] at read
      rw [left']
      split at read
      · next none => cases none
      · next bracket =>
        cases bracket
        exact ok_ahead (.append _) read
      · next operator =>
        cases operator
        exact ih enough _ _ (.append _) read
      · next operator =>
        cases operator
        exact ih enough _ _ (.append _) read
      · next operator =>
        cases operator
        exact ih enough _ _ (.append _) read
      · next opened =>
        cases opened
        simp only [posixClass?_append] at read ⊢
        cases named : posixClass? more with
        | some found =>
          rw [named] at read
          exact ih enough _ _ (.append _) read
        | none =>
          rw [named] at read
          obtain ⟨negated, nested, r, r', opened, opened', ahead⟩ :=
            openClass_ahead verbose (.append more)
          simp only [opened] at read
          simp only [Option.map_none, opened']
          exact bind_ahead (ih enough none nested) ahead read fun body r r' ahead read =>
            ih enough _ _ ahead read
      · next noBracket noInter noDiff noSymm noOpen =>
        -- No operator has a parenthesis in it, so the one behind the text completes none.
        split
        · next none => cases none
        · next bracket =>
          cases bracket
          exact (noBracket more rfl).elim
        · next operator => exact False.elim ((exists_of_append (by decide) operator).elim noInter)
        · next operator => exact False.elim ((exists_of_append (by decide) operator).elim noDiff)
        · next operator => exact False.elim ((exists_of_append (by decide) operator).elim noSymm)
        · next opened =>
          cases opened
          exact (noOpen more rfl).elim
        · exact bind_ahead readMemberOrRange_follows (.append (c :: more)) read
            fun item r r' ahead read => ih enough _ _ ahead read

theorem readClass_follows : Follows (readClass verbose) (readClass verbose) := by
  intro cs cs' x rest ahead read
  rw [readClass] at read ⊢
  obtain ⟨negated, items, r, r', opened, opened', ahead⟩ := openClass_ahead verbose ahead
  rw [opened] at read
  rw [opened']
  have more := ahead.length_le
  exact bind_ahead (readClassBody_follows (by omega) none items) ahead read
    fun body r r' => ok_ahead

end IfaceMonitor.Pattern
