import IfaceMonitor.Pattern.Tree.Parser
import IfaceMonitor.Proofs.Pattern.Tree.Bracket

namespace IfaceMonitor.Pattern

variable {verbose : Bool} {cs cs' : List Char}

theorem readGreed_of_ne (plain : cs.head? ≠ some '?') : readGreed cs = (true, cs) := by
  unfold readGreed
  split
  · exact absurd rfl plain
  · rfl

theorem repeatSimply_follows (p : Progress) (min : Nat) (max : Option Nat) :
    Follows (repeatSimply p min max) (repeatSimply p min max) := by
  intro cs cs' x rest ahead read
  have next {greedy : Bool} {r r' : List Char} (ahead : Ahead r r')
      (read : (do .ok (← p.repeatLast ⟨min, max, greedy⟩, r) : Except Fault
        (Progress × List Char)) = .ok (x, rest)) :
      ∃ rest', (do .ok (← p.repeatLast ⟨min, max, greedy⟩, r') : Except Fault
        (Progress × List Char)) = .ok (x, rest') ∧
        Ahead rest rest' := by
    obtain ⟨q, repeated, same⟩ := bind_eq_ok.1 read
    cases same
    exact ⟨r', bind_eq_ok.2 ⟨_, repeated, rfl⟩, ahead⟩
  by_cases lazy : cs.head? = some '?'
  · obtain ⟨more, rfl⟩ := List.head?_eq_some_iff.1 lazy
    obtain rfl := ahead.cons
    exact next (.append more) read
  · rw [repeatSimply, readGreed_of_ne lazy] at read
    rw [repeatSimply, readGreed_of_ne (ahead.head?_ne (by decide) lazy)]
    exact next ahead read

theorem takeDigits_of_stop {fuel : Nat} (stop : ∀ c ∈ cs.head?, c.isDigit = false) :
    takeDigits verbose fuel cs = ([], cs) := by
  cases fuel with
  | zero => rfl
  | succ fuel =>
    cases cs with
    | nil => rfl
    | cons c cs => rw [takeDigits, stop c rfl, if_neg Bool.false_ne_true]

theorem takeDigits_ahead (verbose : Bool) {fuel fuel' : Nat} (enough : cs.length ≤ fuel)
    (enough' : cs'.length ≤ fuel') (ahead : Ahead cs cs') :
    ∃ digits rest rest', takeDigits verbose fuel cs = (digits, rest) ∧
      takeDigits verbose fuel' cs' = (digits, rest') ∧
      Ahead rest rest' := by
  induction fuel generalizing fuel' cs cs' with
  | zero =>
    obtain rfl := List.length_eq_zero_iff.1 (Nat.le_zero.1 enough)
    have stop : ∀ c ∈ cs'.head?, c.isDigit = false := by
      rcases ahead.nil with rfl | rfl <;> simp
    exact ⟨[], [], cs', rfl, takeDigits_of_stop stop, ahead⟩
  | succ fuel ih =>
    cases cs with
    | nil =>
      have stop : ∀ c ∈ cs'.head?, c.isDigit = false := by
        rcases ahead.nil with rfl | rfl <;> simp
      exact ⟨[], [], cs', rfl, takeDigits_of_stop stop, ahead⟩
    | cons c cs =>
      obtain rfl := ahead.cons
      obtain ⟨fuel', rfl⟩ : ∃ more, fuel' = more + 1 :=
        ⟨fuel' - 1, by simp at enough'; omega⟩
      rw [takeDigits, takeDigits]
      split
      · have fewer := Nat.le_trans (length_skip verbose cs) (Nat.le_of_succ_le_succ enough)
        have fewer' :=
          Nat.le_trans (length_skip verbose (cs ++ [')'])) (Nat.le_of_succ_le_succ enough')
        obtain ⟨digits, rest, rest', taken, taken', behind⟩ :=
          ih fewer fewer' (skip_ahead verbose (.append cs))
        rw [taken, taken']
        exact ⟨_, _, _, rfl, rfl, behind⟩
      · exact ⟨_, _, _, rfl, rfl, .append (c :: cs)⟩

theorem dropWhile_ahead (ahead : Ahead cs cs') :
    Ahead (cs.dropWhile Text.isBlank) (cs'.dropWhile Text.isBlank) := by
  rcases ahead with rfl | ⟨rfl, rfl⟩
  · rw [List.dropWhile_append]
    split
    · next none =>
      rw [List.isEmpty_iff.1 none]
      exact .append []
    · exact .append _
  · exact Or.inr ⟨rfl, rfl⟩

theorem readNumber_follows : Follows (readNumber verbose) (readNumber verbose) := by
  intro cs cs' x rest ahead read
  have fewer := (List.dropWhile_suffix (l := cs) Text.isBlank).length_le
  have fewer' := (List.dropWhile_suffix (l := cs') Text.isBlank).length_le
  obtain ⟨digits, r, r', taken, taken', behind⟩ :=
    takeDigits_ahead verbose fewer fewer' (dropWhile_ahead ahead)
  have behind := dropWhile_ahead (skip_ahead verbose behind)
  simp only [readNumber, taken] at read
  simp only [readNumber, taken']
  split at read
  · next none =>
    rw [if_pos none]
    exact ok_ahead behind read
  · next some =>
    rw [if_neg some]
    split at read
    · exact ok_ahead behind read
    · cases read

theorem readCounts_follows : Follows (readCounts verbose) (readCounts verbose) := by
  intro cs cs' x rest ahead read
  refine bind_ahead readNumber_follows (skip_ahead verbose ahead) read
    fun least r r' ahead read => ?_
  dsimp only at read ⊢
  split at read
  · next min more =>
    obtain rfl := ahead.cons
    simp only
    have skipped := skip_ahead verbose (.append more)
    split at read
    · next closed =>
      rw [closed] at skipped
      rw [skipped.cons]
      exact ok_ahead (.append _) read
    · next unclosed =>
      split
      · next closed =>
        refine absurd (by rw [closed]; rfl)
          (skipped.head?_ne (c := '\x7d') (by decide) fun found => ?_)
        obtain ⟨others, closed⟩ := List.head?_eq_some_iff.1 found
        exact unclosed others closed
      · refine bind_ahead readNumber_follows skipped read fun most r r' ahead read => ?_
        dsimp only at read ⊢
        split at read
        · obtain rfl := ahead.cons
          simp only
          split at read
          · next ordered =>
            rw [if_pos ordered]
            exact ok_ahead (.append _) read
          · cases read
        · cases read
  · obtain rfl := ahead.cons
    exact ok_ahead (.append _) read
  · cases read

theorem readFlagItems_follows (items : List FlagItem) :
    Follows (readFlagItems items) (readFlagItems items) := by
  intro cs cs' x rest ahead read
  induction cs generalizing items cs' with
  | nil => cases read
  | cons c cs ih =>
    obtain rfl := ahead.cons
    rw [readFlagItems] at read ⊢
    split at read
    · next ends =>
      rw [if_pos ends]
      split at read
      · cases read
      · next complete =>
        rw [if_neg complete]
        exact ok_ahead (.append (c :: cs)) read
    · next more =>
      rw [if_neg more]
      generalize (if c == '-' then FlagItem.negation else .flag c) = item at read ⊢
      dsimp only at read ⊢
      split at read
      · cases read
      · next fresh =>
        rw [if_neg fresh]
        exact ih _ (.append cs) read

theorem readGroupName_follows : Follows readGroupName readGroupName := by
  intro cs cs' x rest ahead read
  rcases ahead with rfl | ⟨rfl, rfl⟩
  · rw [readGroupName] at read ⊢
    rw [cutAt?_append rfl]
    split at read
    · next found =>
      rw [found]
      simp only [Option.map_some]
      split at read
      · next named =>
        rw [if_pos named]
        exact ok_ahead (.append _) read
      · cases read
    · cases read
  · cases read

def readNamedHead : Reader GroupHead := fun cs => do
  let (name, rest) ← readGroupName cs
  .ok (.capture (some name), rest)

def readFlagHead : Reader GroupHead := fun cs => do
  let (items, rest) ← readFlagItems [] cs
  match rest with
  | ')' :: rest => if items.isEmpty then .error .missingOperand else .ok (.setFlags items, rest)
  | ':' :: rest => .ok (.plain items, rest)
  | _ => .error .badFlags

theorem readNamedHead_follows : Follows readNamedHead readNamedHead := by
  intro cs cs' x rest ahead read
  exact bind_ahead readGroupName_follows ahead read fun name r r' => ok_ahead

theorem readFlagHead_follows : Follows readFlagHead readFlagHead := by
  intro cs cs' x rest ahead read
  refine bind_ahead (readFlagItems_follows []) ahead read fun items r r' ahead read => ?_
  dsimp only at read ⊢
  split at read
  · obtain rfl := ahead.cons
    simp only
    split at read
    · cases read
    · next some =>
      rw [if_neg some]
      exact ok_ahead (.append _) read
  · obtain rfl := ahead.cons
    exact ok_ahead (.append _) read
  · cases read

theorem readGroupHead_angle {more : List Char} (left : skip verbose cs = '?' :: '<' :: more)
    (noEqual : more.head? ≠ some '=') (noMark : more.head? ≠ some '!') :
    readGroupHead verbose cs = readNamedHead more := by
  rw [readGroupHead, left]
  split <;> grind [readNamedHead]

theorem readGroupHead_flags {more : List Char} (left : skip verbose cs = '?' :: more)
    (other : ∀ c ∈ ['=', '!', '<'], more.head? ≠ some c)
    (noName : more.take 2 ≠ ['P', '<']) :
    readGroupHead verbose cs = readFlagHead more := by
  rw [readGroupHead, left]
  split <;> grind [readFlagHead]

theorem readGroupHead_capture (plain : (skip verbose cs).head? ≠ some '?') :
    readGroupHead verbose cs = .ok (.capture none, skip verbose cs) := by
  rw [readGroupHead]
  split <;> simp_all

theorem readGroupHead_follows : Follows (readGroupHead verbose) (readGroupHead verbose) := by
  intro cs cs' x rest ahead read
  have skipped := skip_ahead verbose ahead
  have head {c : Char} {more : List Char} (never : ∀ rest, more = c :: rest → False) :
      more.head? ≠ some c := fun first =>
    (List.head?_eq_some_iff.1 first).elim never
  rw [readGroupHead] at read
  split at read
  · cases read
  · cases read
  · cases read
  · cases read
  · next left =>
    rw [left] at skipped
    rw [readGroupHead, skipped.cons]
    exact readNamedHead_follows (.append _) read
  · next more noEqual noMark left =>
    rw [left] at skipped
    have behind := Ahead.append more
    have noEqual' := behind.head?_ne (by decide) (head noEqual)
    have noMark' := behind.head?_ne (by decide) (head noMark)
    rw [readGroupHead_angle skipped.cons noEqual' noMark']
    exact readNamedHead_follows behind read
  · next more noEqual noMark _ _ noName noAngle left =>
    rw [left] at skipped
    have behind := Ahead.append more
    have other : ∀ c ∈ ['=', '!', '<'], (more ++ [')']).head? ≠ some c := by
      simp only [List.forall_mem_cons, List.not_mem_nil, false_imp_iff, implies_true, and_true]
      exact ⟨behind.head?_ne (by decide) (head noEqual),
        behind.head?_ne (by decide) (head noMark),
        behind.head?_ne (by decide) (head noAngle)⟩
    have noName' : (more ++ [')']).take 2 ≠ ['P', '<'] := by
      rcases more with _ | ⟨d, _ | ⟨e, more⟩⟩
      · decide
      · simp
      · rintro ⟨⟩
        exact noName more rfl
    rw [readGroupHead_flags skipped.cons other noName']
    exact readFlagHead_follows behind read
  · next plain =>
    rw [readGroupHead_capture (skipped.head?_ne (by decide) (head plain))]
    exact ok_ahead skipped read

theorem readAtom_ahead {c : Char} {more rest : List Char} {x : Tree}
    (read : readAtom verbose (c :: more) = .ok (x, rest)) :
    ∃ rest', readAtom verbose (c :: (more ++ [')'])) = .ok (x, rest') ∧ Ahead rest rest' := by
  have behind := Ahead.append more
  rw [readAtom.eq_def] at read
  split at read
  · next none => cases none
  · next opened =>
    cases opened
    refine bind_ahead readEscape_follows behind read fun escape r r' ahead read => ?_
    cases escape <;> exact ok_ahead ahead read
  · next dot =>
    cases dot
    exact ok_ahead behind read
  · next caret =>
    cases caret
    exact ok_ahead behind read
  · next dollar =>
    cases dollar
    exact ok_ahead behind read
  · next bracket =>
    cases bracket
    exact readClass_follows behind read
  · next noEscape noDot noCaret noDollar noBracket same =>
    cases same
    rw [readAtom]
    · exact ok_ahead behind read
    all_goals assumption

theorem closeGroup_follows (p q : Progress) (kind : GroupKind) :
    Follows (closeGroup p q kind) (closeGroup p q kind) := by
  intro cs cs' x rest ahead read
  rw [closeGroup.eq_def] at read
  split at read
  · obtain rfl := ahead.cons
    exact ok_ahead (.append _) read
  · cases read

theorem readSequence_atom {fuel : Nat} {p : Progress} {c : Char} {more : List Char}
    (left : skip verbose cs = c :: more) (plain : c ∉ [')', '|', '?', '*', '+', '\x7b', '(']) :
    readSequence (fuel + 1) verbose p cs =
      readAtom verbose (c :: more) >>= fun q => readSequence fuel verbose (p.push q.1) q.2 := by
  simp only [List.mem_cons, List.not_mem_nil, or_false, not_or] at plain
  rw [readSequence, left]
  split <;> grind

theorem readSequence_atom_ahead {fuel fuel' : Nat} {p x : Progress} {c : Char}
    {more rest : List Char}
    (goesOn : ∀ p, Follows (readSequence fuel verbose p) (readSequence fuel' verbose p))
    (left : skip verbose cs = c :: (more ++ [')']))
    (plain : c ∉ [')', '|', '?', '*', '+', '\x7b', '('])
    (read : (readAtom verbose (c :: more) >>= fun q => readSequence fuel verbose (p.push q.1) q.2) =
      .ok (x, rest)) :
    ∃ rest', readSequence (fuel' + 1) verbose p cs = .ok (x, rest') ∧ Ahead rest rest' := by
  obtain ⟨⟨item, r⟩, own, read⟩ := bind_eq_ok.1 read
  obtain ⟨r', own', ahead⟩ := readAtom_ahead own
  obtain ⟨rest', read', ahead⟩ := goesOn _ ahead read
  rw [readSequence_atom left plain]
  exact ⟨rest', bind_eq_ok.2 ⟨_, own', read'⟩, ahead⟩

theorem readSequence_follows {fuel fuel' : Nat} (enough : fuel ≤ fuel') (p : Progress) :
    Follows (readSequence fuel verbose p) (readSequence fuel' verbose p) := by
  -- A group is a sequence too and may be read with other flags, hence the general `verbose`.
  induction fuel generalizing fuel' verbose p with
  | zero => exact fun _ _ _ _ _ read => nomatch read
  | succ fuel ih =>
    obtain ⟨fuel', rfl⟩ : ∃ more, fuel' = more + 1 := ⟨fuel' - 1, by omega⟩
    have goesOn (verbose : Bool) (p : Progress) :
        Follows (readSequence fuel verbose p) (readSequence fuel' verbose p) :=
      ih (Nat.le_of_succ_le_succ enough) p
    have repeats (min : Nat) (max : Option Nat) :
        Follows (fun cs => repeatSimply p min max cs >>= fun q => readSequence fuel verbose q.1 q.2)
          (fun cs => repeatSimply p min max cs >>= fun q => readSequence fuel' verbose q.1 q.2) :=
      fun _ _ _ _ ahead read =>
        bind_ahead (repeatSimply_follows p min max) ahead read fun p _ _ ahead =>
          goesOn verbose p ahead
    have closes (q : Progress) (kind : GroupKind) :
        Follows (fun cs => closeGroup p q kind cs >>= fun q => readSequence fuel verbose q.1 q.2)
          (fun cs => closeGroup p q kind cs >>= fun q => readSequence fuel' verbose q.1 q.2) :=
      fun _ _ _ _ ahead read =>
        bind_ahead (closeGroup_follows p q kind) ahead read fun p _ _ ahead =>
          goesOn verbose p ahead
    intro cs cs' x rest ahead read
    have skipped := skip_ahead verbose ahead
    rw [readSequence] at read
    split at read
    · next none =>
      rw [none] at skipped
      cases read
      rw [readSequence]
      rcases skipped.nil with none' | closed
      · rw [none']
        exact ⟨_, rfl, .inr ⟨rfl, rfl⟩⟩
      · rw [closed]
        exact ⟨_, rfl, .append []⟩
    · next closed =>
      rw [closed] at skipped
      rw [readSequence, skipped.cons]
      exact ok_ahead (.append _) read
    · next bar =>
      rw [bar] at skipped
      rw [readSequence, skipped.cons]
      exact goesOn verbose _ (.append _) read
    · next operator =>
      rw [operator] at skipped
      rw [readSequence, skipped.cons]
      exact repeats 0 (some 1) (.append _) read
    · next operator =>
      rw [operator] at skipped
      rw [readSequence, skipped.cons]
      exact repeats 0 none (.append _) read
    · next operator =>
      rw [operator] at skipped
      rw [readSequence, skipped.cons]
      exact repeats 1 none (.append _) read
    · next brace =>
      rw [brace] at skipped
      rw [readSequence, skipped.cons]
      exact bind_ahead readCounts_follows (.append _) read fun counts r r' ahead =>
        repeats _ _ (skip_ahead verbose ahead)
    · next opened =>
      rw [opened] at skipped
      rw [readSequence, skipped.cons]
      refine bind_ahead readGroupHead_follows (.append _) read fun head r r' ahead read => ?_
      cases head with
      | setFlags items => exact goesOn _ _ ahead read
      | plain items => exact bind_ahead (goesOn _ _) ahead read fun q r r' ahead => closes q _ ahead
      | capture name =>
        obtain ⟨captures, added, read⟩ := bind_eq_ok.1 read
        dsimp only
        rw [added]
        exact bind_ahead (goesOn _ _) ahead read fun q r r' ahead => closes q _ ahead
    · next none closed bar optional star plus brace opened =>
      rcases skip_cases verbose ahead with left | ⟨c, more, left, left'⟩
      · exact (none left).elim
      · rw [left] at read
        have other {d : Char} (never : ∀ rest, skip verbose cs = d :: rest → False) : c ≠ d := by
          rintro rfl
          exact never more left
        have plain : c ∉ [')', '|', '?', '*', '+', '\x7b', '('] := by
          simp only [List.mem_cons, List.not_mem_nil, or_false, not_or]
          exact ⟨other closed, other bar, other optional, other star, other plus,
            other brace, other opened⟩
        exact readSequence_atom_ahead (goesOn verbose) left' plain read

end IfaceMonitor.Pattern
