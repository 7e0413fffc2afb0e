import IfaceMonitor.Json.Number

namespace IfaceMonitor.Json

def EndsNumber (rest : List Char) : Prop :=
  ∀ c ∈ rest.head?, Decimal.isDigit c = false ∧ c ≠ '.' ∧ c ≠ 'e' ∧ c ≠ 'E'

theorem endsNumber_nil : EndsNumber [] := by
  intro c hc
  cases hc

theorem endsNumber_cons {c : Char}
    (stop : Decimal.isDigit c = false ∧ c ≠ '.' ∧ c ≠ 'e' ∧ c ≠ 'E')
    (rest : List Char) :
    EndsNumber (c :: rest) := by
  intro d hd
  cases hd
  exact stop

theorem digitSpan_cons (c : Char) (cs : List Char) :
    digitSpan (c :: cs) =
      if Decimal.isDigit c then (c :: (digitSpan cs).1, (digitSpan cs).2) else ([], c :: cs) := by
  unfold digitSpan
  by_cases digit : Decimal.isDigit c = true
  · rw [if_pos digit, List.takeWhile_cons_of_pos digit, List.dropWhile_cons_of_pos digit]
  · rw [if_neg digit, List.takeWhile_cons_of_neg digit, List.dropWhile_cons_of_neg digit]

theorem readWhole?_eq_some {cs digits rest : List Char} :
    readWhole? cs = some (digits, rest) ↔
      digitSpan cs = (digits, rest) ∧ digits ≠ [] ∧ ∀ d ds, digits ≠ '0' :: d :: ds := by
  unfold readWhole?
  split
  · next none =>
    rw [none]
    grind
  · next leading =>
    rw [leading]
    grind
  · next filled single =>
    rw [Option.some.injEq]
    refine ⟨fun same => ⟨same, ?_, ?_⟩, fun ⟨same, _⟩ => same⟩
    · rintro rfl
      exact filled _ same
    · rintro d ds rfl
      exact single _ _ _ same

section Append
variable {cs more : List Char} (ends : EndsNumber more)
include ends

theorem digitSpan_append (cs : List Char) :
    digitSpan (cs ++ more) = ((digitSpan cs).1, (digitSpan cs).2 ++ more) := by
  induction cs with
  | nil =>
    cases more with
    | nil => rfl
    | cons c more =>
      have stop := (ends c rfl).1
      rw [List.nil_append, digitSpan_cons, if_neg (by simp [stop])]
      rfl
  | cons c cs ih =>
    rw [List.cons_append, digitSpan_cons, digitSpan_cons, ih]
    split <;> rfl

theorem readWhole?_append {digits rest : List Char} (h : readWhole? cs = some (digits, rest)) :
    readWhole? (cs ++ more) = some (digits, rest ++ more) := by
  obtain ⟨span, nonempty, single⟩ := readWhole?_eq_some.1 h
  rw [readWhole?_eq_some, digitSpan_append ends, span]
  exact ⟨rfl, nonempty, single⟩

theorem readFraction?_append {fraction : Option (List Char)} {rest : List Char}
    (h : readFraction? cs = some (fraction, rest)) :
    readFraction? (cs ++ more) = some (fraction, rest ++ more) := by
  unfold readFraction? at h
  split at h
  · next cs =>
    rw [List.cons_append, readFraction?, digitSpan_append ends]
    rcases span : digitSpan cs with ⟨_ | ⟨d, ds⟩, left⟩
    · simp only [span] at h
      cases h
    · simp only [span] at h
      cases h
      rfl
  · next noPoint =>
    cases h
    rw [readFraction?]
    intro tail point
    rcases cs with _ | ⟨c, cs⟩
    · exact (ends '.' (by rw [← List.nil_append more, point]; rfl)).2.1 rfl
    · rw [List.cons_append] at point
      cases point
      exact noPoint _ rfl

theorem readPower?_append {power : Option Int} {rest : List Char}
    (h : readPower? cs = some (power, rest)) :
    readPower? (cs ++ more) = some (power, rest ++ more) := by
  have signed : readSign (cs ++ more) = ((readSign cs).1, (readSign cs).2 ++ more) := by
    rcases cs with _ | ⟨c, cs⟩
    · cases h
    · rw [List.cons_append, readSign.eq_def, readSign.eq_def]
      grind
  unfold readPower? at h ⊢
  rw [signed]
  dsimp only at h ⊢
  rw [digitSpan_append ends]
  rcases span : digitSpan (readSign cs).2 with ⟨_ | ⟨d, ds⟩, left⟩
  · simp only [span] at h
    cases h
  · simp only [span, Option.map_eq_some_iff, Prod.mk.injEq] at h ⊢
    obtain ⟨e, read, same, rfl⟩ := h
    exact ⟨e, read, same, rfl⟩

theorem readExponent?_append {power : Option Int} {rest : List Char}
    (h : readExponent? cs = some (power, rest)) :
    readExponent? (cs ++ more) = some (power, rest ++ more) := by
  unfold readExponent? at h
  split at h
  · exact readPower?_append ends h
  · exact readPower?_append ends h
  · next noLower noUpper =>
    cases h
    rcases cs with _ | ⟨c, cs⟩
    · rcases more with _ | ⟨c, more⟩
      · rfl
      · obtain ⟨-, -, lower, upper⟩ := ends c rfl
        rw [List.nil_append, readExponent?]
        · intro tail same
          cases same
          exact lower rfl
        · intro tail same
          cases same
          exact upper rfl
    · rw [List.cons_append, readExponent?]
      · intro tail same
        cases same
        exact noLower _ rfl
      · intro tail same
        cases same
        exact noUpper _ rfl

theorem readUnsignedNumeral?_append {negative : Bool} {numeral : Numeral} {rest : List Char}
    (h : readUnsignedNumeral? negative cs = some (numeral, rest)) :
    readUnsignedNumeral? negative (cs ++ more) = some (numeral, rest ++ more) := by
  simp only [readUnsignedNumeral?, Option.bind_eq_bind, Option.bind_eq_some_iff,
    Prod.exists] at h ⊢
  obtain ⟨whole, afterWhole, hwhole, fraction, afterFraction, hfraction, exponent, afterAll,
    hexponent, same⟩ := h
  cases same
  exact ⟨whole, _, readWhole?_append ends hwhole, fraction, _,
    readFraction?_append ends hfraction, exponent, _,
    readExponent?_append ends hexponent, rfl⟩

theorem readNumeral?_append {numeral : Numeral} {rest : List Char}
    (h : readNumeral? cs = some (numeral, rest)) :
    readNumeral? (cs ++ more) = some (numeral, rest ++ more) := by
  unfold readNumeral? at h
  split at h
  · exact readUnsignedNumeral?_append ends h
  · next unsigned =>
    rcases cs with _ | ⟨c, cs⟩
    · cases h
    · rw [readNumeral?]
      · exact readUnsignedNumeral?_append ends h
      · intro tail same
        cases same
        exact unsigned _ rfl

theorem readNumber?_append {value : Json} {rest : List Char}
    (h : readNumber? cs = some (value, rest)) :
    readNumber? (cs ++ more) = some (value, rest ++ more) := by
  simp only [readNumber?, Option.bind_eq_bind, Option.bind_eq_some_iff, Prod.exists] at h ⊢
  obtain ⟨numeral, left, read, same⟩ := h
  cases same
  exact ⟨numeral, _, readNumeral?_append ends read, rfl⟩

end Append

theorem head_of_readNumber? {cs rest : List Char} {value : Json}
    (h : readNumber? cs = some (value, rest)) :
    ∃ c tail, cs = c :: tail ∧ ∀ d, d ≠ '-' → Decimal.isDigit d = false → c ≠ d := by
  simp only [readNumber?, Option.bind_eq_bind, Option.bind_eq_some_iff, Prod.exists] at h
  obtain ⟨numeral, left, read, -⟩ := h
  unfold readNumeral? at read
  split at read
  · exact ⟨'-', _, rfl, fun d other _ => other.symm⟩
  · simp only [readUnsignedNumeral?, Option.bind_eq_bind, Option.bind_eq_some_iff,
      Prod.exists] at read
    obtain ⟨whole, afterWhole, hwhole, -⟩ := read
    rcases cs with _ | ⟨c, cs⟩
    · cases hwhole
    · refine ⟨c, cs, rfl, ?_⟩
      rintro d - noDigit rfl
      rw [readWhole?, digitSpan_cons, noDigit] at hwhole
      cases hwhole

end IfaceMonitor.Json
