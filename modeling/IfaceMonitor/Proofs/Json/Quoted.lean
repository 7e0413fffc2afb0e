import IfaceMonitor.Json.Parser
import IfaceMonitor.Json.Printer

namespace IfaceMonitor.Json

theorem digitValue?_hexDigit : ∀ n < 16, Text.digitValue? 16 (hexDigit n) = some n := by
  decide

theorem readHex?_codeEscape {n : Nat} (small : n < 65536) (more : List Char) :
    readHex? (hexDigit (n / 4096 % 16) :: hexDigit (n / 256 % 16) :: hexDigit (n / 16 % 16) ::
      hexDigit (n % 16) :: more) =
      some (n, more) := by
  have digit (k : Nat) := digitValue?_hexDigit (k % 16) (Nat.mod_lt k (by decide))
  simp only [readHex?, List.foldlM_cons, List.foldlM_nil, digit, Option.map_some, Option.pure_def,
    Option.bind_eq_bind, Option.bind_some]
  congr 2
  omega

theorem readCode?_of_basic {n : Nat} (basic : n < 0xD800) {cs more : List Char}
    (h : readHex? cs = some (n, more)) :
    readCode? cs = some (some (Char.ofNat n), more) := by
  unfold readCode?
  rw [h]
  simp only [Option.bind_eq_bind, Option.bind_some]
  rw [if_neg (by simp; omega), if_neg (by simp; omega)]

theorem readString?_backslash (fuel : Nat) {c : Char} {cs more : List Char}
    (h : readEscape? cs = some (some c, more)) :
    readString? (fuel + 1) ('\\' :: cs) =
      (readString? fuel more).map fun found => (found.1.map (c :: ·), found.2) := by
  rw [readString?, if_neg (by decide), if_pos (by decide), h]
  simp only [Option.bind_eq_bind, Option.bind_some]
  rcases readString? fuel more with _ | ⟨_ | text, rest⟩ <;> rfl

theorem readString?_plain (fuel : Nat) {c : Char} (quote : c ≠ '"') (backslash : c ≠ '\\')
    (visible : ¬c.toNat < 0x20) (more : List Char) :
    readString? (fuel + 1) (c :: more) =
      (readString? fuel more).map fun found => (found.1.map (c :: ·), found.2) := by
  rw [readString?, if_neg (by simpa using quote), if_neg (by simpa using backslash), if_neg visible]
  rcases readString? fuel more with _ | ⟨_ | text, rest⟩ <;> rfl

theorem readString?_escapeChar (fuel : Nat) (c : Char) (more : List Char) :
    readString? (fuel + 1) (escapeChar c ++ more) =
      (readString? fuel more).map fun found => (found.1.map (c :: ·), found.2) := by
  rw [escapeChar]
  repeat' split
  -- The characters with an escape of their own come first, then those that are written by their
  -- code.
  iterate 7
    · next same =>
      subst same
      exact readString?_backslash fuel rfl
  · next control =>
    have code :=
      readCode?_of_basic (by omega) (readHex?_codeEscape (by omega : c.toNat < 65536) more)
    rw [Char.ofNat_toNat] at code
    exact readString?_backslash fuel code
  · next quote backslash _ _ _ _ _ visible =>
      exact readString?_plain fuel quote backslash visible more

theorem readString?_quoted (text : List Char) (rest : List Char) {fuel : Nat}
    (enough : text.length < fuel) :
    readString? fuel (text.flatMap escapeChar ++ '"' :: rest) = some (some text, rest) := by
  induction text generalizing fuel with
  | nil =>
    obtain ⟨fuel, rfl⟩ := Nat.exists_eq_add_of_lt enough
    rfl
  | cons c text ih =>
    obtain ⟨fuel, rfl⟩ : ∃ n, fuel = n + 1 := ⟨fuel - 1, by omega⟩
    rw [List.flatMap_cons, List.append_assoc, readString?_escapeChar, ih (by simpa using enough)]
    rfl

end IfaceMonitor.Json
