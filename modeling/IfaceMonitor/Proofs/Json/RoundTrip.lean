import IfaceMonitor.Proofs.Json.Number
import IfaceMonitor.Proofs.Json.Quoted

/-!
JSON text and the values in it. Both forms of text, with and without white space, are one layout
(`layOut_dense`, `layOut_lines`), and from a layout every value is read back that is not nested too
deeply and whose numbers survive their own text (`parse?_layOut`).
-/

namespace IfaceMonitor.Json

structure Layout where
  gap : Nat → List Char
  colon : List Char

namespace Layout

structure White (l : Layout) : Prop where
  gap : ∀ level, ∀ c ∈ l.gap level, isSpace c = true
  colon : ∀ c ∈ l.colon, isSpace c = true

def dense : Layout := ⟨fun _ => [], []⟩

def lines : Layout := ⟨newLine, [' ']⟩

theorem dense_white : dense.White where
  gap _ _ h := by cases h
  colon _ h := by cases h

theorem lines_white : lines.White where
  gap level c h := by
    rcases List.mem_cons.1 h with rfl | h
    · rfl
    · rw [List.eq_of_mem_replicate h]
      rfl
  colon c h := by
    rw [List.mem_singleton.1 h]
    rfl

end Layout

mutual

def layOut (l : Layout) (level : Nat) : Json → List Char
  | .arr [] => ['[', ']']
  | .arr (value :: rest) =>
    '[' :: l.gap (level + 1) ++ layOut l (level + 1) value ++ layOutItems l level rest
  | .obj [] => ['\x7b', '\x7d']
  | .obj ((name, value) :: rest) =>
    '\x7b' :: l.gap (level + 1) ++ quoteWith escapeChar name ++ ':' :: l.colon ++
      layOut l (level + 1) value ++
      layOutMembers l level rest
  | value => scalarText escapeChar value

def layOutItems (l : Layout) (level : Nat) : List Json → List Char
  | [] => l.gap level ++ [']']
  | value :: rest =>
    ',' :: l.gap (level + 1) ++ layOut l (level + 1) value ++ layOutItems l level rest

def layOutMembers (l : Layout) (level : Nat) : List (String × Json) → List Char
  | [] => l.gap level ++ ['\x7d']
  | (name, value) :: rest =>
    ',' :: l.gap (level + 1) ++ quoteWith escapeChar name ++ ':' :: l.colon ++
      layOut l (level + 1) value ++
      layOutMembers l level rest

end

mutual

theorem layOut_dense (level : Nat) (v : Json) :
    layOut .dense level v = compactWith escapeChar v := by
  match v with
  | .null | .unreadable | .bool _ | .int _ | .float _ | .str _ => rfl
  | .arr [] | .obj [] => rfl
  | .arr (value :: rest) =>
    rw [layOut, compactWith, layOut_dense, layOutItems_dense]
    rfl
  | .obj ((name, value) :: rest) =>
    rw [layOut, compactWith, layOut_dense, layOutMembers_dense]
    simp [Layout.dense]

theorem layOutItems_dense (level : Nat) (items : List Json) :
    layOutItems .dense level items = compactItems escapeChar items := by
  match items with
  | [] => rfl
  | value :: rest =>
    rw [layOutItems, compactItems, layOut_dense, layOutItems_dense]
    rfl

theorem layOutMembers_dense (level : Nat) (members : List (String × Json)) :
    layOutMembers .dense level members = compactMembers escapeChar members := by
  match members with
  | [] => rfl
  | (name, value) :: rest =>
    rw [layOutMembers, compactMembers, layOut_dense, layOutMembers_dense]
    simp [Layout.dense]

end

mutual

theorem layOut_lines (level : Nat) (v : Json) : layOut .lines level v = prettyAt level v := by
  match v with
  | .null | .unreadable | .bool _ | .int _ | .float _ | .str _ => rfl
  | .arr [] | .obj [] => rfl
  | .arr (value :: rest) =>
    rw [layOut, prettyAt, layOut_lines, layOutItems_lines]
    rfl
  | .obj ((name, value) :: rest) =>
    rw [layOut, prettyAt, layOut_lines, layOutMembers_lines]
    simp [Layout.lines]

theorem layOutItems_lines (level : Nat) (items : List Json) :
    layOutItems .lines level items = prettyItems level items := by
  match items with
  | [] => rfl
  | value :: rest =>
    rw [layOutItems, prettyItems, layOut_lines, layOutItems_lines]
    rfl

theorem layOutMembers_lines (level : Nat) (members : List (String × Json)) :
    layOutMembers .lines level members = prettyMembers level members := by
  match members with
  | [] => rfl
  | (name, value) :: rest =>
    rw [layOutMembers, prettyMembers, layOut_lines, layOutMembers_lines]
    simp [Layout.lines]

end

def Survives (x : Float) : Prop :=
  readNumber? (floatText x) = some (.float x, [])

instance (x : Float) : Decidable (Survives x) :=
  match read : readNumber? (floatText x) with
  | some (.float y, []) =>
    if same : y = x then .isTrue (same ▸ read) else .isFalse fun survives =>
      same (by cases read.symm.trans survives; rfl)
  | some (.float _, _ :: _) | none => .isFalse fun survives => nomatch read.symm.trans survives
  | some (.null, _) | some (.bool _, _) | some (.int _, _) | some (.str _, _) | some
      (.arr _, _) | some (.obj _, _) |
    some (.unreadable, _) => .isFalse fun survives => nomatch read.symm.trans survives

mutual

def Writable : Nat → Json → Prop
  | _, .null | _, .bool _ | _, .str _ => True
  | _, .unreadable => False
  | _, .int n => readNumber? (toString n).toList = some (.int n, [])
  | _, .float x => x.isFinite = true ∧ Survives x
  | levels, .arr items => 0 < levels ∧ WritableItems (levels - 1) items
  | levels, .obj members => 0 < levels ∧ WritableMembers (levels - 1) members

def WritableItems : Nat → List Json → Prop
  | _, [] => True
  | levels, value :: rest => Writable levels value ∧ WritableItems levels rest

def WritableMembers : Nat → List (String × Json) → Prop
  | _, [] => True
  | levels, (_, value) :: rest => Writable levels value ∧ WritableMembers levels rest

end

theorem skipSpace_append {space : List Char} (white : ∀ c ∈ space, isSpace c = true)
    (cs : List Char) :
    skipSpace (space ++ cs) = skipSpace cs :=
  List.dropWhile_append_of_pos white

theorem skipSpace_of_head {c : Char} (visible : isSpace c = false) (cs : List Char) :
    skipSpace (c :: cs) = c :: cs :=
  List.dropWhile_cons_of_neg (by simp [visible])

theorem endsNumber_of_white {space : List Char} (white : ∀ c ∈ space, isSpace c = true)
    {rest : List Char} (ends : EndsNumber rest) : EndsNumber (space ++ rest) := by
  rcases space with _ | ⟨c, space⟩
  · exact ends
  · have first := white c List.mem_cons_self
    have blank : c = ' ' ∨ c = '\n' ∨ c = '\t' ∨ c = '\r' := by
      simpa [isSpace, or_assoc] using first
    rcases blank with rfl | rfl | rfl | rfl <;> exact endsNumber_cons (by decide) _

section Scalars
variable {fuel : Nat} {rest : List Char}

def StartsScalar (c : Char) : Prop :=
  isSpace c = false ∧ c ≠ '[' ∧ c ≠ ']' ∧ c ≠ '\x7b' ∧ c ≠ '\x7d'

instance (c : Char) : Decidable (StartsScalar c) :=
  inferInstanceAs (Decidable (_ ∧ _))

theorem readScalar?_str (s : String) (enough : s.toList.length < fuel) (rest : List Char) :
    readScalar? fuel (quoteWith escapeChar s ++ rest) = some (.str s, rest) := by
  simp only [quoteWith, List.cons_append, List.append_assoc, List.nil_append, readScalar?]
  rw [readString?_quoted s.toList rest enough]
  simp

theorem readScalar?_number {cs : List Char} {value : Json} (h : readNumber? cs = some (value, []))
    (ends : EndsNumber rest) :
    readScalar? fuel (cs ++ rest) = some (value, rest) ∧ ∃ c ∈ cs.head?, StartsScalar c := by
  obtain ⟨c, tail, rfl, other⟩ := head_of_readNumber? h
  refine ⟨?_, c, rfl, ?_⟩
  · have number : readNumber? (c :: tail ++ rest) = some (value, rest) := readNumber?_append ends h
    rw [List.cons_append] at number ⊢
    rw [readScalar?]
    · exact number
    all_goals
      intro _ same
      exact other _ (by decide) (by decide) (List.cons.inj same).1
  · refine ⟨?_, other _ (by decide) (by decide), other _ (by decide) (by decide),
      other _ (by decide) (by decide),
      other _ (by decide) (by decide)⟩
    simp [isSpace, other ' ' (by decide) (by decide), other '\n' (by decide) (by decide),
      other '\t' (by decide) (by decide), other '\r' (by decide) (by decide)]

theorem escapeChar_ne_nil (c : Char) : escapeChar c ≠ [] := by
  rw [escapeChar]
  repeat' split
  all_goals simp [codeEscape]

theorem length_le_quoted (s : String) :
    s.toList.length + 2 ≤ (quoteWith escapeChar s).length := by
  have escaped (cs : List Char) : cs.length ≤ (cs.flatMap escapeChar).length := by
    induction cs with
    | nil => exact Nat.le_refl 0
    | cons c cs ih =>
      have filled := List.length_pos_iff.2 (escapeChar_ne_nil c)
      rw [List.flatMap_cons, List.length_append, List.length_cons]
      omega
  have letters := escaped s.toList
  simp only [quoteWith, List.cons_append, List.length_cons, List.length_append, List.length_nil]
  omega

def IsScalar : Json → Prop
  | .arr _ | .obj _ => False
  | _ => True

theorem readScalar?_scalarText {v : Json} (scalar : IsScalar v) {levels : Nat}
    (writable : Writable levels v) (enough : (scalarText escapeChar v).length ≤ fuel)
    (ends : EndsNumber rest) :
    readScalar? fuel (scalarText escapeChar v ++ rest) = some (v, rest) ∧
      ∃ c ∈ (scalarText escapeChar v).head?, StartsScalar c := by
  match v with
  | .null => exact ⟨rfl, 'n', rfl, by decide⟩
  | .bool true => exact ⟨rfl, 't', rfl, by decide⟩
  | .bool false => exact ⟨rfl, 'f', rfl, by decide⟩
  | .str s =>
    have long := length_le_quoted s
    rw [scalarText] at enough ⊢
    exact ⟨readScalar?_str s (by omega) rest, '"', rfl, by decide⟩
  | .int n => exact readScalar?_number writable ends
  | .float x =>
    rw [scalarText, if_pos writable.1]
    exact readScalar?_number writable.2 ends

theorem readName?_quoted {space : List Char} (white : ∀ c ∈ space, isSpace c = true)
    (name : String) (enough : name.toList.length < fuel) (rest : List Char) :
    readName? fuel (space ++ (quoteWith escapeChar name ++ ':' :: rest)) =
      some (some name, rest) := by
  rw [readName?, skipSpace_append white]
  simp only [quoteWith, List.cons_append, List.append_assoc, List.nil_append]
  rw [skipSpace_of_head (by decide)]
  simp only [readString?_quoted name.toList _ enough, Option.bind_eq_bind, Option.bind_some]
  rw [skipSpace_of_head (by decide)]
  simp

end Scalars

section Steps
variable {fuel levels : Nat} {space cs tail rest : List Char} {c : Char}
  (blank : ∀ c ∈ space, isSpace c = true)
include blank

theorem readValue?_scalar {v : Json} (starts : StartsScalar c)
    (read : readScalar? (fuel + 1) (c :: tail) = some (v, rest)) :
    readValue? (fuel + 1) levels (space ++ c :: tail) = some (v, rest) := by
  obtain ⟨visible, array, -, object, -⟩ := starts
  rw [readValue?, skipSpace_append blank, skipSpace_of_head visible]
  split
  · next same => exact (array (List.cons.inj same).1).elim
  · next same => exact (object (List.cons.inj same).1).elim
  · exact read

theorem readValue?_array {items : List Json} (within : 0 < levels)
    (filled : skipSpace cs = c :: tail) (bracket : c ≠ ']')
    (read : readItems? fuel (levels - 1) (c :: tail) = some (items, rest)) :
    readValue? (fuel + 1) levels (space ++ '[' :: cs) = some (.arr items, rest) := by
  rw [readValue?, skipSpace_append blank, skipSpace_of_head (by decide)]
  simp only [if_neg (Nat.ne_of_gt within), filled]
  split
  · next same => exact (bracket (List.cons.inj same).1).elim
  · rw [read, Option.map_some]

theorem readValue?_object {members : List (String × Json)} (within : 0 < levels)
    (filled : skipSpace cs = c :: tail) (brace : c ≠ '\x7d')
    (read : readMembers? fuel (levels - 1) (c :: tail) = some (some members, rest)) :
    readValue? (fuel + 1) levels (space ++ '\x7b' :: cs) = some (.obj members, rest) := by
  rw [readValue?, skipSpace_append blank, skipSpace_of_head (by decide)]
  simp only [if_neg (Nat.ne_of_gt within), filled]
  split
  · next same => exact (brace (List.cons.inj same).1).elim
  · rw [read, Option.map_some]
    rfl

end Steps

section Values
variable {l : Layout} (white : l.White)
include white

theorem layOutItems_endsNumber (level : Nat) (items : List Json) (rest : List Char) :
    EndsNumber (layOutItems l level items ++ rest) := by
  rcases items with _ | ⟨value, items⟩
  · rw [layOutItems, List.append_assoc]
    exact endsNumber_of_white (white.gap level) (endsNumber_cons (by decide) _)
  · exact endsNumber_cons (by decide) _

theorem layOutMembers_endsNumber (level : Nat) (members : List (String × Json))
    (rest : List Char) :
    EndsNumber (layOutMembers l level members ++ rest) := by
  rcases members with _ | ⟨⟨name, value⟩, members⟩
  · rw [layOutMembers, List.append_assoc]
    exact endsNumber_of_white (white.gap level) (endsNumber_cons (by decide) _)
  · exact endsNumber_cons (by decide) _

omit white in
theorem head_layOut {levels : Nat} {v : Json} (writable : Writable levels v) (level : Nat) :
    ∃ c ∈ (layOut l level v).head?, isSpace c = false ∧ c ≠ ']' := by
  have scalar {w : Json} (scalar : IsScalar w) (writable : Writable levels w) :
      ∃ c ∈ (scalarText escapeChar w).head?, isSpace c = false ∧ c ≠ ']' := by
    obtain ⟨-, c, first, visible, -, bracket, -⟩ :=
      readScalar?_scalarText scalar writable (Nat.le_refl _) endsNumber_nil
    exact ⟨c, first, visible, bracket⟩
  match v with
  | .arr [] | .arr (_ :: _) => exact ⟨'[', rfl, by decide⟩
  | .obj [] | .obj (_ :: _) => exact ⟨'\x7b', rfl, by decide⟩
  | .null | .bool _ | .int _ | .float _ | .str _ => exact scalar trivial writable

omit white in
theorem length_layOut_pos {levels : Nat} {v : Json} (writable : Writable levels v) (level : Nat) :
    0 < (layOut l level v).length := by
  obtain ⟨c, head, -⟩ := head_layOut (l := l) writable level
  obtain ⟨tail, text⟩ := List.head?_eq_some_iff.1 head
  rw [text, List.length_cons]
  omega

mutual

theorem readValue?_layOut {fuel levels level : Nat} (v : Json) (writable : Writable levels v)
    (enough : 2 * (layOut l level v).length ≤ fuel) {space rest : List Char}
    (blank : ∀ c ∈ space, isSpace c = true) (ends : EndsNumber rest) :
    readValue? fuel levels (space ++ (layOut l level v ++ rest)) = some (v, rest) := by
  -- At most two calls begin at one character, hence fuel for twice the length of the text.
  obtain ⟨fuel, rfl⟩ : ∃ n, fuel = n + 1 :=
    ⟨fuel - 1, by have := length_layOut_pos writable level (l := l); omega⟩
  have scalar {w : Json} (scalar : IsScalar w) (writable : Writable levels w)
      (enough : 2 * (scalarText escapeChar w).length ≤ fuel + 1) :
      readValue? (fuel + 1) levels (space ++ (scalarText escapeChar w ++ rest)) =
          some (w, rest) := by
    have short : (scalarText escapeChar w).length ≤ fuel + 1 := by omega
    obtain ⟨read, c, first, starts⟩ := readScalar?_scalarText scalar writable short ends
    obtain ⟨tail, text⟩ := List.head?_eq_some_iff.1 first
    rw [text, List.cons_append] at read ⊢
    exact readValue?_scalar blank starts read
  match v with
  | .arr [] =>
    rw [layOut, readValue?, skipSpace_append blank, List.cons_append, skipSpace_of_head (by decide)]
    simp only [if_neg (Nat.ne_of_gt writable.1)]
    rfl
  | .obj [] =>
    rw [layOut, readValue?, skipSpace_append blank, List.cons_append, skipSpace_of_head (by decide)]
    simp only [if_neg (Nat.ne_of_gt writable.1)]
    rfl
  | .arr (first :: others) =>
    rw [layOut] at enough ⊢
    simp only [List.cons_append, List.append_assoc, List.length_cons,
      List.length_append] at enough ⊢
    have items : readItems? fuel (levels - 1)
        (layOut l (level + 1) first ++ (layOutItems l level others ++ rest)) =
          some (first :: others, rest) :=
      readItems?_layOut (first :: others) rfl writable.2 (by omega) (List.forall_mem_nil _)
    obtain ⟨c, head, visible, bracket⟩ := head_layOut (l := l) writable.2.1 (level + 1)
    obtain ⟨tail, text⟩ := List.head?_eq_some_iff.1 head
    rw [text, List.cons_append] at items
    refine readValue?_array blank writable.1 ?_ bracket items
    rw [skipSpace_append (white.gap (level + 1)), text, List.cons_append, skipSpace_of_head visible]
  | .obj ((name, first) :: others) =>
    rw [layOut] at enough ⊢
    simp only [List.cons_append, List.append_assoc, List.length_cons,
      List.length_append] at enough ⊢
    have members : readMembers? fuel (levels - 1) (quoteWith escapeChar name ++ ':' ::
        (l.colon ++ (layOut l (level + 1) first ++ (layOutMembers l level others ++ rest)))) =
          some (some ((name, first) :: others), rest) :=
      readMembers?_layOut ((name, first) :: others) rfl writable.2 (by omega)
        (List.forall_mem_nil _)
    refine readValue?_object blank writable.1 ?_ (by decide) members
    rw [skipSpace_append (white.gap (level + 1))]
    exact skipSpace_of_head (by decide) _
  | .null | .bool _ | .int _ | .float _ | .str _ => exact scalar trivial writable enough

theorem readItems?_layOut {fuel levels level : Nat} (items : List Json) {first : Json}
    {others : List Json} (shape : items = first :: others) (writable : WritableItems levels items)
    (enough : 2 * ((layOut l (level + 1) first).length + (layOutItems l level others).length) <
      fuel)
    {space rest : List Char} (blank : ∀ c ∈ space, isSpace c = true) :
    readItems? fuel levels
      (space ++ (layOut l (level + 1) first ++ (layOutItems l level others ++ rest))) =
      some (items, rest) := by
  match items with
  | first :: others =>
    cases shape
    obtain ⟨fuel, rfl⟩ : ∃ n, fuel = n + 1 := ⟨fuel - 1, by omega⟩
    have value :=
      readValue?_layOut first writable.1
        (by omega : 2 * (layOut l (level + 1) first).length ≤ fuel) blank
        (layOutItems_endsNumber white level others rest)
    rw [readItems?, value]
    simp only [Option.bind_eq_bind, Option.bind_some]
    match others with
    | [] =>
      rw [layOutItems, List.append_assoc, skipSpace_append (white.gap level), List.singleton_append,
        skipSpace_of_head (by decide)]
      rfl
    | second :: others =>
      rw [layOutItems] at enough ⊢
      simp only [List.cons_append, List.append_assoc, List.length_cons,
        List.length_append] at enough ⊢
      rw [skipSpace_of_head (by decide)]
      have next : readItems? fuel levels (l.gap (level + 1) ++ (layOut l (level + 1) second ++
          (layOutItems l level others ++ rest))) = some (second :: others, rest) :=
        readItems?_layOut (second :: others) rfl writable.2 (by omega) (white.gap (level + 1))
      simp only [next, Option.bind_some]

theorem readMembers?_layOut {fuel levels level : Nat} (members : List (String × Json))
    {name : String} {first : Json} {others : List (String × Json)}
    (shape : members = (name, first) :: others) (writable : WritableMembers levels members)
    (enough : 2 * ((quoteWith escapeChar name).length + (layOut l (level + 1) first).length +
      (layOutMembers l level others).length) < fuel)
    {space rest : List Char} (blank : ∀ c ∈ space, isSpace c = true) :
    readMembers? fuel levels (space ++ (quoteWith escapeChar name ++ ':' ::
        (l.colon ++ (layOut l (level + 1) first ++ (layOutMembers l level others ++ rest))))) =
      some (some members, rest) := by
  match members with
  | (name, first) :: others =>
    cases shape
    obtain ⟨fuel, rfl⟩ : ∃ n, fuel = n + 1 := ⟨fuel - 1, by omega⟩
    have long := length_le_quoted name
    have named := readName?_quoted blank name (by omega : name.toList.length < fuel + 1)
      (l.colon ++ (layOut l (level + 1) first ++ (layOutMembers l level others ++ rest)))
    have value :=
      readValue?_layOut first writable.1
        (by omega : 2 * (layOut l (level + 1) first).length ≤ fuel) white.colon
        (layOutMembers_endsNumber white level others rest)
    rw [readMembers?, named]
    simp only [Option.bind_eq_bind, Option.bind_some, value]
    match others with
    | [] =>
      rw [layOutMembers, List.append_assoc, skipSpace_append (white.gap level),
        List.singleton_append, skipSpace_of_head (by decide)]
      rfl
    | (second, value) :: others =>
      rw [layOutMembers] at enough ⊢
      simp only [List.cons_append, List.append_assoc, List.length_cons,
        List.length_append] at enough ⊢
      rw [skipSpace_of_head (by decide)]
      have next : readMembers? fuel levels
          (l.gap (level + 1) ++ (quoteWith escapeChar second ++ ':' ::
            (l.colon ++ (layOut l (level + 1) value ++ (layOutMembers l level others ++ rest))))) =
              some (some ((second, value) :: others), rest) :=
        readMembers?_layOut ((second, value) :: others) rfl writable.2 (by omega)
          (white.gap (level + 1))
      simp only [next, Option.bind_some]
      rfl

end

theorem parse?_layOut {v : Json} (writable : Writable maxLevels v) {space : List Char}
    (blank : ∀ c ∈ space, isSpace c = true) :
    parse? (String.ofList (layOut l 0 v ++ space)) = some v := by
  have ends : EndsNumber space := by
    have stop := endsNumber_of_white blank endsNumber_nil
    rwa [List.append_nil] at stop
  have enough : 2 * (layOut l 0 v).length ≤ 2 * (layOut l 0 v ++ space).length + 2 := by
    rw [List.length_append]
    omega
  have value : readValue? (2 * (layOut l 0 v ++ space).length + 2) maxLevels
      (layOut l 0 v ++ space) = some (v, space) :=
    readValue?_layOut white v writable enough (List.forall_mem_nil _) ends
  have nothing : skipSpace space = [] := by
    rw [← List.append_nil space, skipSpace_append blank]
    rfl
  rw [parse?, String.toList_ofList, value]
  simp [nothing]

end Values

theorem parse?_compact {v : Json} (writable : Writable maxLevels v) :
    parse? v.compact = some v := by
  have read := parse?_layOut Layout.dense_white writable (List.forall_mem_nil (isSpace · = true))
  rwa [List.append_nil, layOut_dense] at read

theorem parse?_pretty {v : Json} (writable : Writable maxLevels v) :
    parse? (v.pretty ++ "\n") = some v := by
  have read :=
    parse?_layOut Layout.lines_white writable
      (List.forall_mem_singleton.2 (rfl : isSpace '\n' = true))
  rw [layOut_lines, String.ofList_append] at read
  exact read

end IfaceMonitor.Json
