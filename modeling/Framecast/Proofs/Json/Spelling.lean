import Mathlib.Data.List.TakeDrop
import Framecast.Json.Parser
import Framecast.Proofs.Decimal.Numeral

/-!
# The spellings of a JSON value

A value can be written in many ways: with blanks between tokens, with any escapes in strings, with
the mark of an exponent in either case. `Json.Spelled` says which texts spell a value, and
`parse?_of_spelled` that the parser takes every one of them back to its value.

The parser counts steps, and a spelling is at least as long as the steps that it needs. So the three
readers of values, items and members are followed together, by induction on the steps
(`reads_within`); each of them is left with what follows the spelling, which must not go on with a
number (`EndsNumber`).
-/

namespace Framecast

namespace Json

/-- Nothing but blanks. -/
def Blank (b : List Char) : Prop := ∀ c ∈ b, isBlank c = true

/-! ## Strings -/

/-- The spellings of a piece of a string: a character as it is, a short escape, or four hexadecimal
digits. -/
inductive PieceSpelled : Piece → List Char → Prop
  | plain {c : Char} (quote : c ≠ '"') (backslash : c ≠ '\\') (printable : 32 ≤ c.toNat) :
      PieceSpelled (.char c) [c]
  | short {e c : Char} (escape : shortEscape? e = some c) : PieceSpelled (.char c) ['\\', e]
  | unit {a b c d : Char} {n : Nat} (digits : unit? a b c d = some n) :
      PieceSpelled (.unit n) ['\\', 'u', a, b, c, d]

/-- The spellings of pieces one after the other. -/
inductive PiecesSpelled : List Piece → List Char → Prop
  | nil : PiecesSpelled [] []
  | cons {p : Piece} {ps : List Piece} {cs cs' : List Char} (first : PieceSpelled p cs)
      (rest : PiecesSpelled ps cs') : PiecesSpelled (p :: ps) (cs ++ cs')

/-- The spellings of a string: its pieces between quotes. The string is what the pieces are joined
to. -/
inductive StringSpelled : Option String → List Char → Prop
  | quoted {ps : List Piece} {cs : List Char} (pieces : PiecesSpelled ps cs) :
      StringSpelled ((joined? ps).map String.ofList) ('"' :: (cs ++ ['"']))

/-- A piece is read before the pieces that follow it. -/
theorem pieces_append {p : Piece} {cs : List Char} (h : PieceSpelled p cs) (tail : List Char) :
    pieces (cs ++ tail) = (pieces tail).map fun (ps, rest) => (p :: ps, rest) := by
  cases h with
  | @plain c quote backslash printable =>
    have hraw : ¬(c = '\\' ∨ c.toNat < 32) := by
      rintro (h | h)
      · exact backslash h
      · omega
    rw [List.singleton_append, pieces.eq_5 c tail quote (fun _ _ _ _ _ h => absurd h backslash)
      (fun _ _ h => absurd h backslash), if_neg hraw]
    cases pieces tail <;> rfl
  | @short e c escape =>
    have hu : e ≠ 'u' := by
      rintro rfl
      cases escape
    rw [List.cons_append, List.singleton_append,
      pieces.eq_4 e tail (fun _ _ _ _ _ h => absurd h hu), escape]
    cases pieces tail <;> rfl
  | unit digits =>
    rw [show _ ++ tail = '\\' :: 'u' :: _ :: _ :: _ :: _ :: tail from rfl, pieces.eq_3, digits]
    cases pieces tail <;> rfl

/-- The pieces of a string are read up to the quote that ends it. -/
theorem pieces_of_spelled {ps : List Piece} {cs : List Char} (h : PiecesSpelled ps cs)
    (rest : List Char) : pieces (cs ++ '"' :: rest) = some (ps, rest) := by
  induction h with
  | nil => rfl
  | cons first _ ih =>
    rw [List.append_assoc, pieces_append first, ih]
    rfl

/-- A string is read back from behind its opening quote. -/
theorem stringFrom_of_spelled {s : Option String} {cs : List Char} (h : StringSpelled s cs)
    (rest : List Char) :
    ∃ cs', cs = '"' :: cs' ∧ stringFrom (cs' ++ rest) = some (s, rest) := by
  cases h with
  | quoted pieces =>
    refine ⟨_, rfl, ?_⟩
    unfold stringFrom
    rw [List.append_assoc, List.singleton_append, pieces_of_spelled pieces]
    rfl

/-! ## Numbers -/

/-- What follows does not go on with digits. -/
def EndsDigits (rest : List Char) : Prop := ∀ c ∈ rest.head?, c.isDigit = false

/-- What follows does not go on with a number. -/
def EndsNumber (rest : List Char) : Prop :=
  ∀ c ∈ rest.head?, c.isDigit = false ∧ c ≠ '.' ∧ c ≠ 'e' ∧ c ≠ 'E'

/-- A number does not go on at the end of the text. -/
theorem endsNumber_nil : EndsNumber [] := fun _ h => absurd h (by simp)

/-- A number does not go on with such a character. -/
theorem endsNumber_cons {c : Char} (rest : List Char)
    (h : c.isDigit = false ∧ c ≠ '.' ∧ c ≠ 'e' ∧ c ≠ 'E') : EndsNumber (c :: rest) := by
  intro d hd
  obtain rfl := Option.some.inj hd
  exact h

/-- A number does not go on with blanks, and not with what may follow them. -/
theorem endsNumber_blank {b rest : List Char} (blank : Blank b) (h : EndsNumber rest) :
    EndsNumber (b ++ rest) := by
  cases b with
  | nil => exact h
  | cons c b =>
    apply endsNumber_cons
    have hc := blank c List.mem_cons_self
    unfold isBlank at hc
    simp only [Bool.or_eq_true, decide_eq_true_eq] at hc
    rcases hc with ((rfl | rfl) | rfl) | rfl <;> decide

/-- A run of digits is read up to what is no digit. -/
theorem digits_append {ds rest : List Char} (h : IsDigits ds) (ends : EndsDigits rest) :
    digits (ds ++ rest) = some (ds, rest) := by
  have hspan : (ds ++ rest).span Char.isDigit = (ds, rest) := by
    rw [List.span_eq_takeWhile_dropWhile, List.takeWhile_append_of_pos h.2,
      List.dropWhile_append_of_pos h.2]
    cases rest with
    | nil => rw [List.takeWhile_nil, List.dropWhile_nil, List.append_nil]
    | cons c rest =>
      have hc : ¬c.isDigit = true := by
        rw [ends c rfl]
        decide
      rw [List.takeWhile_cons_of_neg hc, List.dropWhile_cons_of_neg hc, List.append_nil]
  unfold digits
  rw [hspan]
  obtain ⟨d, ds', rfl⟩ := List.exists_cons_of_ne_nil h.1
  rfl

/-- A fraction is read up to what does not go on with a number. -/
theorem fractionPart_append {fraction : Option (List Char)} {fs rest : List Char}
    (h : Numeral.FractionSpelled fraction fs) (ends : EndsDigits rest)
    (point : ∀ c ∈ rest.head?, c ≠ '.') :
    fractionPart (fs ++ rest) = some (fraction, rest) := by
  cases h with
  | absent =>
    rw [List.nil_append]
    cases rest with
    | nil => rfl
    | cons c rest => exact fractionPart.eq_2 _ fun _ h => point c rfl (List.cons.inj h).1
  | present digits =>
    rw [List.cons_append, fractionPart.eq_1, digits_append digits ends]
    rfl

/-- An exponent is read up to what does not go on with a number. -/
theorem exponentPart_append {exponent : Option (ExponentSign × List Char)} {es rest : List Char}
    (h : Numeral.ExponentSpelled exponent es) (ends : EndsNumber rest) :
    exponentPart (es ++ rest) = some (exponent, rest) := by
  have hends : EndsDigits rest := fun c hc => (ends c hc).1
  cases h with
  | absent =>
    rw [List.nil_append]
    cases rest with
    | nil => rfl
    | cons c rest =>
      obtain ⟨-, -, he, hE⟩ := ends c rfl
      have hmark : ¬(c = 'e' ∨ c = 'E') := fun h => h.elim he hE
      unfold exponentPart
      dsimp only
      rw [if_neg hmark]
  | @unsigned e ds mark digits =>
    -- A digit is no sign, so that the digits start behind the mark.
    have hsign : ∀ d ∈ ds, d ≠ '+' ∧ d ≠ '-' := by
      intro d hd
      have hdigit := digits.2 d hd
      refine ⟨?_, ?_⟩
      · rintro rfl
        cases hdigit
      · rintro rfl
        cases hdigit
    have hds := digits_append digits hends
    obtain ⟨d, ds', rfl⟩ := List.exists_cons_of_ne_nil digits.1
    obtain ⟨hplus, hminus⟩ := hsign d List.mem_cons_self
    rw [List.cons_append] at hds ⊢
    unfold exponentPart
    dsimp only
    rw [if_pos mark]
    split
    · rename_i h
      exact absurd (List.cons.inj h).1 hplus
    · rename_i h
      exact absurd (List.cons.inj h).1 hminus
    · dsimp only
      rw [List.cons_append, hds]
      rfl
  | plus mark digits =>
    rw [List.cons_append, List.cons_append]
    unfold exponentPart
    dsimp only
    rw [if_pos mark]
    show (Json.digits (_ ++ rest)).map _ = _
    rw [digits_append digits hends]
    rfl
  | minus mark digits =>
    rw [List.cons_append, List.cons_append]
    unfold exponentPart
    dsimp only
    rw [if_pos mark]
    show (Json.digits (_ ++ rest)).map _ = _
    rw [digits_append digits hends]
    rfl

/-- Neither digits nor a point come where an exponent may stand. -/
theorem endsDigits_exponent {exponent : Option (ExponentSign × List Char)} {es rest : List Char}
    (h : Numeral.ExponentSpelled exponent es) (ends : EndsNumber rest) :
    ∀ c ∈ (es ++ rest).head?, c.isDigit = false ∧ c ≠ '.' := by
  cases h with
  | absent => exact fun c hc => ⟨(ends c hc).1, (ends c hc).2.1⟩
  | _ mark digits =>
    intro c hc
    obtain rfl := Option.some.inj hc
    rcases mark with rfl | rfl <;> decide

/-- A number without its sign. -/
def unsignedFrom (negative : Bool) (cs : List Char) : Option (Numeral × List Char) := do
  let (whole, cs) ← wholePart cs
  let (fraction, cs) ← fractionPart cs
  let (exponent, cs) ← exponentPart cs
  return (⟨negative, whole, fraction, exponent⟩, cs)

/-- A minus in front of digits is read as the sign. -/
theorem numberFrom_sign {ws : List Char} (negative : Bool) (whole : IsDigits ws)
    (tail : List Char) :
    numberFrom ((if negative then ['-'] else []) ++ (ws ++ tail)) =
      unsignedFrom negative (ws ++ tail) := by
  cases negative with
  | true => rfl
  | false =>
    obtain ⟨d, ws', rfl⟩ := List.exists_cons_of_ne_nil whole.1
    have hd := whole.2 d List.mem_cons_self
    show numberFrom (d :: (ws' ++ tail)) = unsignedFrom false (d :: (ws' ++ tail))
    unfold numberFrom
    split
    rename_i negative cs hsplit
    split at hsplit
    · -- A digit is no minus.
      rename_i h
      obtain ⟨rfl, -⟩ := List.cons.inj h
      cases hd
    · obtain ⟨rfl, rfl⟩ := Prod.mk.inj hsplit
      rfl

/-- A number is read up to what does not go on with it. -/
theorem numberFrom_of_spelled {n : Numeral} {cs rest : List Char} (h : n.Spelled cs)
    (ends : EndsNumber rest) : numberFrom (cs ++ rest) = some (n, rest) := by
  obtain ⟨negative, ws, f, x⟩ := n
  obtain @⟨fs, es, whole, leading, fraction, exponent⟩ := h
  dsimp only at whole leading fraction exponent ⊢
  have hexponent := exponentPart_append exponent ends
  have hafter := endsDigits_exponent exponent ends
  have hfraction := fractionPart_append fraction (fun c hc => (hafter c hc).1)
    (fun c hc => (hafter c hc).2)
  have hwhole : wholePart (ws ++ (fs ++ (es ++ rest))) = some (ws, fs ++ (es ++ rest)) := by
    have hdigits : EndsDigits (fs ++ (es ++ rest)) := by
      cases fraction with
      | absent => exact fun c hc => (hafter c hc).1
      | present _ =>
        intro c hc
        obtain rfl := Option.some.inj hc
        decide
    unfold wholePart
    rw [digits_append whole hdigits]
    show (if ws.head? = some '0' ∧ ws ≠ ['0'] then none else _) = _
    rw [if_neg fun h => h.2 (leading h.1)]
  rw [List.append_assoc, List.append_assoc, List.append_assoc, numberFrom_sign negative whole]
  unfold unsignedFrom
  rw [hwhole]
  show (fractionPart (fs ++ (es ++ rest))).bind _ = _
  rw [hfraction]
  show (exponentPart (es ++ rest)).bind _ = _
  rw [hexponent]
  rfl

/-- A number starts with a minus or a digit. -/
theorem starts_of_spelled {n : Numeral} {cs : List Char} (h : n.Spelled cs) :
    ∃ c cs', cs = c :: cs' ∧ (c = '-' ∨ c.isDigit = true) := by
  obtain ⟨whole, -, -, -⟩ := h
  cases n.negative with
  | true => exact ⟨'-', _, rfl, .inl rfl⟩
  | false =>
    obtain ⟨d, ws, hws⟩ := List.exists_cons_of_ne_nil whole.1
    rw [hws] at whole ⊢
    exact ⟨d, _, rfl, .inr (whole.2 d List.mem_cons_self)⟩

/-! ## Values -/

mutual

/-- The spellings of a value, from its first character to its last. -/
inductive Spelled : Json → List Char → Prop
  | null : Spelled .null ['n', 'u', 'l', 'l']
  | isTrue : Spelled (.bool true) ['t', 'r', 'u', 'e']
  | isFalse : Spelled (.bool false) ['f', 'a', 'l', 's', 'e']
  | number {n : Numeral} {cs : List Char} (numeral : n.Spelled cs) : Spelled (.number n) cs
  | string {s : Option String} {cs : List Char} (quoted : StringSpelled s cs) :
      Spelled (.string s) cs
  | noItems {b : List Char} (blank : Blank b) : Spelled (.array []) ('[' :: (b ++ [']']))
  | items {vs : List Json} {b cs : List Char} (blank : Blank b) (items : ItemsSpelled vs cs) :
      Spelled (.array vs) ('[' :: (b ++ cs))
  | noMembers {b : List Char} (blank : Blank b) :
      Spelled (.object []) ('\x7b' :: (b ++ ['\x7d']))
  | members {ms : List (Option String × Json)} {b cs : List Char} (blank : Blank b)
      (members : MembersSpelled ms cs) : Spelled (.object ms) ('\x7b' :: (b ++ cs))

/-- The spellings of the items of an array, up to the bracket that closes it. -/
inductive ItemsSpelled : List Json → List Char → Prop
  | last {v : Json} {cs b : List Char} (value : Spelled v cs) (blank : Blank b) :
      ItemsSpelled [v] (cs ++ (b ++ [']']))
  | more {v : Json} {vs : List Json} {cs b₁ b₂ cs' : List Char} (value : Spelled v cs)
      (blank₁ : Blank b₁) (blank₂ : Blank b₂) (rest : ItemsSpelled vs cs') :
      ItemsSpelled (v :: vs) (cs ++ (b₁ ++ ',' :: (b₂ ++ cs')))

/-- The spellings of the members of an object, up to the brace that closes it. -/
inductive MembersSpelled : List (Option String × Json) → List Char → Prop
  | last {s : Option String} {v : Json} {ns b₁ b₂ cs b₃ : List Char} (name : StringSpelled s ns)
      (blank₁ : Blank b₁) (blank₂ : Blank b₂) (value : Spelled v cs) (blank₃ : Blank b₃) :
      MembersSpelled [(s, v)] (ns ++ (b₁ ++ ':' :: (b₂ ++ (cs ++ (b₃ ++ ['\x7d'])))))
  | more {s : Option String} {v : Json} {ms : List (Option String × Json)}
      {ns b₁ b₂ cs b₃ b₄ cs' : List Char} (name : StringSpelled s ns) (blank₁ : Blank b₁)
      (blank₂ : Blank b₂) (value : Spelled v cs) (blank₃ : Blank b₃) (blank₄ : Blank b₄)
      (rest : MembersSpelled ms cs') :
      MembersSpelled ((s, v) :: ms)
        (ns ++ (b₁ ++ ':' :: (b₂ ++ (cs ++ (b₃ ++ ',' :: (b₄ ++ cs'))))))

end

/-- Blanks are passed over up to a character that is none. -/
theorem skipBlanks_append {b : List Char} {c : Char} (blank : Blank b) (h : isBlank c = false)
    (cs : List Char) : skipBlanks (b ++ c :: cs) = c :: cs := by
  have hc : ¬isBlank c = true := by
    rw [h]
    decide
  unfold skipBlanks
  rw [List.dropWhile_append_of_pos blank, List.dropWhile_cons_of_neg hc]

/-- A minus and a digit are no blanks, and nothing else starts or ends with them. -/
theorem starts_number {c : Char} (h : c = '-' ∨ c.isDigit = true) :
    isBlank c = false ∧ c ≠ ']' ∧ c ≠ 'n' ∧ c ≠ 't' ∧ c ≠ 'f' ∧ c ≠ '"' ∧ c ≠ '[' ∧
      c ≠ '\x7b' := by
  rcases h with rfl | h
  · decide
  · have hne : ∀ d : Char, d.isDigit = false → c ≠ d := by
      rintro d hd rfl
      rw [h] at hd
      cases hd
    refine ⟨?_, hne _ rfl, hne _ rfl, hne _ rfl, hne _ rfl, hne _ rfl, hne _ rfl, hne _ rfl⟩
    unfold isBlank
    simp [hne ' ' rfl, hne '\x09' rfl, hne '\x0a' rfl, hne '\x0d' rfl]

/-- A value starts with a character that is no blank and closes nothing. -/
theorem Spelled.starts {v : Json} {cs : List Char} (h : Spelled v cs) :
    ∃ c cs', cs = c :: cs' ∧ isBlank c = false ∧ c ≠ ']' := by
  cases h with
  | number numeral =>
    obtain ⟨c, cs', rfl, hc⟩ := starts_of_spelled numeral
    obtain ⟨hblank, hbracket, -⟩ := starts_number hc
    exact ⟨c, cs', rfl, hblank, hbracket⟩
  | string quoted =>
    obtain ⟨cs', rfl, -⟩ := stringFrom_of_spelled quoted []
    exact ⟨'"', cs', rfl, rfl, by decide⟩
  | _ => exact ⟨_, _, rfl, rfl, by decide⟩

/-- The first item is a value. -/
theorem ItemsSpelled.starts {vs : List Json} {cs : List Char} (h : ItemsSpelled vs cs) :
    ∃ c cs', cs = c :: cs' ∧ isBlank c = false ∧ c ≠ ']' := by
  cases h with
  | last value _ | more value _ _ _ =>
    obtain ⟨c, cs', rfl, hc⟩ := value.starts
    exact ⟨c, _, rfl, hc⟩

/-- The first member starts with the quote of its name. -/
theorem MembersSpelled.starts {ms : List (Option String × Json)} {cs : List Char}
    (h : MembersSpelled ms cs) : ∃ cs', cs = '"' :: cs' := by
  cases h with
  | last name _ _ _ _ | more name _ _ _ _ _ _ =>
    obtain ⟨cs', rfl, -⟩ := stringFrom_of_spelled name []
    exact ⟨_, rfl⟩

/-- Blanks are passed over up to a value. -/
theorem skipBlanks_value {v : Json} {b cs : List Char} (blank : Blank b) (h : Spelled v cs)
    (rest : List Char) : skipBlanks (b ++ (cs ++ rest)) = cs ++ rest := by
  obtain ⟨c, cs', rfl, hc, -⟩ := h.starts
  exact skipBlanks_append blank hc _

/-! ## What is read in a number of steps -/

/-- Values that are not longer than the steps are read. -/
def ReadsValues (steps : Nat) : Prop :=
  ∀ ⦃v : Json⦄ ⦃cs rest : List Char⦄, Spelled v cs → cs.length ≤ steps → EndsNumber rest →
    valueFrom steps (cs ++ rest) = some (v, rest)

/-- Items that are not longer than the steps are read, with blanks in front. -/
def ReadsItems (steps : Nat) : Prop :=
  ∀ ⦃vs : List Json⦄ ⦃b cs rest : List Char⦄, Blank b → ItemsSpelled vs cs → cs.length ≤ steps →
    itemsFrom steps (b ++ (cs ++ rest)) = some (vs, rest)

/-- Members that are not longer than the steps are read, with blanks in front. -/
def ReadsMembers (steps : Nat) : Prop :=
  ∀ ⦃ms : List (Option String × Json)⦄ ⦃b cs rest : List Char⦄, Blank b → MembersSpelled ms cs →
    cs.length ≤ steps → membersFrom steps (b ++ (cs ++ rest)) = some (ms, rest)

/-- A number is read as a value. -/
theorem valueFrom_number {n : Numeral} {cs rest : List Char} (h : n.Spelled cs) (steps : Nat)
    (ends : EndsNumber rest) :
    valueFrom (steps + 1) (cs ++ rest) = some (.number n, rest) := by
  have hnumber := numberFrom_of_spelled h ends
  obtain ⟨c, cs', rfl, hc⟩ := starts_of_spelled h
  obtain ⟨-, -, hn, ht, hf, hq, ha, ho⟩ := starts_number hc
  rw [List.cons_append] at hnumber ⊢
  -- What starts with a minus or a digit is left to the last branch.
  rw [valueFrom.eq_8 _ steps (fun _ h => hn (List.cons.inj h).1) (fun _ h => ht (List.cons.inj h).1)
    (fun _ h => hf (List.cons.inj h).1) (fun _ h => hq (List.cons.inj h).1)
    (fun _ h => ha (List.cons.inj h).1) (fun _ h => ho (List.cons.inj h).1), hnumber]
  rfl

/-- An array is read if its items are read in the steps that are left. -/
theorem valueFrom_items {steps : Nat} {vs : List Json} {b cs : List Char}
    (items : ReadsItems steps) (blank : Blank b) (h : ItemsSpelled vs cs)
    (length : cs.length ≤ steps) (rest : List Char) :
    valueFrom (steps + 1) ('[' :: (b ++ (cs ++ rest))) = some (.array vs, rest) := by
  have hread : itemsFrom steps (cs ++ rest) = some (vs, rest) :=
    items (b := []) (fun _ h => absurd h List.not_mem_nil) h length
  obtain ⟨c, cs', rfl, hblank, hc⟩ := h.starts
  rw [List.cons_append] at hread ⊢
  rw [valueFrom.eq_6, skipBlanks_append blank hblank]
  split
  · -- An item does not start with the bracket that closes the array.
    rename_i heq
    exact absurd (List.cons.inj heq).1 hc
  · rw [hread]
    rfl

/-- An object is read if its members are read in the steps that are left. -/
theorem valueFrom_members {steps : Nat} {ms : List (Option String × Json)} {b cs : List Char}
    (members : ReadsMembers steps) (blank : Blank b) (h : MembersSpelled ms cs)
    (length : cs.length ≤ steps) (rest : List Char) :
    valueFrom (steps + 1) ('\x7b' :: (b ++ (cs ++ rest))) = some (.object ms, rest) := by
  have hread : membersFrom steps (cs ++ rest) = some (ms, rest) :=
    members (b := []) (fun _ h => absurd h List.not_mem_nil) h length
  obtain ⟨cs', rfl⟩ := h.starts
  rw [List.cons_append] at hread ⊢
  rw [valueFrom.eq_7, skipBlanks_append blank rfl]
  show (membersFrom steps ('"' :: (cs' ++ rest))).map _ = _
  rw [hread]
  rfl

/-- One step more reads values of which the parts are read. -/
theorem ReadsValues.next {steps : Nat} (items : ReadsItems steps) (members : ReadsMembers steps) :
    ReadsValues (steps + 1) := by
  intro v cs rest h length ends
  cases h with
  | null | isTrue | isFalse => rfl
  | number numeral => exact valueFrom_number numeral steps ends
  | string quoted =>
    obtain ⟨cs', rfl, hread⟩ := stringFrom_of_spelled quoted rest
    rw [List.cons_append, valueFrom.eq_5, hread]
    rfl
  | noItems blank =>
    rw [List.cons_append, List.append_assoc, List.singleton_append, valueFrom.eq_6,
      skipBlanks_append blank rfl]
    rfl
  | items blank h =>
    rw [List.cons_append, List.append_assoc]
    rw [List.length_cons, List.length_append] at length
    exact valueFrom_items items blank h (by omega) rest
  | noMembers blank =>
    rw [List.cons_append, List.append_assoc, List.singleton_append, valueFrom.eq_7,
      skipBlanks_append blank rfl]
    rfl
  | members blank h =>
    rw [List.cons_append, List.append_assoc]
    rw [List.length_cons, List.length_append] at length
    exact valueFrom_members members blank h (by omega) rest

/-- One step more reads items if a value is read, and the items after it. -/
theorem ReadsItems.next {steps : Nat} (values : ReadsValues steps) (items : ReadsItems steps) :
    ReadsItems (steps + 1) := by
  intro vs b cs rest blank h length
  cases h with
  | last value blank' =>
    simp only [List.length_append, List.length_cons] at length
    have hread := values value (by omega)
      (endsNumber_blank blank' (endsNumber_cons rest (c := ']') (by decide)))
    rw [List.append_assoc, List.append_assoc, List.singleton_append, itemsFrom.eq_2,
      skipBlanks_value blank value, hread, Option.bind_eq_bind, Option.bind_some]
    dsimp only
    rw [skipBlanks_append blank' rfl]
    rfl
  | @more v vs cs b₁ b₂ cs' value blank₁ blank₂ more =>
    simp only [List.length_append, List.length_cons] at length
    have hread := values value (by omega)
      (endsNumber_blank blank₁ (endsNumber_cons (b₂ ++ (cs' ++ rest)) (c := ',') (by decide)))
    rw [List.append_assoc, List.append_assoc, List.cons_append, List.append_assoc, itemsFrom.eq_2,
      skipBlanks_value blank value, hread, Option.bind_eq_bind, Option.bind_some]
    dsimp only
    rw [skipBlanks_append blank₁ rfl]
    show (itemsFrom steps (b₂ ++ (cs' ++ rest))).map _ = _
    rw [items blank₂ more (by omega)]
    rfl

/-- What is read of an object behind a member and the blanks that follow it. -/
def membersAfter (steps : Nat) (m : Option String × Json) :
    List Char → Option (List (Option String × Json) × List Char)
  | ',' :: rest => (membersFrom steps rest).map fun (ms, rest) => (m :: ms, rest)
  | '\x7d' :: rest => some ([m], rest)
  | _ => none

/-- The first member is read if its value is. -/
theorem membersFrom_first {steps : Nat} {s : Option String} {v : Json}
    {b ns b₁ b₂ cs rest : List Char} (blank : Blank b) (name : StringSpelled s ns)
    (blank₁ : Blank b₁) (blank₂ : Blank b₂) (value : Spelled v cs)
    (read : valueFrom steps (cs ++ rest) = some (v, rest)) :
    membersFrom (steps + 1) (b ++ (ns ++ (b₁ ++ ':' :: (b₂ ++ (cs ++ rest))))) =
      membersAfter steps (s, v) (skipBlanks rest) := by
  obtain ⟨ns', rfl, hname⟩ := stringFrom_of_spelled name (b₁ ++ ':' :: (b₂ ++ (cs ++ rest)))
  rw [List.cons_append, membersFrom.eq_2, skipBlanks_append blank rfl]
  show (stringFrom _).bind _ = _
  rw [hname, Option.bind_some]
  dsimp only
  rw [skipBlanks_append blank₁ rfl]
  show (valueFrom steps (skipBlanks (b₂ ++ (cs ++ rest)))).bind _ = _
  rw [skipBlanks_value blank₂ value, read, Option.bind_some]
  rfl

/-- One step more reads members if a value is read, and the members after it. -/
theorem ReadsMembers.next {steps : Nat} (values : ReadsValues steps)
    (members : ReadsMembers steps) : ReadsMembers (steps + 1) := by
  intro ms b cs rest blank h length
  cases h with
  | last name blank₁ blank₂ value blank₃ =>
    simp only [List.length_append, List.length_cons] at length
    have hread := values value (by omega)
      (endsNumber_blank blank₃ (endsNumber_cons rest (c := '\x7d') (by decide)))
    simp only [List.append_assoc, List.cons_append, List.nil_append]
    rw [membersFrom_first blank name blank₁ blank₂ value hread, skipBlanks_append blank₃ rfl]
    rfl
  | @more s v ms ns b₁ b₂ cs b₃ b₄ cs' name blank₁ blank₂ value blank₃ blank₄ more =>
    simp only [List.length_append, List.length_cons] at length
    have hread := values value (by omega)
      (endsNumber_blank blank₃ (endsNumber_cons (b₄ ++ (cs' ++ rest)) (c := ',') (by decide)))
    simp only [List.append_assoc, List.cons_append]
    rw [membersFrom_first blank name blank₁ blank₂ value hread, skipBlanks_append blank₃ rfl]
    show (membersFrom steps (b₄ ++ (cs' ++ rest))).map _ = _
    rw [members blank₄ more (by omega)]
    rfl

/-- Values, items and members are read in as many steps as they have characters. -/
theorem reads_within (steps : Nat) :
    ReadsValues steps ∧ ReadsItems steps ∧ ReadsMembers steps := by
  induction steps with
  | zero =>
    -- Whatever is spelled has a first character.
    refine ⟨fun v cs rest h length _ => ?_, fun vs b cs rest _ h length => ?_,
      fun ms b cs rest _ h length => ?_⟩
    · obtain ⟨c, cs', rfl, -⟩ := h.starts
      exact absurd length (Nat.not_succ_le_zero _)
    · obtain ⟨c, cs', rfl, -⟩ := h.starts
      exact absurd length (Nat.not_succ_le_zero _)
    · obtain ⟨cs', rfl⟩ := h.starts
      exact absurd length (Nat.not_succ_le_zero _)
  | succ steps ih =>
    obtain ⟨values, items, members⟩ := ih
    exact ⟨.next items members, .next values items, .next values members⟩

/-- The spellings of a document: a value with blanks around it. -/
inductive DocumentSpelled (v : Json) : List Char → Prop
  | around {b cs b' : List Char} (before : Blank b) (value : Spelled v cs) (after : Blank b') :
      DocumentSpelled v (b ++ (cs ++ b'))

/-- The parser takes every spelling of a document back to its value. -/
theorem parse?_of_spelled {v : Json} {text : String} (h : DocumentSpelled v text.toList) :
    parse? text = some v := by
  unfold parse?
  generalize text.toList = all at h
  obtain @⟨b, cs, b', before, value, after⟩ := h
  have hlength : cs.length ≤ 2 * (b ++ (cs ++ b')).length + 2 := by
    simp only [List.length_append]
    omega
  have hends : EndsNumber b' := by
    have h := endsNumber_blank after endsNumber_nil
    rwa [List.append_nil] at h
  have hafter : skipBlanks b' = [] := by
    have h : skipBlanks (b' ++ []) = [] := List.dropWhile_append_of_pos after
    rwa [List.append_nil] at h
  dsimp only
  rw [skipBlanks_value before value, (reads_within _).1 value hlength hends, Option.bind_eq_bind,
    Option.bind_some]
  dsimp only
  rw [hafter]
  rfl

end Json

end Framecast
