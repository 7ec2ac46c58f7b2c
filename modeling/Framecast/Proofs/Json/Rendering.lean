import Framecast.Json.Printer
import Framecast.Proofs.Json.Spelling

/-!
# What is printed can be parsed

The printer is one of the ways to spell a value, so that the parser takes the printed text back to
the value (`parse?_render`). The numerals of the value have to be spelled by their own characters
(`Json.Proper`): a `Numeral` can hold any characters for digits, and only a writer of documents
makes sure that they are digits.
-/

namespace Framecast

namespace Json

/-- Every numeral in the value is spelled by its own characters. -/
inductive Proper : Json → Prop
  | null : Proper .null
  | bool (b : Bool) : Proper (.bool b)
  | number {n : Numeral} (numeral : n.Spelled n.chars) : Proper (.number n)
  | string (s : Option String) : Proper (.string s)
  | array {vs : List Json} (items : ∀ v ∈ vs, Proper v) : Proper (.array vs)
  | object {ms : List (Option String × Json)} (members : ∀ m ∈ ms, Proper m.2) :
      Proper (.object ms)

/-! ## Strings -/

/-- A hexadecimal digit has the value that it is made for. -/
theorem hexValue?_hexDigit : ∀ n < 16, hexValue? (hexDigit n) = some n := by decide

/-- A control is written as the unit of its number. -/
theorem unit?_control {n : Nat} (h : n < 32) :
    unit? '0' '0' (hexDigit (n / 16)) (hexDigit (n % 16)) = some n := by
  have hzero : hexValue? '0' = some 0 := by decide
  unfold unit?
  rw [hzero, hexValue?_hexDigit _ (show n / 16 < 16 by omega),
    hexValue?_hexDigit _ (Nat.mod_lt n (by decide))]
  show some (0 * 4096 + 0 * 256 + n / 16 * 16 + n % 16) = some n
  congr 1
  omega

/-- The unit of a control stands for that control. -/
theorem joined?_control {c : Char} (h : c.toNat < 32) (ps : List Piece) :
    joined? (.unit c.toNat :: ps) = (joined? ps).map (c :: ·) := by
  rw [joined?.eq_def]
  dsimp only
  rw [if_neg (by omega), if_neg (by omega), Char.ofNat_toNat]

/-- What is written for a character spells one piece, which stands for that character. -/
theorem escape_spelled (c : Char) :
    ∃ p, PieceSpelled p (escape c) ∧ ∀ ps, joined? (p :: ps) = (joined? ps).map (c :: ·) := by
  unfold escape
  split_ifs with hquote hbackslash hb ht hn hf hr hcontrol
  · exact ⟨.char c, .short (by rw [hquote]; rfl), fun _ => rfl⟩
  · exact ⟨.char c, .short (by rw [hbackslash]; rfl), fun _ => rfl⟩
  · exact ⟨.char c, .short (by rw [hb]; rfl), fun _ => rfl⟩
  · exact ⟨.char c, .short (by rw [ht]; rfl), fun _ => rfl⟩
  · exact ⟨.char c, .short (by rw [hn]; rfl), fun _ => rfl⟩
  · exact ⟨.char c, .short (by rw [hf]; rfl), fun _ => rfl⟩
  · exact ⟨.char c, .short (by rw [hr]; rfl), fun _ => rfl⟩
  · exact ⟨.unit c.toNat, .unit (unit?_control hcontrol), joined?_control hcontrol⟩
  · exact ⟨.char c, .plain hquote hbackslash (by omega), fun _ => rfl⟩

/-- What is written for characters spells pieces, which are joined to those characters. -/
theorem escapes_spelled (cs : List Char) :
    ∃ ps, PiecesSpelled ps (cs.flatMap escape) ∧ joined? ps = some cs := by
  induction cs with
  | nil => exact ⟨[], .nil, rfl⟩
  | cons c cs ih =>
    obtain ⟨p, hp, hjoin⟩ := escape_spelled c
    obtain ⟨ps, hps, hcs⟩ := ih
    refine ⟨p :: ps, .cons hp hps, ?_⟩
    rw [hjoin, hcs]
    rfl

/-- What is written for a string spells it, also if it has no characters. -/
theorem quoteText_spelled (s : Option String) : StringSpelled s (quoteText s) := by
  cases s with
  | none =>
    -- Half of a surrogate pair, alone, is joined to nothing.
    exact .quoted (.cons (.unit (n := 0xd800) (by decide)) .nil)
  | some s =>
    obtain ⟨ps, hps, hjoin⟩ := escapes_spelled s.toList
    have h := StringSpelled.quoted hps
    rw [hjoin, Option.map_some, String.ofList_toList] at h
    exact h

/-! ## Values -/

/-- There are no blanks where nothing is. -/
theorem blank_nil : Blank [] := fun _ h => absurd h List.not_mem_nil

/-- What is written for items spells them, if each of them is spelled by its characters. -/
theorem itemChars_spelled {v : Json} {vs : List Json} (first : Spelled v (chars v))
    (others : ∀ w ∈ vs, Spelled w (chars w)) :
    ItemsSpelled (v :: vs) (chars v ++ itemChars vs) := by
  induction vs generalizing v with
  | nil => exact .last first blank_nil
  | cons w vs ih =>
    have h := ih (others w List.mem_cons_self) fun x hx => others x (List.mem_cons_of_mem w hx)
    exact @ItemsSpelled.more _ _ _ [] [] _ first blank_nil blank_nil h

/-- What is written for members spells them, if each of their values is spelled by its
characters. -/
theorem memberChars_spelled (name : Option String) {v : Json} {ms : List (Option String × Json)}
    (first : Spelled v (chars v)) (others : ∀ m ∈ ms, Spelled m.2 (chars m.2)) :
    MembersSpelled ((name, v) :: ms) (quoteText name ++ ':' :: (chars v ++ memberChars ms)) := by
  induction ms generalizing name v with
  | nil => exact .last (quoteText_spelled name) blank_nil blank_nil first blank_nil
  | cons m ms ih =>
    obtain ⟨name', w⟩ := m
    have h := ih name' (others (name', w) List.mem_cons_self)
      fun x hx => others x (List.mem_cons_of_mem _ hx)
    exact @MembersSpelled.more _ _ _ _ [] [] _ [] [] _ (quoteText_spelled name) blank_nil blank_nil
      first blank_nil blank_nil h

/-- A value is spelled by its characters. -/
theorem Proper.spelled {v : Json} (h : v.Proper) : Spelled v v.chars := by
  induction h with
  | null => exact .null
  | bool b =>
    cases b with
    | true => exact .isTrue
    | false => exact .isFalse
  | number numeral => exact .number numeral
  | string s => exact .string (quoteText_spelled s)
  | @array vs _ ih =>
    cases vs with
    | nil => exact .noItems blank_nil
    | cons v vs =>
      have h := itemChars_spelled (ih v List.mem_cons_self)
        fun w hw => ih w (List.mem_cons_of_mem v hw)
      exact @Spelled.items _ [] _ blank_nil h
  | @object ms _ ih =>
    cases ms with
    | nil => exact .noMembers blank_nil
    | cons m ms =>
      obtain ⟨name, v⟩ := m
      have h := memberChars_spelled name (ih (name, v) List.mem_cons_self)
        fun w hw => ih w (List.mem_cons_of_mem _ hw)
      exact @Spelled.members _ [] _ blank_nil h

/-- A printed value is parsed to itself. -/
theorem parse?_render {v : Json} (h : v.Proper) : parse? v.render = some v := by
  apply parse?_of_spelled
  have hdocument := DocumentSpelled.around blank_nil h.spelled blank_nil
  unfold render
  rw [List.nil_append, List.append_nil] at hdocument
  rwa [String.toList_ofList]

/-! ## Values that are proper -/

/-- A string is proper. -/
@[simp] theorem proper_text (s : String) : (text s).Proper := .string _

/-- A natural number is proper. -/
@[simp] theorem proper_nat (n : Nat) : (nat n).Proper := .number (Numeral.spelled_ofNat n)

/-- An integer is proper. -/
@[simp] theorem proper_int (z : Int) : (int z).Proper := .number (Numeral.spelled_ofInt z)

/-- A boolean is proper. -/
@[simp] theorem proper_bool (b : Bool) : (Json.bool b).Proper := .bool b

/-- An option is proper if what it may hold is. -/
theorem proper_option {α : Type} {f : α → Json} (h : ∀ a, (f a).Proper) (x : Option α) :
    (option f x).Proper := by
  cases x with
  | none => exact .null
  | some a => exact h a

/-- A record is proper if and only if its fields are. -/
@[simp] theorem proper_struct (ms : List (String × Json)) :
    (struct ms).Proper ↔ ∀ m ∈ ms, m.2.Proper := by
  constructor
  · rintro (_ | _ | _ | _ | _ | h) m hm
    exact h (some m.1, m.2) (List.mem_map_of_mem hm)
  · intro h
    refine .object fun m hm => ?_
    obtain ⟨m', hm', rfl⟩ := List.mem_map.mp hm
    exact h m' hm'

end Json

end Framecast
