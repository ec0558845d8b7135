import Clausal.Json.Equality
import Clausal.Proofs.Json.Keys
import Clausal.Proofs.Json.Tokens
import Mathlib.Data.List.DropRight

/-!
# Reading the pretty layout back

A value that is laid out on indented lines is read back if the reader has room for its arrays and
objects, and is refused otherwise. Of numbers that are no integers this holds as far as their own
texts are read back, for reading rounds a decimal more than once.
-/

namespace Clausal

/-- The text of the number is read as the number. -/
def FiniteBinary64.ReadsBack (x : FiniteBinary64) : Prop :=
  Json.readNumber? x.text.toList = some (.float x, [])

instance (x : FiniteBinary64) : Decidable x.ReadsBack :=
  inferInstanceAs (Decidable (_ = _))

namespace Json

/-! ## Measures -/

mutual

/-- How many arrays and objects stand inside one another at most. -/
def nesting : Json → Nat
  | .array items => itemsNesting items + 1
  | .object fields => fieldsNesting fields + 1
  | _ => 0

def itemsNesting : List Json → Nat
  | [] => 0
  | v :: vs => max v.nesting (itemsNesting vs)

def fieldsNesting : List (String × Json) → Nat
  | [] => 0
  | (_, v) :: fields => max v.nesting (fieldsNesting fields)

end

mutual

/-- The numbers in the value that are no integers. -/
def floats : Json → List FiniteBinary64
  | .float x => [x]
  | .array items => itemsFloats items
  | .object fields => fieldsFloats fields
  | _ => []

def itemsFloats : List Json → List FiniteBinary64
  | [] => []
  | v :: vs => v.floats ++ itemsFloats vs

def fieldsFloats : List (String × Json) → List FiniteBinary64
  | [] => []
  | (_, v) :: fields => v.floats ++ fieldsFloats fields

end

theorem nesting_le_fieldsNesting {key : String} {v : Json} {fields : List (String × Json)}
    (h : (key, v) ∈ fields) : v.nesting ≤ fieldsNesting fields := by
  induction fields with
  | nil => cases h
  | cons field fields ih =>
    rcases List.mem_cons.mp h with rfl | hrest
    · exact Nat.le_max_left _ _
    · exact Nat.le_trans (ih hrest) (Nat.le_max_right _ _)

/-- Whether there is room for `n` levels. -/
def hasRoom (room : Option Nat) (n : Nat) : Bool :=
  room.all (n ≤ ·)

theorem hasRoom_zero (room : Option Nat) : hasRoom room 0 = true := by
  cases room <;> simp [hasRoom]

theorem hasRoom_max (room : Option Nat) (m n : Nat) :
    hasRoom room (max m n) = (hasRoom room m && hasRoom room n) := by
  cases room with
  | none => rfl
  | some r => exact (decide_eq_decide.mpr Nat.max_le).trans (Bool.decide_and _ _)

theorem hasRoom_of_enter?_eq_none {room : Option Nat} (h : enter? room = none) (n : Nat) :
    hasRoom room (n + 1) = false := by
  match room, h with
  | some 0, _ => simp [hasRoom]

theorem hasRoom_of_enter? {room inner : Option Nat} (h : enter? room = some inner) (n : Nat) :
    hasRoom room (n + 1) = hasRoom inner n := by
  match room, h with
  | none, h => cases h; rfl
  | some (r + 1), h => cases h; simp [hasRoom]

/-! ## First characters -/

theorem skipBlanks_append {blanks : List Char} (h : ∀ c ∈ blanks, isBlank c = true)
    (cs : List Char) : skipBlanks (blanks ++ cs) = skipBlanks cs :=
  List.dropWhile_append_of_pos h

theorem skipBlanks_skipBlanks (cs : List Char) : skipBlanks (skipBlanks cs) = skipBlanks cs :=
  List.dropWhile_idempotent isBlank cs

theorem skipBlanks_cons {c : Char} (h : isBlank c = false) (cs : List Char) :
    skipBlanks (c :: cs) = c :: cs := by
  simp [skipBlanks, h]

theorem toList_lineBreak (level : Nat) :
    (lineBreak level).toList = '\n' :: List.replicate (2 * level) ' ' := by
  simp [lineBreak]

theorem isBlank_of_mem_lineBreak {level : Nat} {c : Char} (h : c ∈ (lineBreak level).toList) :
    isBlank c = true := by
  rw [toList_lineBreak] at h
  rcases List.mem_cons.mp h with rfl | hindent
  · rfl
  · rw [List.eq_of_mem_replicate hindent]
    rfl

theorem skipBlanks_lineBreak (level : Nat) (cs : List Char) :
    skipBlanks ((lineBreak level).toList ++ cs) = skipBlanks cs :=
  skipBlanks_append (fun _ => isBlank_of_mem_lineBreak) cs

/-- A number begins with a digit or a minus sign. -/
theorem exists_cons_of_readNumber? {cs rest : List Char} {v : Json}
    (h : readNumber? cs = some (v, rest)) :
    ∃ c cs', cs = c :: cs' ∧ (c = '-' ∨ c.isDigit = true) := by
  cases cs with
  | nil => cases h
  | cons c cs =>
    refine ⟨c, cs, rfl, ?_⟩
    by_cases hminus : c = '-'
    · exact .inl hminus
    · rw [readNumber?_of_ne hminus] at h
      cases hdigit : c.isDigit with
      | true => exact .inr rfl
      | false => simp [readMagnitude?, readSignificand, hdigit] at h

section

variable {c : Char} (h : c = '-' ∨ c.isDigit = true)
include h

theorem ne_of_begins_number (d : Char) (hd : (d.isDigit || d == '-') = false) : c ≠ d := by
  rintro rfl
  rcases h with rfl | h
  · cases hd
  · rw [h] at hd
    cases hd

theorem isBlank_of_begins_number : isBlank c = false := by
  have hne := ne_of_begins_number h
  simp [isBlank, hne ' ' rfl, hne '\t' rfl, hne '\n' rfl, hne '\r' rfl]

/-- What begins with a digit or a minus sign is taken for a number. -/
theorem readValue?_number (fuel : Nat) (room : Option Nat) (cs : List Char) :
    readValue? (fuel + 1) room (c :: cs) = readNumber? (c :: cs) := by
  have hne := ne_of_begins_number h
  rw [readValue?, skipBlanks_cons (isBlank_of_begins_number h)]
  simp [hne 'n' rfl, hne 't' rfl, hne 'f' rfl, hne '"' rfl, hne '[' rfl, hne '\x7b' rfl]

end

/-! ## Reading -/

theorem readValue?_congr {cs cs' : List Char} (h : skipBlanks cs = skipBlanks cs') (fuel : Nat)
    (room : Option Nat) : readValue? fuel room cs = readValue? fuel room cs' := by
  cases fuel with
  | zero => rfl
  | succ fuel => rw [readValue?, readValue?, h]

theorem readItems?_congr {cs cs' : List Char} (h : skipBlanks cs = skipBlanks cs') (fuel : Nat)
    (room : Option Nat) (done : List Json) :
    readItems? fuel room done cs = readItems? fuel room done cs' := by
  cases fuel with
  | zero => rfl
  | succ fuel => rw [readItems?, readItems?, readValue?_congr h]

theorem readFields?_congr {cs cs' : List Char} (h : skipBlanks cs = skipBlanks cs') (fuel : Nat)
    (room : Option Nat) (done : List (String × Json)) :
    readFields? fuel room done cs = readFields? fuel room done cs' := by
  cases fuel with
  | zero => rfl
  | succ fuel => rw [readFields?, readFields?, h]

theorem readValue?_array {cs cs' : List Char} {c : Char} (hcs : skipBlanks cs = c :: cs')
    (hc : c ≠ ']') (fuel : Nat) (room : Option Nat) :
    readValue? (fuel + 1) room ('[' :: cs)
      = (enter? room).bind fun inner => readItems? fuel inner [] cs := by
  have hskip : skipBlanks (c :: cs') = skipBlanks cs := by rw [← hcs, skipBlanks_skipBlanks]
  rw [readValue?, skipBlanks_cons rfl]
  simp only [hcs]
  cases enter? room with
  | none => rfl
  | some inner =>
    rw [Option.bind_some, ← readItems?_congr hskip]
    simp [hc]

theorem readValue?_object {cs cs' : List Char} (hcs : skipBlanks cs = '"' :: cs') (fuel : Nat)
    (room : Option Nat) :
    readValue? (fuel + 1) room ('\x7b' :: cs)
      = (enter? room).bind fun inner => readFields? fuel inner [] cs := by
  have hskip : skipBlanks ('"' :: cs') = skipBlanks cs := by rw [← hcs, skipBlanks_skipBlanks]
  rw [readValue?, skipBlanks_cons rfl]
  simp only [hcs]
  cases enter? room with
  | none => rfl
  | some inner =>
    rw [Option.bind_some, ← readFields?_congr hskip]
    simp

/-- What a reader gives that finds a value with the given nesting before `rest`. -/
def given (room : Option Nat) (nesting : Nat) (v : Json) (rest : List Char) :
    Option (Json × List Char) :=
  if hasRoom room nesting then some (v, rest) else none

/-- The text is that of the value, whatever comes after it. -/
structure ReadsAs (text : List Char) (v : Json) : Prop where
  begins : ∀ rest, ∃ c cs, skipBlanks (text ++ rest) = c :: cs ∧ c ≠ ']'
  read : ∀ fuel room rest, 2 * text.length ≤ fuel → EndsNumber rest →
    readValue? fuel room (text ++ rest) = given room v.nesting v rest

/-- The text is that of the elements of an array, with the bracket at its end. -/
structure ReadsAsItems (text : List Char) (items : List Json) : Prop where
  begins : ∀ rest, ∃ c cs, skipBlanks (text ++ rest) = c :: cs ∧ c ≠ ']'
  read : ∀ fuel room done rest, 2 * text.length ≤ fuel →
    readItems? fuel room done (text ++ rest)
      = given room (itemsNesting items) (.array (done.reverse ++ items)) rest

/-- The text is that of the fields of an object, with the brace at its end. -/
structure ReadsAsFields (text : List Char) (fields : List (String × Json)) : Prop where
  begins : ∀ rest, ∃ cs, skipBlanks (text ++ rest) = '"' :: cs
  read : ∀ fuel room done rest, 2 * text.length ≤ fuel →
    readFields? fuel room done (text ++ rest)
      = given room (fieldsNesting fields) (.ofFields (done.reverse ++ fields)) rest

theorem endsNumber_cons {c : Char} (h : c = ',' ∨ c = '\n') (rest : List Char) :
    EndsNumber (c :: rest) := by
  intro d hd
  obtain rfl := Option.some.inj hd
  rcases h with rfl | rfl <;> decide

/-- Every character is worth two steps, of which one is taken. -/
theorem exists_step {n fuel : Nat} (h : 2 * (n + 1) ≤ fuel) :
    ∃ fuel', fuel = fuel' + 1 ∧ 2 * n + 1 ≤ fuel' :=
  ⟨fuel - 1, by omega, by omega⟩

namespace ReadsAs

variable {text : List Char} {v : Json}

/-- A value without nesting has room everywhere. -/
theorem flat {c : Char} {cs : List Char} (hblank : isBlank c = false) (hc : c ≠ ']')
    (hv : v.nesting = 0)
    (h : ∀ fuel room rest, EndsNumber rest →
      readValue? (fuel + 1) room (c :: cs ++ rest) = some (v, rest)) :
    ReadsAs (c :: cs) v := by
  constructor
  · exact fun rest => ⟨c, cs ++ rest, skipBlanks_cons hblank _, hc⟩
  · intro fuel room rest hfuel hrest
    obtain ⟨fuel, rfl, -⟩ := exists_step hfuel
    -- No room is asked for.
    rw [h fuel room rest hrest, given, hv, hasRoom_zero]
    rfl

theorem number (h : readNumber? text = some (v, [])) (hv : v.nesting = 0) : ReadsAs text v := by
  obtain ⟨c, cs, rfl, hc⟩ := exists_cons_of_readNumber? h
  refine .flat (isBlank_of_begins_number hc) (ne_of_begins_number hc ']' rfl) hv ?_
  intro fuel room rest hrest
  rw [List.cons_append, readValue?_number hc]
  exact readNumber?_append hrest h

theorem string (s : String) : ReadsAs (quote s).toList (.string s) := by
  have hquote : (quote s).toList = '"' :: afterQuote s [] := by
    rw [← toList_quote_append, List.append_nil]
  rw [hquote]
  refine .flat rfl (by decide) rfl ?_
  intro fuel room rest _
  rw [← hquote, toList_quote_append, readValue?, skipBlanks_cons rfl]
  simp [readString?_afterQuote]

theorem null : ReadsAs "null".toList .null :=
  .flat rfl (by decide) rfl fun _ _ _ _ => rfl

theorem bool : ∀ b : Bool, ReadsAs (compact (.bool b)).toList (.bool b)
  | true => .flat rfl (by decide) rfl fun _ _ _ _ => rfl
  | false => .flat rfl (by decide) rfl fun _ _ _ _ => rfl

theorem integer (n : WordInteger) : ReadsAs n.text.toList (.integer n) :=
  .number (readNumber?_text n) rfl

end ReadsAs

theorem bind_enter?_given (room : Option Nat) (n : Nat) (v : Json) (rest : List Char) :
    ((enter? room).bind fun inner => given inner n v rest) = given room (n + 1) v rest := by
  cases h : enter? room with
  | none => rw [given, hasRoom_of_enter?_eq_none h]; rfl
  | some inner => rw [Option.bind_some, given, given, hasRoom_of_enter? h]

namespace ReadsAs

variable {text : List Char}

theorem array {items : List Json} (h : ReadsAsItems text items) :
    ReadsAs ('[' :: text) (.array items) := by
  constructor
  · exact fun rest => ⟨_, _, skipBlanks_cons rfl _, by decide⟩
  · intro fuel room rest hfuel _
    obtain ⟨fuel, rfl, hfuel⟩ := exists_step hfuel
    obtain ⟨c, cs, hcs, hc⟩ := h.begins rest
    have hitems : ∀ inner, readItems? fuel inner [] (text ++ rest)
        = given inner (itemsNesting items) (.array items) rest :=
      fun inner => h.read fuel inner [] rest (by omega)
    rw [List.cons_append, readValue?_array hcs hc]
    simp only [hitems, bind_enter?_given]
    rfl

theorem object {fields : List (String × Json)} (hkeys : Ascending fields)
    (h : ReadsAsFields text fields) : ReadsAs ('\x7b' :: text) (.object fields) := by
  constructor
  · exact fun rest => ⟨_, _, skipBlanks_cons rfl _, by decide⟩
  · intro fuel room rest hfuel _
    obtain ⟨fuel, rfl, hfuel⟩ := exists_step hfuel
    obtain ⟨cs, hcs⟩ := h.begins rest
    have hfields : ∀ inner, readFields? fuel inner [] (text ++ rest)
        = given inner (fieldsNesting fields) (.object fields) rest := by
      intro inner
      rw [← ofFields_of_ascending hkeys]
      exact h.read fuel inner [] rest (by omega)
    rw [List.cons_append, readValue?_object hcs]
    simp only [hfields, bind_enter?_given]
    rfl

theorem emptyArray : ReadsAs "[]".toList (.array []) := by
  constructor
  · exact fun rest => ⟨_, _, skipBlanks_cons rfl _, by decide⟩
  · intro fuel room rest hfuel _
    obtain ⟨fuel, rfl, -⟩ := exists_step hfuel
    have hcs : "[]".toList ++ rest = '[' :: ']' :: rest := rfl
    rw [nesting, itemsNesting, ← bind_enter?_given, hcs, readValue?, skipBlanks_cons rfl]
    cases enter? room with
    | none => rfl
    | some inner => simp [given, hasRoom_zero, skipBlanks_cons (c := ']') rfl]

theorem emptyObject : ReadsAs "\x7b\x7d".toList (.object []) := by
  constructor
  · exact fun rest => ⟨_, _, skipBlanks_cons rfl _, by decide⟩
  · intro fuel room rest hfuel _
    obtain ⟨fuel, rfl, -⟩ := exists_step hfuel
    have hcs : "\x7b\x7d".toList ++ rest = '\x7b' :: '\x7d' :: rest := rfl
    rw [nesting, fieldsNesting, ← bind_enter?_given, hcs, readValue?, skipBlanks_cons rfl]
    cases enter? room with
    | none => rfl
    | some inner => simp [given, hasRoom_zero, skipBlanks_cons (c := '\x7d') rfl]

end ReadsAs

/-! ## Elements and fields -/

theorem length_lineBreak_pos (level : Nat) : 0 < (lineBreak level).toList.length := by
  rw [toList_lineBreak]
  exact Nat.zero_lt_succ _

section

variable {text text' tail : List Char} {v : Json} {items : List Json}
  {fields : List (String × Json)}

theorem readItems?_item (h : ReadsAs text v) (level : Nat) {fuel : Nat}
    (hfuel : 2 * text.length ≤ fuel) (htail : EndsNumber tail) (room : Option Nat)
    (done : List Json) :
    readItems? (fuel + 1) room done ((lineBreak level).toList ++ (text ++ tail))
      = if hasRoom room v.nesting then
          match skipBlanks tail with
          | ',' :: rest => readItems? fuel room (v :: done) rest
          | ']' :: rest => some (.array (v :: done).reverse, rest)
          | _ => none
        else none := by
  rw [readItems?, readValue?_congr (skipBlanks_lineBreak level _),
    h.read fuel room tail hfuel htail, given]
  cases hasRoom room v.nesting <;> rfl

theorem ReadsAs.begins_lineBreak (h : ReadsAs text v) (level : Nat) (tail : List Char) :
    ∃ c cs, skipBlanks ((lineBreak level).toList ++ (text ++ tail)) = c :: cs ∧ c ≠ ']' := by
  rw [skipBlanks_lineBreak]
  exact h.begins tail

theorem ReadsAsItems.last (h : ReadsAs text v) (level level' : Nat) :
    ReadsAsItems ((lineBreak level).toList ++ (text ++ ((lineBreak level').toList ++ [']'])))
      [v] := by
  constructor
  · intro rest
    simp only [List.append_assoc]
    exact h.begins_lineBreak level _
  · intro fuel room done rest hfuel
    have hlevel := length_lineBreak_pos level
    simp only [List.length_append] at hfuel
    obtain ⟨fuel, rfl⟩ : ∃ fuel', fuel = fuel' + 1 := ⟨fuel - 1, by omega⟩
    have hends : EndsNumber ((lineBreak level').toList ++ (']' :: rest)) := by
      rw [toList_lineBreak]
      exact endsNumber_cons (.inr rfl) _
    simp only [List.append_assoc, List.singleton_append]
    rw [readItems?_item h level (by omega) hends, skipBlanks_lineBreak, skipBlanks_cons rfl]
    simp [given, itemsNesting]

theorem ReadsAsItems.cons (h : ReadsAs text v) (hitems : ReadsAsItems text' items) (level : Nat) :
    ReadsAsItems ((lineBreak level).toList ++ (text ++ ',' :: text')) (v :: items) := by
  constructor
  · intro rest
    simp only [List.append_assoc]
    exact h.begins_lineBreak level _
  · intro fuel room done rest hfuel
    simp only [List.length_append, List.length_cons] at hfuel
    obtain ⟨fuel, rfl⟩ : ∃ fuel', fuel = fuel' + 1 := ⟨fuel - 1, by omega⟩
    simp only [List.append_assoc, List.cons_append]
    rw [readItems?_item h level (by omega) (endsNumber_cons (.inl rfl) _), skipBlanks_cons rfl]
    have hrest := hitems.read fuel room (v :: done) rest (by omega)
    simp only [hrest, given, itemsNesting, hasRoom_max]
    cases hasRoom room v.nesting <;> simp

theorem readFields?_field (h : ReadsAs text v) (level : Nat) (key : String) {fuel : Nat}
    (hfuel : 2 * text.length ≤ fuel) (htail : EndsNumber tail) (room : Option Nat)
    (done : List (String × Json)) :
    readFields? (fuel + 1) room done
        ((lineBreak level).toList ++ ((quote key).toList ++ ':' :: ' ' :: (text ++ tail)))
      = if hasRoom room v.nesting then
          match skipBlanks tail with
          | ',' :: rest => readFields? fuel room ((key, v) :: done) rest
          | '\x7d' :: rest => some (.ofFields ((key, v) :: done).reverse, rest)
          | _ => none
        else none := by
  have hblank : skipBlanks (' ' :: (text ++ tail)) = skipBlanks (text ++ tail) := rfl
  have hvalue := readValue?_congr hblank fuel room
  rw [readFields?, skipBlanks_lineBreak, toList_quote_append, skipBlanks_cons rfl]
  simp only [readString?_afterQuote, skipBlanks_cons (c := ':') rfl, hvalue,
    h.read fuel room tail hfuel htail, given]
  cases hasRoom room v.nesting <;> rfl

theorem begins_field (level : Nat) (key : String) (tail : List Char) :
    ∃ cs, skipBlanks ((lineBreak level).toList ++ ((quote key).toList ++ tail)) = '"' :: cs := by
  rw [skipBlanks_lineBreak, toList_quote_append, skipBlanks_cons rfl]
  exact ⟨_, rfl⟩

theorem ReadsAsFields.last (h : ReadsAs text v) (level level' : Nat) (key : String) :
    ReadsAsFields ((lineBreak level).toList ++ ((quote key).toList ++
      ':' :: ' ' :: (text ++ ((lineBreak level').toList ++ ['\x7d'])))) [(key, v)] := by
  constructor
  · intro rest
    simp only [List.append_assoc]
    exact begins_field level key _
  · intro fuel room done rest hfuel
    have hlevel := length_lineBreak_pos level
    simp only [List.length_append, List.length_cons] at hfuel
    obtain ⟨fuel, rfl⟩ : ∃ fuel', fuel = fuel' + 1 := ⟨fuel - 1, by omega⟩
    have hends : EndsNumber ((lineBreak level').toList ++ ('\x7d' :: rest)) := by
      rw [toList_lineBreak]
      exact endsNumber_cons (.inr rfl) _
    simp only [List.append_assoc, List.cons_append, List.nil_append]
    rw [readFields?_field h level key (by omega) hends, skipBlanks_lineBreak, skipBlanks_cons rfl]
    simp [given, fieldsNesting]

theorem ReadsAsFields.cons (h : ReadsAs text v) (hfields : ReadsAsFields text' fields)
    (level : Nat) (key : String) :
    ReadsAsFields ((lineBreak level).toList ++ ((quote key).toList ++
      ':' :: ' ' :: (text ++ ',' :: text'))) ((key, v) :: fields) := by
  constructor
  · intro rest
    simp only [List.append_assoc]
    exact begins_field level key _
  · intro fuel room done rest hfuel
    simp only [List.length_append, List.length_cons] at hfuel
    obtain ⟨fuel, rfl⟩ : ∃ fuel', fuel = fuel' + 1 := ⟨fuel - 1, by omega⟩
    simp only [List.append_assoc, List.cons_append]
    rw [readFields?_field h level key (by omega) (endsNumber_cons (.inl rfl) _),
      skipBlanks_cons rfl]
    have hrest := hfields.read fuel room ((key, v) :: done) rest (by omega)
    simp only [hrest, given, fieldsNesting, hasRoom_max]
    cases hasRoom room v.nesting <;> simp

end

/-! ## The pretty layout -/

-- By recursion on the value. The line with the closing bracket goes with the elements, since it is
-- their reader that ends on it.
mutual

theorem readsAs_prettyAt (level : Nat) : ∀ {v : Json}, Sorted v → (∀ x ∈ v.floats, x.ReadsBack) →
    ReadsAs (prettyAt level v).toList v
  | .null, _, _ => .null
  | .bool b, _, _ => .bool b
  | .integer n, _, _ => .integer n
  | .float x, _, hfloats => .number (hfloats x (List.mem_singleton_self x)) rfl
  | .string s, _, _ => .string s
  | .array [], _, _ => .emptyArray
  | .array (item :: items), .array h, hfloats => by
    have hitems :=
      readsAsItems_prettyItems (level + 1) level (List.cons_ne_nil item items) h hfloats
    simpa [prettyAt] using ReadsAs.array hitems
  | .object [], _, _ => .emptyObject
  | .object (field :: fields), .object hkeys h, hfloats => by
    have hfields :=
      readsAsFields_prettyFields (level + 1) level (List.cons_ne_nil field fields) h hfloats
    simpa [prettyAt] using ReadsAs.object hkeys hfields

theorem readsAsItems_prettyItems (level level' : Nat) : ∀ {items : List Json}, items ≠ [] →
    (∀ v ∈ items, Sorted v) → (∀ x ∈ itemsFloats items, x.ReadsBack) →
    ReadsAsItems ((prettyItems level items).toList ++ ((lineBreak level').toList ++ [']'])) items
  | [v], _, h, hfloats => by
    have hv := readsAs_prettyAt level (h v (by simp)) fun x hx => hfloats x (by simpa [itemsFloats])
    simpa [prettyItems] using ReadsAsItems.last hv level level'
  | v :: w :: items, _, h, hfloats => by
    rw [itemsFloats, List.forall_mem_append] at hfloats
    have hv := readsAs_prettyAt level (h v (by simp)) hfloats.1
    have hitems := readsAsItems_prettyItems level level' (List.cons_ne_nil w items)
      (List.forall_mem_cons.mp h).2 hfloats.2
    simpa [prettyItems] using ReadsAsItems.cons hv hitems level

theorem readsAsFields_prettyFields (level level' : Nat) : ∀ {fields : List (String × Json)},
    fields ≠ [] → (∀ field ∈ fields, Sorted field.2) →
    (∀ x ∈ fieldsFloats fields, x.ReadsBack) →
    ReadsAsFields ((prettyFields level fields).toList ++ ((lineBreak level').toList ++ ['\x7d']))
      fields
  | [(key, v)], _, h, hfloats => by
    have hv := readsAs_prettyAt level (h (key, v) (by simp))
      fun x hx => hfloats x (by simpa [fieldsFloats])
    simpa [prettyFields] using ReadsAsFields.last hv level level' key
  | (key, v) :: field :: fields, _, h, hfloats => by
    rw [fieldsFloats, List.forall_mem_append] at hfloats
    have hv := readsAs_prettyAt level (h (key, v) (by simp)) hfloats.1
    have hfields := readsAsFields_prettyFields level level' (List.cons_ne_nil field fields)
      (List.forall_mem_cons.mp h).2 hfloats.2
    simpa [prettyFields] using ReadsAsFields.cons hv hfields level key

end

/-! ## Documents -/

/-- A value on lines of its own is the next document of the text, if it nests no deeper than
documents may; otherwise the text has none. -/
theorem nextDocument?_pretty {v : Json} (h : Sorted v) (hfloats : ∀ x ∈ v.floats, x.ReadsBack) :
    nextDocument? (v.pretty.toList ++ ['\n'])
      = if v.nesting ≤ 127 then some (v, ['\n']) else none := by
  have hfirst : readFirst? documentRoom (v.pretty.toList ++ ['\n'])
      = given documentRoom v.nesting v ['\n'] := by
    refine (readsAs_prettyAt 0 h hfloats).read _ _ _ ?_ (endsNumber_cons (.inr rfl) [])
    rw [pretty, List.length_append]
    omega
  have hends : separates '\n' = true := rfl
  rw [nextDocument?, hfirst]
  by_cases hroom : v.nesting ≤ 127
  · simp [given, hasRoom, documentRoom, hroom, hends]
  · simp [given, hasRoom, documentRoom, hroom]

theorem all_isBlank_pretty {v : Json} (h : Sorted v) (hfloats : ∀ x ∈ v.floats, x.ReadsBack)
    (rest : List Char) : (v.pretty.toList ++ rest).all isBlank = false := by
  obtain ⟨c, cs, hbegins, -⟩ := (readsAs_prettyAt 0 h hfloats).begins rest
  rw [← Bool.not_eq_true, List.all_eq_true, ← List.dropWhile_eq_nil_iff]
  exact fun hnil => List.cons_ne_nil c cs (hbegins.symm.trans hnil)

end Json

end Clausal
