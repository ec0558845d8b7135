import Clausal.Proofs.Statement.DepthLimit
import Clausal.Proofs.Statement.Layout

/-!
# Reading quotes and parentheses

A reader of the finished text who only minds quotes and parentheses: a quote begins or ends a quoted
part, and parentheses count outside of quoted parts. If nothing but whole statements is put into a
clause map, the reader sees every parenthesis closed, and what stands in quotes is what the names
are made of, whatever characters these have.
-/

namespace Clausal

/-! ## Reading -/

/-- Where a reader stands: inside quotes or not, and after how many parentheses that are not closed
yet. Parentheses closed before they are opened make the number negative. -/
structure Reading where
  quoted : Bool
  opened : Int
  deriving DecidableEq

namespace Reading

def start : Reading := ⟨false, 0⟩

def next (r : Reading) (c : Char) : Reading :=
  if c = '"' then { r with quoted := !r.quoted }
  else if r.quoted then r
  else if c = '(' then { r with opened := r.opened + 1 }
  else if c = ')' then { r with opened := r.opened - 1 }
  else r

def after (r : Reading) (cs : List Char) : Reading :=
  cs.foldl next r

/-- The characters that are read inside quotes, without the quotes themselves. -/
def quotedChars (r : Reading) : List Char → List Char
  | [] => []
  | c :: cs =>
    if r.quoted && c != '"' then c :: (r.next c).quotedChars cs else (r.next c).quotedChars cs

variable {r : Reading} {cs : List Char}

@[simp] theorem after_nil : r.after [] = r := rfl

@[simp] theorem after_cons (c : Char) : r.after (c :: cs) = (r.next c).after cs := rfl

@[simp] theorem after_append (ds : List Char) : r.after (cs ++ ds) = (r.after cs).after ds :=
  List.foldl_append

theorem quotedChars_append (ds : List Char) :
    r.quotedChars (cs ++ ds) = r.quotedChars cs ++ (r.after cs).quotedChars ds := by
  induction cs generalizing r with
  | nil => rfl
  | cons c cs ih =>
    rw [List.cons_append, quotedChars, quotedChars, ih, after_cons]
    split <;> rfl

/-- What is read inside quotes is read at some place. -/
theorem exists_of_quotedChars {c : Char} {before behind : List Char}
    (h : r.quotedChars cs = before ++ c :: behind) :
    ∃ left right, cs = left ++ c :: right ∧ (r.after left).quoted = true ∧
      r.quotedChars left = before := by
  induction cs generalizing r before with
  | nil => exact absurd h.symm (by simp [quotedChars])
  | cons x cs ih =>
    rw [quotedChars] at h
    cases hx : r.quoted && x != '"' with
    | false =>
      rw [hx] at h
      obtain ⟨left, right, rfl, hquoted, hbefore⟩ := ih h
      refine ⟨x :: left, right, rfl, hquoted, ?_⟩
      rw [quotedChars, hx]
      exact hbefore
    | true =>
      rw [hx] at h
      cases before with
      | nil =>
        obtain ⟨rfl, -⟩ := List.cons.inj h
        exact ⟨[], cs, rfl, (Bool.and_eq_true_iff.mp hx).1, rfl⟩
      | cons b before =>
        obtain ⟨rfl, hrest⟩ := List.cons.inj h
        obtain ⟨left, right, rfl, hquoted, hbefore⟩ := ih hrest
        refine ⟨x :: left, right, rfl, hquoted, ?_⟩
        rw [quotedChars, hx, if_pos rfl, hbefore]

end Reading

/-! ## Bracketed texts -/

/-- A text that a reader leaves as it was entered, inside quotes or outside, with every parenthesis
closed after it was opened. The last argument has the characters that are read inside quotes. -/
structure Bracketed (q : Bool) (cs inside : List Char) : Prop where
  closed : ∀ d, Reading.after ⟨q, d⟩ cs = ⟨q, d⟩
  above : ∀ d left, left <+: cs → d ≤ (Reading.after ⟨q, d⟩ left).opened
  quoted : ∀ d, Reading.quotedChars ⟨q, d⟩ cs = inside

/-- A character that a reader passes over. -/
def isInert (c : Char) : Bool :=
  c != '"' && c != '(' && c != ')'

theorem prefix_append_cases {α : Type} {left xs ys : List α} (h : left <+: xs ++ ys) :
    left <+: xs ∨ ∃ more, more <+: ys ∧ left = xs ++ more := by
  rcases List.prefix_or_prefix_of_prefix h (List.prefix_append xs ys) with hleft | ⟨more, rfl⟩
  · exact .inl hleft
  · exact .inr ⟨more, (List.prefix_append_right_inj xs).mp h, rfl⟩

namespace Bracketed

variable {q : Bool} {cs ds inside insides : List Char}

theorem nil : Bracketed q [] [] where
  closed _ := rfl
  above d left hleft := by
    rw [List.prefix_nil.mp hleft]
    exact Int.le_refl d
  quoted _ := rfl

theorem append (h : Bracketed q cs inside) (h' : Bracketed q ds insides) :
    Bracketed q (cs ++ ds) (inside ++ insides) where
  closed d := by rw [Reading.after_append, h.closed, h'.closed]
  above d left hleft := by
    rcases prefix_append_cases hleft with hleft | ⟨more, hmore, rfl⟩
    · exact h.above d left hleft
    · rw [Reading.after_append, h.closed]
      exact h'.above d more hmore
  quoted d := by rw [Reading.quotedChars_append, h.closed, h.quoted, h'.quoted]

theorem flatMap {α : Type} {xs : List α} {f g : α → List Char}
    (h : ∀ x ∈ xs, Bracketed q (f x) (g x)) : Bracketed q (xs.flatMap f) (xs.flatMap g) := by
  induction xs with
  | nil => exact .nil
  | cons x xs ih =>
    obtain ⟨hx, hxs⟩ := List.forall_mem_cons.mp h
    exact hx.append (ih hxs)

theorem intercalate {α : Type} {separator : List Char} {xs : List α} {f g : α → List Char}
    (hseparator : Bracketed q separator []) (h : ∀ x ∈ xs, Bracketed q (f x) (g x)) :
    Bracketed q (separator.intercalate (xs.map f)) (xs.flatMap g) := by
  induction xs with
  | nil => exact .nil
  | cons x xs ih =>
    obtain ⟨hx, hxs⟩ := List.forall_mem_cons.mp h
    cases xs with
    | nil => simpa [List.intercalate_singleton] using hx
    | cons y ys =>
      rw [List.map_cons, List.map_cons, List.intercalate_cons_cons, List.flatMap_cons,
        ← List.append_nil (g x)]
      exact (hx.append hseparator).append (ih hxs)

/-- Between a character that opens something and the one that closes it again. Both stand outside
of quotes or are quotes, so they are not among what is read inside. -/
theorem enclosed {opening closing : Char} {q' : Bool} {k : Int} (hk : 0 ≤ k)
    (hopens : ∀ d, Reading.next ⟨q, d⟩ opening = ⟨q', d + k⟩)
    (hcloses : ∀ d, Reading.next ⟨q', d + k⟩ closing = ⟨q, d⟩)
    (houtside : (q && opening != '"') = false) (houtside' : (q' && closing != '"') = false)
    (h : Bracketed q' cs inside) : Bracketed q (opening :: (cs ++ [closing])) inside where
  closed d := by
    rw [Reading.after_cons, hopens, Reading.after_append, h.closed, Reading.after_cons, hcloses,
      Reading.after_nil]
  above d left hleft := by
    rcases List.prefix_cons_iff.mp hleft with rfl | ⟨left, rfl, hinner⟩
    · exact Int.le_refl d
    · rw [Reading.after_cons, hopens]
      -- The reader is still inside, or it has come to the closing character.
      rcases prefix_append_cases hinner with hinner | ⟨more, hmore, rfl⟩
      · exact Int.le_trans (Int.le_add_of_nonneg_right hk) (h.above (d + k) left hinner)
      · rw [Reading.after_append, h.closed]
        rcases List.prefix_cons_iff.mp hmore with rfl | ⟨last, rfl, hlast⟩
        · exact Int.le_add_of_nonneg_right hk
        · rw [Reading.after_cons, hcloses, List.prefix_nil.mp hlast]
          exact Int.le_refl d
  quoted d := by
    rw [Reading.quotedChars, houtside, hopens, Reading.quotedChars_append, h.closed, h.quoted,
      Reading.quotedChars, houtside']
    exact List.append_nil inside

theorem inParentheses (h : Bracketed false cs inside) :
    Bracketed false ('(' :: (cs ++ [')'])) inside := by
  refine h.enclosed (k := 1) (by decide) (fun _ => rfl) (fun d => ?_) rfl rfl
  exact congrArg (Reading.mk false) (Int.add_sub_cancel d 1)

/-- Where quotes are already open, the first quote ends a quoted part and the last one begins
another. -/
theorem inQuotes (h : Bracketed (!q) cs inside) : Bracketed q ('"' :: (cs ++ ['"'])) inside := by
  refine h.enclosed (k := 0) (by decide) (fun d => ?_) (fun d => ?_) (by simp) (by simp)
  · simp [Reading.next]
  · simp [Reading.next]

/-- A character that leaves the reader where it is. -/
theorem still {c : Char} (h : ∀ d, Reading.next ⟨q, d⟩ c = ⟨q, d⟩) (hc : c ≠ '"') :
    Bracketed q [c] (if q then [c] else []) where
  closed d := h d
  above d left hleft := by
    rcases List.prefix_cons_iff.mp hleft with rfl | ⟨left, rfl, hrest⟩
    · exact Int.le_refl d
    · rw [List.prefix_nil.mp hrest, Reading.after_cons, h]
      exact Int.le_refl d
  quoted d := by
    cases q <;> simp [Reading.quotedChars, hc]

theorem inert {c : Char} (h : isInert c = true) : Bracketed false [c] [] := by
  unfold isInert at h
  simp only [Bool.and_eq_true, bne_iff_ne] at h
  obtain ⟨⟨hquote, hopening⟩, hclosing⟩ := h
  refine still (fun d => ?_) hquote
  simp [Reading.next, hquote, hopening, hclosing]

theorem plain (h : ∀ c ∈ cs, isInert c = true) : Bracketed false cs [] := by
  have hall := flatMap (f := ([·])) (g := fun _ => []) fun c hc => inert (h c hc)
  rw [List.flatMap_singleton', List.flatMap_eq_nil_iff.mpr fun _ _ => rfl] at hall
  exact hall

end Bracketed

/-! ## Texts -/

/-- The characters of a name that stand in quotes: all but the dots. -/
def Ident.characters (name : String) : List Char :=
  name.toList.filter (· != '.')

/-- Inside the outer quotes a dot ends a quoted part and begins another. -/
theorem Ident.bracketed_segments {cs : List Char} (h : '"' ∉ cs) :
    Bracketed true (cs.flatMap fun c => if c = '.' then ['"', '.', '"'] else [c])
      (cs.filter (· != '.')) := by
  induction cs with
  | nil => exact .nil
  | cons c cs ih =>
    obtain ⟨hquote, hcs⟩ := not_or.mp (mt List.mem_cons.mpr h)
    rw [List.flatMap_cons]
    by_cases hdot : c = '.'
    · have hsingle : Bracketed true ['"', '.', '"'] [] :=
        Bracketed.inQuotes (q := true) (.inert (by decide))
      rw [if_pos hdot, List.filter_cons_of_neg (by simpa using hdot)]
      exact hsingle.append (ih hcs)
    · have hsingle : Bracketed true [c] [c] :=
        .still (fun d => by simp [Reading.next, Ne.symm hquote]) (Ne.symm hquote)
      rw [if_neg hdot, List.filter_cons_of_pos (by simpa using hdot)]
      exact hsingle.append (ih hcs)

theorem Ident.bracketed_quote {s : String} (h : '"' ∉ s.toList) :
    Bracketed false (Ident.quote s).toList (Ident.characters s) := by
  have hhead : s.toList.head? ≠ some '"' := fun hhead => h (List.mem_of_mem_head? hhead)
  rw [Ident.quote, Ident.quoteChars, if_neg hhead, String.toList_ofList]
  exact Bracketed.inQuotes (q := false) (Ident.bracketed_segments h)

theorem Ident.bracketed_list {ns : List String} (h : ∀ s ∈ ns, '"' ∉ s.toList) :
    Bracketed false (Ident.list ns).toList (ns.flatMap Ident.characters) := by
  have hseparator : Bracketed false ", ".toList [] :=
    .plain (List.all_eq_true.mp (by decide))
  have hnames := hseparator.intercalate fun s hs => Ident.bracketed_quote (h s hs)
  have htext : (Ident.list ns).toList
      = '(' :: (", ".toList.intercalate (ns.map fun s => (Ident.quote s).toList) ++ [')']) := by
    simp [Ident.list, String.toList_intercalate, Function.comp_def]
  rw [htext]
  exact hnames.inParentheses

/-! ## Layouts -/

/-- Whether what is written at a mark leaves a reader where it is: no raw text, no name with a
quote, and no function name with a quote or a parenthesis in its upper case. -/
def Mark.isTame : Mark → Bool
  | raw _ => false
  | name s => s.toList.all (· != '"')
  | call s => (upperText s).toList.all isInert
  | _ => true

theorem Mark.notMem_of_isTame_name {s : String} (h : (name s).isTame = true) : '"' ∉ s.toList := by
  intro hmem
  exact absurd (List.all_eq_true.mp h _ hmem) (by decide)

namespace Piece

theorem isInert_of_isPlainChar {c : Char} (h : isPlainChar c = true) : isInert c = true := by
  unfold isPlainChar at h
  unfold isInert
  simp only [Bool.and_eq_true] at h ⊢
  exact ⟨⟨h.1.1.2, h.1.2⟩, h.2⟩

theorem isInert_of_isDigit {c : Char} (h : c.isDigit = true) : isInert c = true := by
  unfold isInert
  simp only [Bool.and_eq_true, bne_iff_ne]
  refine ⟨⟨?_, ?_⟩, ?_⟩ <;>
  · rintro rfl
    exact absurd h (by decide)

theorem bracketed_word {s : String} (h : isWord s = true) : Bracketed false s.toList [] := by
  obtain ⟨c, cs, hs, hplain⟩ := exists_of_isWord h
  rw [hs]
  exact .plain fun x hx => isInert_of_isPlainChar (hplain x hx)

theorem bracketed_placeholder (n : Nat) : Bracketed false (Action.placeholder n).toList [] := by
  unfold Action.placeholder
  rw [String.toList_ofList]
  refine .plain (List.forall_mem_cons.mpr ⟨by decide, fun c hc => ?_⟩)
  exact isInert_of_isDigit (isDigit_of_mem_digitsOf hc)

/-- The names are what stands in quotes, whatever number the parameters begin with. -/
theorem Laid.bracketed {ns : List String} {ps : List Piece}
    (h : Laid (fun mark => mark.isTame = true) ns ps) :
    ∀ n, Bracketed false (textFrom n ps).toList (ns.flatMap Ident.characters) := by
  have htext : ∀ n s, textFrom n [text s] = s := fun _ _ => String.append_empty
  induction h with
  | nil => exact fun _ => .nil
  | @name s h =>
    intro n
    rw [htext, List.flatMap_singleton]
    exact Ident.bracketed_quote (Mark.notMem_of_isTame_name h)
  | names h =>
    intro n
    rw [htext]
    exact Ident.bracketed_list fun s hs => Mark.notMem_of_isTame_name (h s hs)
  | raw h => cases h
  | call h =>
    intro n
    rw [htext]
    exact .plain (List.all_eq_true.mp h)
  | param p =>
    intro n
    have hp : textFrom n [.param p] = Action.placeholder (n + 1) := String.append_empty
    rw [hp]
    exact bracketed_placeholder (n + 1)
  | number k =>
    intro n
    rw [htext, natText, String.toList_ofList]
    exact .plain fun c hc => isInert_of_isDigit (isDigit_of_mem_digitsOf hc)
  | @between _ _ ps qs w _ hw _ hps hqs =>
    intro n
    have hrest := (bracketed_word hw).append (hqs (n + (ps.filterMap param?).length))
    rw [textFrom_append, String.toList_append, List.flatMap_append]
    simpa [textFrom] using (hps n).append hrest
  | @enclosed _ _ ps qs o _ ho _ hps hqs =>
    intro n
    obtain ⟨cs, hcs, hplain⟩ := exists_of_isOpening ho
    have hinner := (hqs (n + (ps.filterMap param?).length)).inParentheses
    have hopening : Bracketed false cs [] := .plain fun c hc => isInert_of_isPlainChar (hplain c hc)
    rw [textFrom_append, String.toList_append, List.flatMap_append]
    simpa [textFrom, textFrom_append, hcs] using (hps n).append (hopening.append hinner)

end Piece

/-! ## Statements -/

/-- A reader of a statement never sees more parentheses closed than opened and ends outside of
quotes with all of them closed. What it reads in quotes are the names without their dots, one after
the other; so every such character of a name is read in quotes, at the place where what was read in
quotes before is what comes before it in the names. -/
theorem Clauses.bracketed_of_render {limit : DepthLimit} {m : ClauseMap} {s : Statement}
    (h : m.render limit = .ok s) (htame : ∀ mark ∈ m.traversal, mark.isTame = true) :
    (∀ left, left <+: s.text.toList → 0 ≤ (Reading.start.after left).opened) ∧
      Reading.start.after s.text.toList = Reading.start ∧
      Reading.start.quotedChars s.text.toList = m.names.flatMap Ident.characters ∧
      ∀ before name behind u c v, m.names = before ++ name :: behind →
        name.toList = u ++ c :: v → c ≠ '.' →
          ∃ left right, s.text.toList = left ++ c :: right ∧
            (Reading.start.after left).quoted = true ∧
            Reading.start.quotedChars left
              = before.flatMap Ident.characters ++ u.filter (· != '.') := by
  have hs := Clauses.eq_ofPieces h
  have hall : Bracketed false s.text.toList (m.names.flatMap Ident.characters) := by
    rw [hs]
    exact (m.pieces_laid htame).bracketed 0
  refine ⟨hall.above 0, hall.closed 0, hall.quoted 0, ?_⟩
  intro before name behind u c v hnames hname hdot
  have hcharacters : m.names.flatMap Ident.characters
      = (before.flatMap Ident.characters ++ u.filter (· != '.')) ++
          c :: (v.filter (· != '.') ++ behind.flatMap Ident.characters) := by
    rw [hnames, List.flatMap_append, List.flatMap_cons, Ident.characters, hname,
      List.filter_append, List.filter_cons_of_pos (by simpa using hdot)]
    simp
  exact Reading.exists_of_quotedChars ((hall.quoted 0).trans hcharacters)

/-- Names of parentheses, commas, dots, words of the language and the text of a placeholder. -/
theorem Clauses.bracketed_of_render_parentheses :
    let inner := ClauseMap.ofList [⟨_, .select [.value (.ident ")")]⟩]
    let m := ClauseMap.ofList
      [⟨_, .select [.call "count" [.value (.ident "a(b.c,")]]⟩,
        ⟨_, .from_ (.derived inner (some "(("))⟩,
        ⟨_, .where_ (.and [.inList true (.value (.ident "$1.")) [.value (.param (.int 1))],
          .exists_ (.value (.ident "WHERE"))])⟩]
    let s : Statement :=
      ⟨"SELECT COUNT(\"a(b\".\"c,\") FROM (SELECT \")\") \"((\" " ++
        "WHERE (\"$1\".\"\" NOT IN($1) AND EXISTS (\"WHERE\"))", [.int 1]⟩
    m.render (some 1) = .ok s ∧
      (∀ mark ∈ m.traversal, mark.isTame = true) ∧
      (∀ left, left <+: s.text.toList → 0 ≤ (Reading.start.after left).opened) ∧
      Reading.start.after s.text.toList = Reading.start ∧
      Reading.start.quotedChars s.text.toList = "a(bc,)(($1WHERE".toList ∧
      ∃ left right, s.text.toList = left ++ 'c' :: right ∧
        (Reading.start.after left).quoted = true ∧
        Reading.start.quotedChars left = "a(b".toList := by
  intro inner m s
  have h : m.render (some 1) = .ok s := render_eq_ok_iff.mpr ⟨by decide, by decide +kernel⟩
  have htame : ∀ mark ∈ m.traversal, mark.isTame = true := by decide
  have hnames : m.names = ["a(b.c,", ")", "((", "$1.", "WHERE"] := by decide
  obtain ⟨habove, hclosed, hquoted, hplace⟩ := Clauses.bracketed_of_render h htame
  refine ⟨h, htame, habove, hclosed, ?_, ?_⟩
  · rw [hquoted, hnames]
    decide
  · exact hplace [] "a(b.c," [")", "((", "$1.", "WHERE"] "a(b.".toList 'c' ",".toList hnames
      (by decide) (by decide)

end Clausal
