import Clausal.Statement.Writer

/-!
# Quoted names

Quoting a name twice is quoting it once. Of a name that does not begin with a quote nothing is lost:
the quotes stand at both ends and around every dot, so leaving these places out gives the name
back. Lists of names are written in the same way by the writer and by `Ident.list`.
-/

namespace Clausal

namespace Ident

/-! ## Segments -/

/-- A segment of a name in its quotes. -/
def quoteSegment (segment : List Char) : List Char :=
  '"' :: segment ++ ['"']

/-- The quoted form is that of the segments between the dots, one after the other. -/
theorem quoteSegments_eq_intercalate (cs : List Char) :
    quoteSegments cs = ['.'].intercalate ((cs.splitOn '.').map quoteSegment) := by
  induction cs with
  | nil => rfl
  | cons c cs ih =>
    obtain ⟨segment, segments, hsplit⟩ := List.exists_cons_of_ne_nil (List.splitOn_ne_nil '.' cs)
    rw [hsplit] at ih
    rw [List.splitOn_cons_eq_if_modifyHead, hsplit]
    by_cases hc : c = '.'
    · -- A dot ends an empty segment, and the quotes around it are those of two segments.
      have hdot : quoteSegments (c :: cs) = quoteSegment [] ++ ['.'] ++ quoteSegments cs := by
        simp [quoteSegments, quoteSegment, hc]
      rw [hdot, ih, if_pos (beq_iff_eq.mpr hc)]
      simp only [List.map_cons, List.intercalate_cons_cons]
    · -- Any other character goes to the front of the first segment, behind the quote.
      have hfirst : quoteSegments (c :: cs) = '"' :: c :: (quoteSegments cs).tail := by
        simp [quoteSegments, hc]
      rw [hfirst, ih, if_neg (mt beq_iff_eq.mp hc)]
      simp only [List.modifyHead_cons, List.map_cons, quoteSegment, List.cons_append,
        List.intercalate_cons_cons_left, List.tail_cons]

/-! ## Leaving the quotes out -/

/-- The characters that stand beside no dot. `afterDot` says whether a dot stands before the
first. -/
def awayFromDots (afterDot : Bool) : List Char → List Char
  | [] => []
  | c :: cs =>
    if afterDot || cs.head? == some '.' then awayFromDots (c == '.') cs
    else c :: awayFromDots (c == '.') cs

/-- The text without its first and its last character and without the two around every dot. -/
def unquote (s : String) : String :=
  String.ofList (awayFromDots false s.toList.tail.dropLast)

theorem awayFromDots_flatMap (cs : List Char) :
    awayFromDots false (cs.flatMap fun c => if c = '.' then ['"', '.', '"'] else [c]) = cs := by
  induction cs with
  | nil => rfl
  | cons c cs ih =>
    by_cases hc : c = '.'
    · simpa [hc, awayFromDots] using ih
    · -- What follows begins with a quote or with the next character, and that is no dot either.
      have hnext :
          (cs.flatMap fun c => if c = '.' then ['"', '.', '"'] else [c]).head? ≠ some '.' := by
        cases cs with
        | nil => simp
        | cons d cs => by_cases hd : d = '.' <;> simp [hd]
      have hdot : (c == '.') = false := beq_eq_false_iff_ne.mpr hc
      simpa [hc, awayFromDots, hnext, hdot] using ih

theorem toList_quote {s : String} (h : s.toList.head? ≠ some '"') :
    (quote s).toList = quoteSegments s.toList := by
  rw [quote, quoteChars, if_neg h, String.toList_ofList]

theorem unquote_quote {s : String} (h : s.toList.head? ≠ some '"') : unquote (quote s) = s := by
  rw [unquote, toList_quote h, quoteSegments, List.cons_append, List.tail_cons,
    List.dropLast_concat, awayFromDots_flatMap, String.ofList_toList]

theorem head?_quote (s : String) : (quote s).toList.head? = some '"' := by
  by_cases h : s.toList.head? = some '"'
  · rw [quote, quoteChars, if_pos h, String.ofList_toList, h]
  · rw [toList_quote h]
    rfl

theorem getLast?_quote {s : String} (h : s.toList.head? ≠ some '"') :
    (quote s).toList.getLast? = some '"' := by
  rw [toList_quote h, quoteSegments]
  exact List.getLast?_concat

theorem quote_eq_self {s : String} (h : s.toList.head? = some '"') : quote s = s := by
  rw [quote, quoteChars, if_pos h, String.ofList_toList]

end Ident

/-! ## Lists of names -/

namespace Action

theorem separated_map_put (separator : String) (texts : List String) :
    separated separator (texts.map put) = put (separator.intercalate texts) := by
  funext w
  induction texts generalizing w with
  | nil => simp [separated, skip, put]
  | cons s texts ih =>
    cases texts with
    | nil => simp [separated]
    | cons t texts =>
      have hrest := ih { w with text := w.text ++ s ++ separator }
      simpa [separated, andThen, put, String.append_assoc] using hrest

/-- The writer goes from name to name, and what it adds is the list made beforehand. -/
theorem putIdents_eq (names : List String) : putIdents names = put (Ident.list names) := by
  have hnames : names.map putIdent = (names.map Ident.quote).map put := by
    rw [List.map_map]
    rfl
  rw [putIdents, hnames, separated_map_put]
  funext w
  simp [all, andThen, skip, put, Ident.list, String.append_assoc]

end Action

/-! ## The law of quoting -/

/-- A quoted name is quoted already. The quoted form of a name that begins with no quote has its
segments in quotes and the dots between them; it begins and ends with a quote, and without the two
and the characters around the dots it is the name again, so no two names have it in common. A list
of columns is the same text whether it is written name by name or put together beforehand. -/
theorem Ident.quote_settled_and_lossless :
    (∀ s, quote (quote s) = quote s) ∧
      (∀ s, s.toList.head? ≠ some '"' →
        (quote s).toList = ['.'].intercalate ((s.toList.splitOn '.').map quoteSegment) ∧
          (quote s).toList.head? = some '"' ∧ (quote s).toList.getLast? = some '"' ∧
          unquote (quote s) = s) ∧
      (∀ s t, s.toList.head? ≠ some '"' → t.toList.head? ≠ some '"' → quote s = quote t → s = t) ∧
      ∀ columns w,
        Action.putIdents columns w = ({ w with text := w.text ++ list columns }, none) := by
  refine ⟨fun s => quote_eq_self (head?_quote s), fun s h => ?_, fun s t hs ht heq => ?_,
    fun columns w => ?_⟩
  · exact ⟨(toList_quote h).trans (quoteSegments_eq_intercalate _), head?_quote s,
      getLast?_quote h, unquote_quote h⟩
  · rw [← unquote_quote hs, heq, unquote_quote ht]
  · rw [Action.putIdents_eq]
    rfl

/-- A name with an empty segment at its start and another one inside, and with a quote before a
dot. -/
theorem Ident.quote_settled_and_lossless_empty_segments :
    let s := ".a\"..b"
    s.toList.head? ≠ some '"' ∧ quote s = "\"\".\"a\"\".\"\".\"b\"" ∧
      (quote s).toList.head? = some '"' ∧ (quote s).toList.getLast? = some '"' ∧
      unquote (quote s) = s ∧
      quote s = quote (".a\"" ++ "..b") ∧ s = ".a\"" ++ "..b" := by
  intro s
  have hs : s.toList.head? ≠ some '"' := by decide +kernel
  have ht : (".a\"" ++ "..b").toList.head? ≠ some '"' := by decide +kernel
  have hquote : quote s = quote (".a\"" ++ "..b") := by decide +kernel
  obtain ⟨-, hquoted, hinjective, -⟩ := Ident.quote_settled_and_lossless
  obtain ⟨-, hfirst, hlast, hname⟩ := hquoted s hs
  exact ⟨hs, by decide +kernel, hfirst, hlast, hname, hquote, hinjective _ _ hs ht hquote⟩

end Clausal
