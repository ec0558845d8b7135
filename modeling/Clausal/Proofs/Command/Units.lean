import Clausal.Command.Args
import Mathlib.Data.List.Basic

/-!
# Arguments in units

The arguments of a render are read in units, from left to right: an option with its value, whether
in one argument or in two, a call for help, a file, or something unknown. `Command.readRender_eq`
says that the arguments matter through their units alone. So an option can be spelled in one
argument or in two, as long as its value does not start with the option's own text: spelled in one
argument, the value loses that text.
-/

namespace Clausal

/-- What is read at a time. -/
inductive ArgUnit where
  | help
  | setting (o : ValueOption) (value : String)
  /-- An option that no argument follows. -/
  | unvalued (o : ValueOption)
  | unknown (token : String)
  | file (path : String)
  deriving DecidableEq

namespace ArgUnit

/-- The unit of an argument that takes no other with it. -/
def ofToken (token : String) : ArgUnit :=
  if isHelp token then .help
  else
    match ValueOption.ofInline? token with
    | some (o, value) => .setting o value
    | none => if isDashed token then .unknown token else .file token

def ofTokens : List String → List ArgUnit
  | [] => []
  | token :: rest =>
    match ValueOption.ofToken? token with
    | none => ofToken token :: ofTokens rest
    | some o =>
      match rest with
      | [] => [.unvalued o]
      | value :: rest => .setting o value :: ofTokens rest

/-- No option is left without its value, so the next argument begins a unit. -/
def Closed (tokens : List String) : Prop :=
  ∀ o, .unvalued o ∉ ofTokens tokens

theorem ofTokens_append {before : List String} (h : Closed before) (after : List String) :
    ofTokens (before ++ after) = ofTokens before ++ ofTokens after := by
  unfold Closed at h
  fun_induction ofTokens before with
  | case1 => rfl
  | case2 token rest hnone ih =>
    rw [List.cons_append, ofTokens, hnone, List.cons_append]
    exact congrArg _ (ih fun o ho => h o (List.mem_cons_of_mem _ ho))
  | case3 token o hsome => exact absurd (List.mem_singleton_self _) (h o)
  | case4 token o hsome value rest ih =>
    rw [List.cons_append, ofTokens, hsome, List.cons_append, List.cons_append]
    exact congrArg _ (ih fun o ho => h o (List.mem_cons_of_mem _ ho))

end ArgUnit

/-! ## Reading units -/

/-- Read units one after the other, up to one that decides. -/
def Command.readUnits (args : RenderArgs) : List ArgUnit → Except UsageError Command
  | [] => .ok (.render args)
  | .help :: _ => .ok (.help .render)
  | .setting o value :: units =>
    match args.set value o with
    | .ok args => readUnits args units
    | .error e => .error e
  | .unvalued o :: _ => .error (.missingValue o)
  | .unknown token :: _ => .error (.unknownArgument token)
  | .file path :: units => readUnits (args.addFile path) units

theorem isHelp_of_ofToken? {token : String} {o : ValueOption}
    (h : ValueOption.ofToken? token = some o) : isHelp token = false := by
  have hname := List.find?_some h
  rw [← beq_iff_eq.mp hname]
  cases o <;> decide

namespace Command

/-- Arguments of a render are read as their units are. -/
theorem readRender_eq (args : RenderArgs) (tokens : List String) :
    readRender args tokens = readUnits args (ArgUnit.ofTokens tokens) := by
  fun_induction ArgUnit.ofTokens tokens generalizing args with
  | case1 => rfl
  | case2 token rest hnone ih =>
    unfold readRender ArgUnit.ofToken
    rw [hnone]
    split
    · rfl
    · cases ValueOption.ofInline? token with
      | some setting =>
        dsimp only
        rw [readUnits]
        cases args.set setting.2 setting.1 with
        | ok args => exact ih args
        | error e => rfl
      | none =>
        dsimp only
        split
        · rfl
        · exact ih _
  | case3 token o hsome => simp [readRender, isHelp_of_ofToken? hsome, hsome, readUnits]
  | case4 token o hsome value rest ih =>
    simp only [readRender, isHelp_of_ofToken? hsome, hsome, readUnits]
    cases args.set value o with
    | ok args => exact ih args
    | error e => rfl

end Command

/-! ## Options in one argument -/

section Lead

variable {lead cs : List Char}

theorem stripLead_of_ne_lead (h : ¬ lead <+: cs) (fuel : Nat) : stripLead lead fuel cs = cs := by
  cases fuel with
  | zero => rfl
  | succ fuel => rw [stripLead, if_neg (mt List.isPrefixOf_iff_prefix.mp h)]

theorem stripLead_append (fuel : Nat) :
    stripLead lead (fuel + 1) (lead ++ cs) = stripLead lead fuel cs := by
  rw [stripLead, if_pos (List.isPrefixOf_iff_prefix.mpr (List.prefix_append lead cs)),
    List.drop_left]

/-- Each step takes a character at least, so more fuel than there are characters changes nothing. -/
theorem stripLead_fuel (hlead : lead ≠ []) {n n' : Nat} (h : cs.length ≤ n) (h' : cs.length ≤ n') :
    stripLead lead n cs = stripLead lead n' cs := by
  induction n generalizing n' cs with
  | zero =>
    have hcs : ¬ lead <+: cs := fun hprefix => by
      have hlength := hprefix.length_le
      have hpos := List.length_pos_of_ne_nil hlead
      omega
    rw [stripLead_of_ne_lead hcs, stripLead_of_ne_lead hcs]
  | succ n ih =>
    by_cases hcs : lead <+: cs
    · obtain ⟨rest, rfl⟩ := hcs
      have hpos := List.length_pos_of_ne_nil hlead
      rw [List.length_append] at h h'
      obtain ⟨n', rfl⟩ : ∃ k, n' = k + 1 := ⟨n' - 1, by omega⟩
      rw [stripLead_append, stripLead_append]
      exact ih (by omega) (by omega)
    · rw [stripLead_of_ne_lead hcs, stripLead_of_ne_lead hcs]

theorem stripLead_lead_append (hlead : lead ≠ []) :
    stripLead lead (lead ++ cs).length (lead ++ cs) = stripLead lead cs.length cs := by
  have hpos := List.length_pos_of_ne_nil hlead
  obtain ⟨n, hn⟩ : ∃ n, (lead ++ cs).length = n + 1 := ⟨(lead ++ cs).length - 1, by simp; omega⟩
  rw [hn, stripLead_append]
  rw [List.length_append] at hn
  exact stripLead_fuel hlead (by omega) (Nat.le_refl _)

end Lead

namespace ValueOption

/-- An option and a value in one argument. -/
def inline (o : ValueOption) (value : String) : String :=
  o.name ++ "=" ++ value

theorem toList_inline (o : ValueOption) (value : String) :
    (o.inline value).toList = o.lead ++ value.toList := by
  simp [inline, lead]

theorem ne_inline {s : String} (h : '=' ∉ s.toList) (o : ValueOption) (value : String) :
    s ≠ o.inline value := by
  rintro rfl
  rw [toList_inline] at h
  exact h (List.mem_append_left _ (List.mem_append_right _ (List.mem_singleton_self _)))

theorem isHelp_inline (o : ValueOption) (value : String) : isHelp (o.inline value) = false := by
  have hshort := (ne_inline (s := "-h") (by decide) o value).symm
  have hlong := (ne_inline (s := "--help") (by decide) o value).symm
  simp [isHelp, hshort, hlong]

theorem ofToken?_inline (o : ValueOption) (value : String) :
    ofToken? (o.inline value) = none := by
  refine List.find?_eq_none.mpr fun o' _ => ?_
  have hname : '=' ∉ o'.name.toList := by
    cases o' <;> decide
  simpa using ne_inline hname o value

theorem ofToken?_name (o : ValueOption) : ofToken? o.name = some o := by
  cases o <;> decide

/-- No option's text is the start of another's. -/
theorem find?_lead (o : ValueOption) (cs : List Char) :
    (all.find? fun o' => o'.lead.isPrefixOf (o.lead ++ cs)) = some o := by
  cases o <;> rfl

/-- What is left of a value in the argument of its option. -/
def bare (o : ValueOption) (value : String) : String :=
  String.ofList (stripLead o.lead value.toList.length value.toList)

theorem lead_ne_nil (o : ValueOption) : o.lead ≠ [] :=
  List.append_ne_nil_of_right_ne_nil _ (List.cons_ne_nil _ _)

theorem ofInline?_inline (o : ValueOption) (value : String) :
    ofInline? (o.inline value) = some (o, o.bare value) := by
  simp only [ofInline?, toList_inline, find?_lead, Option.map_some, bare,
    stripLead_lead_append o.lead_ne_nil]

theorem bare_eq_self {o : ValueOption} {value : String} (h : ¬ o.lead <+: value.toList) :
    o.bare value = value := by
  rw [bare, stripLead_of_ne_lead h, String.ofList_toList]

theorem bare_inline (o : ValueOption) (value : String) :
    o.bare (o.inline value) = o.bare value := by
  rw [bare, toList_inline, stripLead_lead_append o.lead_ne_nil, ← bare]

end ValueOption

namespace ArgUnit

theorem ofTokens_inline (o : ValueOption) (value : String) (after : List String) :
    ofTokens (o.inline value :: after) = .setting o (o.bare value) :: ofTokens after := by
  rw [ofTokens, ValueOption.ofToken?_inline]
  simp [ofToken, ValueOption.isHelp_inline, ValueOption.ofInline?_inline]

theorem ofTokens_name (o : ValueOption) (value : String) (after : List String) :
    ofTokens (o.name :: value :: after) = .setting o value :: ofTokens after := by
  rw [ofTokens, o.ofToken?_name]

end ArgUnit

namespace Command

theorem read_render_append {before : List String} (h : ArgUnit.Closed before)
    (after : List String) :
    read ("render" :: before ++ after)
      = readUnits .initial (ArgUnit.ofTokens before ++ ArgUnit.ofTokens after) := by
  rw [← ArgUnit.ofTokens_append h, ← readRender_eq]
  rfl

/-- The two ways to spell an option are interchangeable wherever a unit begins, for every value that
does not start with the option's own text. In one argument that text is taken away from the value as
well, so it makes no difference there how often it stands. -/
theorem read_inline {before : List String} (h : ArgUnit.Closed before) (o : ValueOption)
    (value : String) (after : List String) :
    (¬ o.lead <+: value.toList →
      read ("render" :: before ++ o.inline value :: after)
        = read ("render" :: before ++ o.name :: value :: after)) ∧
    read ("render" :: before ++ o.inline (o.inline value) :: after)
      = read ("render" :: before ++ o.inline value :: after) := by
  simp only [read_render_append h, ArgUnit.ofTokens_inline, ArgUnit.ofTokens_name]
  constructor
  · intro hvalue
    rw [ValueOption.bare_eq_self hvalue]
  · rw [ValueOption.bare_inline]

/-- A format in other letters, after an option whose value looks like an option. -/
theorem read_inline_format :
    let before := ["--config", "--max-depth", "a.json"]
    let expected := Command.render ⟨"--max-depth", true, none, some .text, ["a.json", "-"]⟩
    ArgUnit.Closed before ∧ ¬ ValueOption.format.lead <+: " TEXT".toList ∧
      read ("render" :: before ++ ["--format= TEXT", "-"]) = .ok expected ∧
      read ("render" :: before ++ ["--format", " TEXT", "-"]) = .ok expected ∧
      read ("render" :: before ++ ["--format=--format= TEXT", "-"]) = .ok expected := by
  intro before expected
  have hclosed : ArgUnit.Closed before := by
    intro o
    cases o <;> decide
  have hvalue : ¬ ValueOption.format.lead <+: " TEXT".toList := by decide
  obtain ⟨happart, htwice⟩ := read_inline hclosed .format " TEXT" ["-"]
  have hread : read ("render" :: before ++ ["--format= TEXT", "-"]) = .ok expected := by
    decide +kernel
  exact ⟨hclosed, hvalue, hread, (happart hvalue).symm.trans hread, htwice.trans hread⟩

/-- The two ways differ for a value that starts with the option's own text: another file is named,
and what is no format becomes one. -/
theorem read_inline_own_text :
    ArgUnit.Closed [] ∧
      read ["render", "--config", "--config=a.toml"]
        = .ok (.render ⟨"--config=a.toml", true, none, none, []⟩) ∧
      read ["render", "--config=--config=a.toml"]
        = .ok (.render ⟨"a.toml", true, none, none, []⟩) ∧
      read ["render", "--config", "--config=a.toml"]
        ≠ read ["render", "--config=--config=a.toml"] ∧
      read ["render", "--format", "--format=text"] = .error (.badFormat "--format=text") ∧
      read ["render", "--format=--format=text"]
        = .ok (.render ⟨"sqlshape.toml", false, none, some .text, []⟩) := by
  refine ⟨fun o => List.not_mem_nil, ?_, ?_, ?_, ?_, ?_⟩ <;> decide +kernel

end Command

end Clausal
