import Clausal.Proofs.Command.Units

/-!
# The last use of an option

What the arguments of a render come to is decided by the first unit that is a call for help or a
fault. Where there is none, the files are those named, in their order, and each option has the value
of its last use. So an option can be moved past files and past other options.
-/

namespace Clausal

namespace ArgUnit

/-! ## Units on their own -/

/-- What a unit decides by itself, whatever stands after it. -/
def verdict? : ArgUnit → Option (Except UsageError Command)
  | .help => some (.ok (.help .render))
  | .setting .config _ => none
  | .setting .maxDepth value =>
    match readDepth value with
    | .ok _ => none
    | .error e => some (.error e)
  | .setting .format value =>
    match OutputFormat.read value with
    | .ok _ => none
    | .error e => some (.error e)
  | .unvalued o => some (.error (.missingValue o))
  | .unknown token => some (.error (.unknownArgument token))
  | .file _ => none

def file? : ArgUnit → Option String
  | .file path => some path
  | _ => none

/-- The value that a unit gives the option `o`. -/
def valueOf? (o : ValueOption) : ArgUnit → Option String
  | .setting o' value => if o' = o then some value else none
  | _ => none

@[simp] theorem file?_file (path : String) : (file path).file? = some path := rfl

@[simp] theorem file?_setting (o : ValueOption) (value : String) :
    (setting o value).file? = none := rfl

@[simp] theorem valueOf?_file (o : ValueOption) (path : String) : (file path).valueOf? o = none :=
  rfl

@[simp] theorem valueOf?_setting (o o' : ValueOption) (value : String) :
    (setting o' value).valueOf? o = if o' = o then some value else none := rfl

/-- The value of the last use of the option `o`. -/
def lastValue? (o : ValueOption) (units : List ArgUnit) : Option String :=
  (units.filterMap (valueOf? o)).getLast?

theorem lastValue?_cons (o : ValueOption) (u : ArgUnit) (units : List ArgUnit) :
    lastValue? o (u :: units) = (lastValue? o units).or (u.valueOf? o) := by
  rw [lastValue?, List.filterMap_cons]
  cases u.valueOf? o with
  | none => exact (Option.or_none).symm
  | some value =>
    rw [List.getLast?_cons]
    unfold lastValue?
    cases (units.filterMap (valueOf? o)).getLast? <;> rfl

@[simp] theorem lastValue?_nil (o : ValueOption) : lastValue? o [] = none := rfl

theorem mem_of_lastValue? {o : ValueOption} {units : List ArgUnit} {value : String}
    (h : lastValue? o units = some value) : setting o value ∈ units := by
  obtain ⟨u, hu, hvalue⟩ := List.mem_filterMap.mp (List.mem_of_getLast? h)
  cases u with
  | setting o' value' =>
    rw [valueOf?_setting, Option.ite_none_right_eq_some] at hvalue
    obtain ⟨rfl, ⟨⟩⟩ := hvalue
    exact hu
  | _ => cases hvalue

section Undecided

variable {units : List ArgUnit} (h : units.findSome? verdict? = none) {value : String}

include h

/-- Where nothing is decided, the depth that was given last is one. -/
theorem exists_depth_of_lastValue? (hvalue : lastValue? .maxDepth units = some value) :
    ∃ depth, (readDepth value).toOption = some depth := by
  have hverdict := List.findSome?_eq_none_iff.mp h _ (mem_of_lastValue? hvalue)
  simp only [verdict?] at hverdict
  split at hverdict
  · next depth hdepth => exact ⟨depth, congrArg Except.toOption hdepth⟩
  · cases hverdict

theorem exists_format_of_lastValue? (hvalue : lastValue? .format units = some value) :
    ∃ format, (OutputFormat.read value).toOption = some format := by
  have hverdict := List.findSome?_eq_none_iff.mp h _ (mem_of_lastValue? hvalue)
  simp only [verdict?] at hverdict
  split at hverdict
  · next format hformat => exact ⟨format, congrArg Except.toOption hformat⟩
  · cases hverdict

end Undecided

end ArgUnit

/-! ## Runs of units -/

/-- The arguments after units that decide nothing: files are added to those before, and an option
that is not used keeps its value. -/
def RenderArgs.after (args : RenderArgs) (units : List ArgUnit) : RenderArgs where
  config := (ArgUnit.lastValue? .config units).getD args.config
  configNamed := args.configNamed || units.any fun u => (u.valueOf? .config).isSome
  maxDepth :=
    ((ArgUnit.lastValue? .maxDepth units).bind fun v => (readDepth v).toOption).or args.maxDepth
  format :=
    ((ArgUnit.lastValue? .format units).bind fun v => (OutputFormat.read v).toOption).or args.format
  files := args.files ++ units.filterMap ArgUnit.file?

namespace Command

theorem after_cons (args : RenderArgs) (u : ArgUnit) {units : List ArgUnit}
    (h : units.findSome? ArgUnit.verdict? = none) :
    (args.after [u]).after units = args.after (u :: units) := by
  simp only [RenderArgs.after, RenderArgs.mk.injEq, ArgUnit.lastValue?_cons,
    ArgUnit.lastValue?_nil, Option.none_or]
  refine ⟨?config, ?named, ?depth, ?format, ?files⟩
  case config => exact Option.getD_or.symm
  case named => simp [Bool.or_assoc]
  case depth =>
    cases hvalue : ArgUnit.lastValue? .maxDepth units with
    | none => simp
    | some value =>
      obtain ⟨depth, hdepth⟩ := ArgUnit.exists_depth_of_lastValue? h hvalue
      simp [hdepth]
  case format =>
    cases hvalue : ArgUnit.lastValue? .format units with
    | none => simp
    | some value =>
      obtain ⟨format, hformat⟩ := ArgUnit.exists_format_of_lastValue? h hvalue
      simp [hformat]
  case files => simp [← List.filterMap_append]

end Command

end Clausal
