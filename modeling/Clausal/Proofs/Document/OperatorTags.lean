import Clausal.Document.Encode
import Clausal.Proofs.Document.Reading

/-!
# Tags of operators

The spellings of operators stand in a list that is shown to users, in a table of the binary
operators, with the expressions, in the reader and in the writer, each on its own. They agree: an
expression is written with its tag, which is listed, and reading takes the listed tags and no
others. A tag that reading calls unsupported is not listed, and it stands where an expression is
looked for.
-/

namespace Clausal

open Document

namespace ExprTag

/-- Every tag is listed, and nothing else is. -/
theorem mem_texts_iff {text : String} : text ∈ texts ↔ ∃ tag : ExprTag, tag.text = text := by
  constructor
  · intro h
    have hread : ∀ s ∈ texts, (ofText? s).isSome := by decide
    obtain ⟨tag, htag⟩ := Option.isSome_iff_exists.mp (hread text h)
    exact ⟨tag, text_of_ofText? htag⟩
  · rintro ⟨tag, rfl⟩
    cases tag with
    | binary op => cases op <;> decide
    | inList negated => cases negated <;> decide
    | _ => decide

theorem text_mem_texts (tag : ExprTag) : tag.text ∈ texts :=
  mem_texts_iff.mpr ⟨tag, rfl⟩

end ExprTag

/-! ## Tags of expressions -/

namespace Expr

/-- An expression with a tag is written as an array that starts with it. -/
theorem toJson_of_tag? {e : Expr} {tag : ExprTag} (h : e.tag? = some tag) :
    ∃ operands, e.toJson = .array (.string tag.text :: operands) := by
  cases e with
  | value v => cases h
  | subquery m => cases h
  | inList negated tested list =>
    cases h
    cases negated <;> exact ⟨_, rfl⟩
  | _ =>
    cases h
    exact ⟨_, rfl⟩

/-- An expression without a tag is no array. -/
theorem toJson_ne_array {e : Expr} (h : e.tag? = none) (items : List Json) :
    e.toJson ≠ .array items := by
  cases e with
  | value v => cases v <;> exact nofun
  | subquery m => exact nofun
  | _ => cases h

end Expr

/-! ## Tags that reading may meet -/

/-- What a part of a document is read as. -/
inductive Part where
  | expr
  | table
  | join
  | orderItem
  | distinct
  | map
  | list (item : Part)
  /-- A part without expressions. -/
  | leaf

/-- What the payload of a clause is read as. -/
def ClauseKind.part : ClauseKind → Part
  | select => .list .expr
  | selectDistinct => .distinct
  | insertInto => .table
  | update => .table
  | columns => .leaf
  | values => .leaf
  | onConflict => .leaf
  | doUpdate => .list .expr
  | doNothing => .leaf
  | set => .list .expr
  | from_ => .table
  | join => .list .join
  | where_ => .expr
  | groupBy => .list .expr
  | having => .expr
  | orderBy => .list .orderItem
  | limit => .leaf
  | offset => .leaf
  | forUpdate => .leaf
  | returning => .list .expr

/-- A tag that stands where an expression is looked for. What stands under `ip` or `r` is not looked
at, and neither is what stands after a tag that is not listed. -/
inductive Meets : Part → Json → String → Prop
  | head (s : String) (operands : List Json) : Meets .expr (.array (.string s :: operands)) s
  | operand {t s : String} {operands : List Json} (ht : t ∈ ExprTag.texts)
    (h : Meets (.list .expr) (.array operands) s) : Meets .expr (.array (.string t :: operands)) s
  | subquery {fields : List (String × Json)} {s : String} (hplain : wrapped? fields = none)
    (h : Meets .map (.object fields) s) : Meets .expr (.object fields) s
  | derived {fields : List (String × Json)} {s : String} (h : Meets .map (.object fields) s) :
    Meets .table (.object fields) s
  | derivedAs {fields : List (String × Json)} {s : String} (short : String)
    (h : Meets .map (.object fields) s) : Meets .table (.array [.object fields, .string short]) s
  | joined {table : Json} {s : String} (kind on : Json) (h : Meets .table table s) :
    Meets .join (.array [kind, table, on]) s
  | on {on : Json} {s : String} (kind table : Json) (h : Meets .expr on s) :
    Meets .join (.array [kind, table, on]) s
  | sorted {expr : Json} {s : String} (rest : List Json) (h : Meets .expr expr s) :
    Meets .orderItem (.array (expr :: rest)) s
  | distinct {parts : List (String × Json)} {key : String} {v : Json} {s : String}
    (hkey : key ∈ ["on", "exprs"]) (hv : (key, v) ∈ parts) (h : Meets (.list .expr) v s) :
    Meets .distinct (.object parts) s
  | item {part : Part} {items : List Json} {v : Json} {s : String} (hv : v ∈ items)
    (h : Meets part v s) : Meets (.list part) (.array items) s
  | field {fields : List (String × Json)} {k : ClauseKind} {v : Json} {s : String}
    (hv : (k.name, v) ∈ fields) (h : Meets k.part v s) : Meets .map (.object fields) s

namespace Meets

variable {part : Part} {items : List Json} {fields : List (String × Json)} {s : String}

theorem tail {v : Json} (h : Meets (.list part) (.array items) s) :
    Meets (.list part) (.array (v :: items)) s := by
  cases h with
  | item hv h => exact .item (List.mem_cons_of_mem _ hv) h

theorem tailPart {field : String × Json} (h : Meets .distinct (.object fields) s) :
    Meets .distinct (.object (field :: fields)) s := by
  cases h with
  | distinct hkey hv h => exact .distinct hkey (List.mem_cons_of_mem _ hv) h

theorem tailField {field : String × Json} (h : Meets .map (.object fields) s) :
    Meets .map (.object (field :: fields)) s := by
  cases h with
  | field hv h => exact .field (List.mem_cons_of_mem _ hv) h

end Meets

/-! ## Readers and the tags they refuse -/

/-- The tags that the reader calls unsupported are not listed, and `P` holds of them. -/
def Refuses {α : Type} (x : Except QueryError α) (P : String → Prop) : Prop :=
  ∀ s, x = .error (.unsupportedExpression s) → s ∉ ExprTag.texts ∧ P s

namespace Refuses

variable {α β γ : Type} {P Q : String → Prop} {x : Except QueryError α} {y : Except QueryError β}

theorem ok {a : α} : Refuses (.ok a) P := by
  intro s h
  cases h

theorem error {e : QueryError} (h : (e.kind == .unsupportedExpression) = false) :
    Refuses (α := α) (.error e) P := by
  rintro s ⟨⟩
  exact Bool.noConfusion h

theorem mono (hx : Refuses x P) (h : ∀ s, P s → Q s) : Refuses x Q :=
  fun s hs => (hx s hs).imp_right (h s)

theorem bind {k : α → Except QueryError β} (hx : Refuses x P) (hk : ∀ a, Refuses (k a) P) :
    Refuses (x >>= k) P := by
  cases x with
  | error e => exact fun s h => hx s (by cases h; rfl)
  | ok a => exact hk a

theorem map {f : α → β} (hx : Refuses x P) : Refuses (do return f (← x)) P :=
  hx.bind fun _ => .ok

theorem map₂ {f : α → β → γ} (hx : Refuses x P) (hy : Refuses y P) :
    Refuses (do return f (← x) (← y)) P :=
  hx.bind fun _ => hy.bind fun _ => .ok

theorem mapM {ι : Type} {read : ι → Except QueryError α} (h : ∀ i, Refuses (read i) P)
    (is : List ι) : Refuses (is.mapM read) P := by
  induction is with
  | nil => exact .ok
  | cons i is ih =>
    rw [List.mapM_cons]
    exact (h i).map₂ ih

/-- A clause map inside another part. -/
theorem nested {limit : DepthLimit} {d : Nat} {fields : List (String × Json)} {f : ClauseMap → α}
    (h : Refuses (readClauses limit (d + 1) .empty fields) P) :
    Refuses (do
      let inner ← enter limit d
      return f (← readClauses limit inner .empty fields)) P := by
  cases limit with
  | none => exact h.map
  | some n =>
    rw [enter]
    split
    · exact .error rfl
    · exact h.map

variable {part : Part} {j : Json} {js : List Json}

theorem one (hx : Refuses x (Meets part j)) : Refuses x (Meets (.list part) (.array [j])) :=
  hx.mono fun _ h => .item (List.mem_singleton_self j) h

/-- The first element of an array and the rest of it. -/
theorem cons {f : α → β → γ} (hx : Refuses x (Meets part j))
    (hy : Refuses y (Meets (.list part) (.array js))) :
    Refuses (do return f (← x) (← y)) (Meets (.list part) (.array (j :: js))) :=
  (hx.mono fun _ h => .item (List.mem_cons_self ..) h).map₂ (hy.mono fun _ h => h.tail)

/-- What stands after a tag that is listed. -/
theorem operands {text : String} (htext : text ∈ ExprTag.texts)
    (hx : Refuses x (Meets (.list .expr) (.array js))) :
    Refuses x (Meets .expr (.array (.string text :: js))) :=
  hx.mono fun _ h => .operand htext h

end Refuses

/-! ## Leaves -/

section

variable {P : String → Prop}

theorem readItems_refuses (what : String) (v : Json) : Refuses (readItems what v) P := by
  cases v with
  | array items => exact .ok
  | _ => exact .error rfl

theorem readNames_refuses (kind : ClauseKind) (v : Json) : Refuses (readNames kind v) P := by
  apply (readItems_refuses kind.name v).bind
  apply Refuses.mapM
  intro name
  cases name with
  | string name => exact .ok
  | _ => exact .error rfl

theorem readValue_refuses (v : Json) : Refuses (readValue v) P := by
  cases v with
  | string name => exact .ok
  | object fields =>
    rw [readValue]
    split
    · exact .ok
    · exact .error rfl
  | _ => exact .error rfl

theorem readRows_refuses (v : Json) : Refuses (readRows v) P := by
  apply (readItems_refuses ClauseKind.values.name v).bind
  apply Refuses.mapM
  intro row
  exact (readItems_refuses "values row" row).bind (.mapM readValue_refuses)

theorem readCount_refuses (kind : ClauseKind) (v : Json) : Refuses (readCount kind v) P := by
  cases v with
  | integer n =>
    rw [readCount]
    split
    · exact .ok
    · exact .error rfl
  | _ => exact .error rfl

theorem readDirection_refuses (v? : Option Json) : Refuses (readDirection v?) P := by
  unfold readDirection
  split
  · exact .ok
  · split
    · exact .ok
    · exact .error rfl
  · exact .error rfl

theorem readNulls_refuses (direction : Direction) (v? : Option Json) :
    Refuses (readNulls direction v?) P := by
  unfold readNulls
  split
  · exact .ok
  · split
    · exact .ok
    · exact .error rfl
  · exact .error rfl

theorem readOrder_refuses (rest : List Json) : Refuses (readOrder rest) P := by
  apply (readDirection_refuses rest[0]?).bind
  intro direction
  apply (readNulls_refuses direction rest[1]?).bind
  intro nulls
  split
  · exact .error rfl
  · exact .ok

theorem readJoinKind_refuses (text : String) : Refuses (readJoinKind text) P := by
  unfold readJoinKind
  split
  · exact .ok
  · exact .error rfl

end

/-! ## All parts -/

theorem readTag_eq_error {text : String} (h : text ∉ ExprTag.texts) :
    readTag text = .error (.unsupportedExpression text) := by
  unfold readTag
  cases htag : ExprTag.ofText? text with
  | none => rfl
  | some tag => exact (h (ExprTag.mem_texts_iff.mpr ⟨tag, ExprTag.text_of_ofText? htag⟩)).elim

-- By recursion on the document. A tag is refused at the head of an array, and everywhere else what
-- is refused is what some part refuses.
mutual

theorem readExpr_refuses (limit : DepthLimit) (d : Nat) : ∀ j : Json,
    Refuses (readExpr limit d j) (Meets .expr j)
  | .string name => .ok
  | .object fields => by
    rw [readExpr]
    cases h : wrapped? fields with
    | some v => exact .ok
    | none =>
      have hm := readClauses_refuses limit (d + 1) .empty fields
      exact .nested (hm.mono fun _ => .subquery h)
  | .array [] => .error rfl
  | .array (.string text :: args) => by
    rw [readExpr]
    by_cases htext : text ∈ ExprTag.texts
    · obtain ⟨tag, htag⟩ := ExprTag.mem_texts_iff.mp htext
      rw [readTag_eq_ok tag text htag]
      apply Refuses.operands htext
      have hone := readOperand_refuses limit d text args
      have hsome := readOperands_refuses limit d text args
      have htwo := readPair_refuses limit d text args
      have htested := readTested_refuses limit d text args
      have hcall := readCall_refuses limit d args
      cases tag with
      | binary op => exact htwo.map
      | and => exact hsome.map
      | or => exact hsome.map
      | caseWhen => exact hsome.map
      | inList negated => exact htested.map
      | isNull => exact hone.map
      | isNotNull => exact hone.map
      | not => exact hone.map
      | exists_ => exact hone.map
      | call => exact hcall.map
    · rw [readTag_eq_error htext]
      rintro s ⟨⟩
      exact ⟨htext, .head text args⟩
  | .array (.null :: _) | .array (.bool _ :: _) | .array (.integer _ :: _)
  | .array (.float _ :: _) | .array (.array _ :: _) | .array (.object _ :: _) => .error rfl
  | .null | .bool _ | .integer _ | .float _ => .error rfl

theorem readExprs_refuses (limit : DepthLimit) (d : Nat) : ∀ js : List Json,
    Refuses (readExprs limit d js) (Meets (.list .expr) (.array js))
  | [] => .ok
  | j :: js => by
    have hj := readExpr_refuses limit d j
    have hjs := readExprs_refuses limit d js
    exact hj.cons hjs

theorem readOperand_refuses (limit : DepthLimit) (d : Nat) (tag : String) : ∀ js : List Json,
    Refuses (readOperand limit d tag js) (Meets (.list .expr) (.array js))
  | [] => .error rfl
  | [j] => (readExpr_refuses limit d j).one
  | _ :: _ :: _ => .error rfl

theorem readPair_refuses (limit : DepthLimit) (d : Nat) (tag : String) : ∀ js : List Json,
    Refuses (readPair limit d tag js) (Meets (.list .expr) (.array js))
  | [] => .error rfl
  | [_] => .error rfl
  | [l, r] => by
    have hl := readExpr_refuses limit d l
    have hr := readExpr_refuses limit d r
    exact hl.cons hr.one
  | _ :: _ :: _ :: _ => .error rfl

theorem readOperands_refuses (limit : DepthLimit) (d : Nat) (tag : String) : ∀ js : List Json,
    Refuses (readOperands limit d tag js) (Meets (.list .expr) (.array js))
  | [] => .error rfl
  | j :: js => by
    have hj := readExpr_refuses limit d j
    have hjs := readExprs_refuses limit d js
    exact hj.cons hjs

theorem readTested_refuses (limit : DepthLimit) (d : Nat) (tag : String) : ∀ js : List Json,
    Refuses (readTested limit d tag js) (Meets (.list .expr) (.array js))
  | [] => .error rfl
  | j :: js => by
    have hj := readExpr_refuses limit d j
    have hjs := readExprs_refuses limit d js
    exact hj.cons hjs

theorem readCall_refuses (limit : DepthLimit) (d : Nat) : ∀ js : List Json,
    Refuses (readCall limit d js) (Meets (.list .expr) (.array js))
  | [] => .error rfl
  | .string _ :: js => ((readExprs_refuses limit d js).mono fun _ => .tail).map
  | .null :: _ | .bool _ :: _ | .integer _ :: _ | .float _ :: _ | .array _ :: _
  | .object _ :: _ => .error rfl

theorem readExprList_refuses (limit : DepthLimit) (d : Nat) : ∀ j : Json,
    Refuses (readExprList limit d j) (Meets (.list .expr) j)
  | .array items => readExprs_refuses limit d items
  | .null | .bool _ | .integer _ | .float _ | .string _ | .object _ => .error rfl

theorem readExprField_refuses (limit : DepthLimit) (d : Nat) (key : String)
    (hkey : key ∈ ["on", "exprs"]) : ∀ fields : List (String × Json),
      Refuses (readExprField limit d key fields) (Meets .distinct (.object fields))
  | [] => .ok
  | (name, v) :: fields => by
    rw [readExprField]
    split
    · next h =>
      subst h
      exact (readExprList_refuses limit d v).mono fun _ => .distinct hkey (List.mem_cons_self ..)
    · exact (readExprField_refuses limit d key hkey fields).mono fun _ h => h.tailPart

theorem readTable_refuses (limit : DepthLimit) (d : Nat) : ∀ j : Json,
    Refuses (readTable limit d j) (Meets .table j)
  | .string _ => .ok
  | .object fields => by
    rw [readTable]
    exact .nested ((readClauses_refuses limit (d + 1) .empty fields).mono fun _ => .derived)
  | .array [.string _, .string short] => .ok
  | .array [.object fields, .string short] => by
    rw [readTable]
    exact .nested ((readClauses_refuses limit (d + 1) .empty fields).mono fun _ => .derivedAs short)
  | .array [.null, .string _] | .array [.bool _, .string _] | .array [.integer _, .string _]
  | .array [.float _, .string _] | .array [.array _, .string _] => .error rfl
  | .array [x, .null] | .array [x, .bool _] | .array [x, .integer _] | .array [x, .float _]
  | .array [x, .array _] | .array [x, .object _] => by cases x <;> exact .error rfl
  | .array [] => .error rfl
  | .array [x] => by cases x <;> exact .error rfl
  | .array (x :: y :: _ :: _) => by cases x <;> cases y <;> exact .error rfl
  | .null | .bool _ | .integer _ | .float _ => .error rfl

theorem readJoin_refuses (limit : DepthLimit) (d : Nat) : ∀ j : Json,
    Refuses (readJoin limit d j) (Meets .join j)
  | .array [.string kind, table, on] => by
    rw [readJoin]
    apply (readJoinKind_refuses kind).bind
    intro _
    have htable := readTable_refuses limit d table
    have hon := readExpr_refuses limit d on
    exact (htable.mono fun _ h => .joined _ on h).map₂ (hon.mono fun _ h => .on _ table h)
  | .array [.null, _, _] | .array [.bool _, _, _] | .array [.integer _, _, _]
  | .array [.float _, _, _] | .array [.array _, _, _] | .array [.object _, _, _] => .error rfl
  | .array [] => .error rfl
  | .array [x] => by cases x <;> exact .error rfl
  | .array [x, _] => by cases x <;> exact .error rfl
  | .array (x :: _ :: _ :: _ :: _) => by cases x <;> exact .error rfl
  | .null | .bool _ | .integer _ | .float _ | .string _ | .object _ => .error rfl

theorem readJoins_refuses (limit : DepthLimit) (d : Nat) : ∀ js : List Json,
    Refuses (readJoins limit d js) (Meets (.list .join) (.array js))
  | [] => .ok
  | j :: js => by
    have hj := readJoin_refuses limit d j
    have hjs := readJoins_refuses limit d js
    exact hj.cons hjs

theorem readJoinList_refuses (limit : DepthLimit) (d : Nat) : ∀ j : Json,
    Refuses (readJoinList limit d j) (Meets (.list .join) j)
  | .array items => readJoins_refuses limit d items
  | .null | .bool _ | .integer _ | .float _ | .string _ | .object _ => .error rfl

theorem readOrderItem_refuses (limit : DepthLimit) (d : Nat) : ∀ j : Json,
    Refuses (readOrderItem limit d j) (Meets .orderItem j)
  | .array [] => .error rfl
  | .array (expr :: rest) => by
    rw [readOrderItem]
    apply (readOrder_refuses rest).bind
    intro _
    exact ((readExpr_refuses limit d expr).mono fun _ => .sorted rest).map
  | .null | .bool _ | .integer _ | .float _ | .string _ | .object _ => .error rfl

theorem readOrderItems_refuses (limit : DepthLimit) (d : Nat) : ∀ js : List Json,
    Refuses (readOrderItems limit d js) (Meets (.list .orderItem) (.array js))
  | [] => .ok
  | j :: js => by
    have hj := readOrderItem_refuses limit d j
    have hjs := readOrderItems_refuses limit d js
    exact hj.cons hjs

theorem readOrderList_refuses (limit : DepthLimit) (d : Nat) : ∀ j : Json,
    Refuses (readOrderList limit d j) (Meets (.list .orderItem) j)
  | .array items => readOrderItems_refuses limit d items
  | .null | .bool _ | .integer _ | .float _ | .string _ | .object _ => .error rfl

theorem readDistinct_refuses (limit : DepthLimit) (d : Nat) : ∀ j : Json,
    Refuses (readDistinct limit d j) (Meets .distinct j)
  | .object parts => by
    have hon := readExprField_refuses limit d "on" (by simp) parts
    have hexprs := readExprField_refuses limit d "exprs" (by simp) parts
    exact hon.map₂ hexprs
  | .null | .bool _ | .integer _ | .float _ | .string _ | .array _ => .error rfl

theorem readField_refuses (limit : DepthLimit) (d : Nat) (fields : List (String × Json)) :
    ∀ field : String × Json,
      Refuses (readField limit d field) (Meets .map (.object (field :: fields)))
  | (name, v) => by
    have hexpr := readExpr_refuses limit d v
    have hexprs := readExprList_refuses limit d v
    have htable := readTable_refuses limit d v
    have hdistinct := readDistinct_refuses limit d v
    have hjoins := readJoinList_refuses limit d v
    have hitems := readOrderList_refuses limit d v
    rw [readField, readKind]
    cases hkind : ClauseKind.ofName? name with
    | none => exact .error rfl
    | some kind =>
      obtain rfl := ClauseKind.name_of_ofName? hkind
      refine Refuses.mono (P := Meets kind.part v) ?_ fun _ => .field (List.mem_cons_self ..)
      cases kind with
      | select => exact hexprs.map
      | selectDistinct => exact hdistinct.map
      | insertInto => exact htable.map
      | update => exact htable.map
      | columns => exact (readNames_refuses .columns v).map
      | values => exact (readRows_refuses v).map
      | onConflict => exact (readNames_refuses .onConflict v).map
      | doUpdate => exact hexprs.map
      | doNothing => exact .ok
      | set => exact hexprs.map
      | from_ => exact htable.map
      | join => exact hjoins.map
      | where_ => exact hexpr.map
      | groupBy => exact hexprs.map
      | having => exact hexpr.map
      | orderBy => exact hitems.map
      | limit => exact (readCount_refuses .limit v).map
      | offset => exact (readCount_refuses .offset v).map
      | forUpdate => exact .ok
      | returning => exact hexprs.map

theorem readClauses_refuses (limit : DepthLimit) (d : Nat) (m : ClauseMap) :
    ∀ fields : List (String × Json),
      Refuses (readClauses limit d m fields) (Meets .map (.object fields))
  | [] => .ok
  | field :: fields => by
    rw [readClauses]
    apply (readField_refuses limit d fields field).bind
    intro c
    exact (readClauses_refuses limit d (m.insert c.clause) fields).mono fun _ h => h.tailField

end

/-! ## Tags that are read -/

section

variable (limit : DepthLimit) (d : Nat)

theorem readExpr_eq_error {text : String} (h : text ∉ ExprTag.texts) (operands : List Json) :
    readExpr limit d (.array (.string text :: operands))
      = .error (.unsupportedExpression text) := by
  rw [readExpr, readTag_eq_error h]
  rfl

/-- An array is read as an expression with the tag that the array starts with. -/
theorem tag?_of_readExpr {text : String} {operands : List Json} {e : Expr}
    (h : readExpr limit d (.array (.string text :: operands)) = .ok e) :
    e.tag?.map ExprTag.text = some text := by
  rw [readExpr] at h
  obtain ⟨tag, htag, h⟩ := exists_of_bind_eq_ok h
  obtain rfl := (readTag_reads text tag).mp htag
  cases tag <;>
    · obtain ⟨_, -, ⟨⟩⟩ := exists_of_bind_eq_ok h
      rfl

/-- Every tag is that of an expression that can be read from its own document. -/
theorem exists_tag?_eq (tag : ExprTag) :
    ∃ e : Expr, e.tag? = some tag ∧ (e.marks d).all (Mark.isReadable limit) = true := by
  cases tag with
  | binary op => exact ⟨.binary op (.ident "") (.ident ""), rfl, rfl⟩
  | and => exact ⟨.and [.ident ""], rfl, rfl⟩
  | or => exact ⟨.or [.ident ""], rfl, rfl⟩
  | caseWhen => exact ⟨.caseWhen [.ident ""], rfl, rfl⟩
  | inList negated => exact ⟨.inList negated (.ident "") [], rfl, rfl⟩
  | isNull => exact ⟨.isNull (.ident ""), rfl, rfl⟩
  | isNotNull => exact ⟨.isNotNull (.ident ""), rfl, rfl⟩
  | not => exact ⟨.not (.ident ""), rfl, rfl⟩
  | exists_ => exact ⟨.exists_ (.ident ""), rfl, rfl⟩
  | call => exact ⟨.call "" [], rfl, rfl⟩

theorem exists_readExpr_eq_ok {text : String} (h : text ∈ ExprTag.texts) :
    ∃ operands e, readExpr limit d (.array (.string text :: operands)) = .ok e := by
  obtain ⟨tag, rfl⟩ := ExprTag.mem_texts_iff.mp h
  obtain ⟨e, htag, hmarks⟩ := exists_tag?_eq limit d tag
  obtain ⟨operands, hjson⟩ := Expr.toJson_of_tag? htag
  have hread := (e.readsBack limit d).eq_ok hmarks
  rw [hjson] at hread
  exact ⟨operands, _, hread⟩

end

namespace ExprTag

/-- The listed tags, which the message for an unknown one shows, are those that expressions are
written with, and those that are read. A tag that is not listed is refused, whatever stands after
it; after a listed tag, the only tags refused are those met inside an operand. -/
theorem listed_written_and_read :
    (∀ e : Expr,
      ((∃ items, e.toJson = .array items) ↔ ∃ t ∈ texts, e.tag?.map text = some t) ∧
      ∀ t, e.tag?.map text = some t ↔ ∃ operands, e.toJson = .array (.string t :: operands)) ∧
    ∀ (limit : DepthLimit) (depth : Nat) (t : String),
      (t ∈ texts ↔
        ∃ operands e, readExpr limit depth (.array (.string t :: operands)) = .ok e) ∧
      (QueryError.unsupportedExpression t).message
        = "Unknown expr " ++ t ++ ". Supported exprs: " ++ commaSeparated texts ∧
      ∀ operands : List Json,
        (∀ e, readExpr limit depth (.array (.string t :: operands)) = .ok e →
          e.tag?.map text = some t) ∧
        (readExpr limit depth (.array (.string t :: operands))
          = .error (.unsupportedExpression t) ↔ t ∉ texts) ∧
        (t ∈ texts → ∀ s,
          readExpr limit depth (.array (.string t :: operands))
            = .error (.unsupportedExpression s) →
          s ∉ texts ∧ ∃ v ∈ operands, Meets .expr v s) := by
  constructor
  · intro e
    cases htag : e.tag? with
    | none =>
      have hne := Expr.toJson_ne_array htag
      simp [hne]
    | some tag =>
      obtain ⟨operands, hjson⟩ := Expr.toJson_of_tag? htag
      simp [hjson, tag.text_mem_texts]
  · intro limit depth t
    have hrefuses := fun operands => readExpr_refuses limit depth (.array (.string t :: operands))
    refine ⟨?accepted, rfl, fun operands =>
      ⟨fun e => tag?_of_readExpr limit depth, ?refused, ?inside⟩⟩
    case accepted =>
      constructor
      · exact exists_readExpr_eq_ok limit depth
      · rintro ⟨operands, e, hread⟩
        have htag := tag?_of_readExpr limit depth hread
        obtain ⟨tag, -, rfl⟩ := Option.map_eq_some_iff.mp htag
        exact tag.text_mem_texts
    case refused =>
      constructor
      · exact fun h => (hrefuses operands t h).1
      · exact fun ht => readExpr_eq_error limit depth ht operands
    case inside =>
      intro ht s h
      obtain ⟨hs, hmeets⟩ := hrefuses operands s h
      refine ⟨hs, ?_⟩
      cases hmeets with
      | head => exact (hs ht).elim
      | operand _ hmeets =>
        cases hmeets with
        | item hv hmeets => exact ⟨_, hv, hmeets⟩

/-- An operator that is not known, in a subquery among the operands of one that is. -/
theorem listed_written_and_read_subquery :
    let operands := [.string "a", .object [("where", .array [.string "nope", .string "b"])]]
    let e := Expr.not (.ident "a")
    "and" ∈ texts ∧
      readExpr none 0 (.array (.string "and" :: operands))
        = .error (.unsupportedExpression "nope") ∧
      "nope" ∉ texts ∧ (∃ v ∈ operands, Meets .expr v "nope") ∧
      readExpr none 0 (.array [.string "not", .string "a"]) = .ok e ∧
      e.tag?.map text = some "not" := by
  intro operands e
  have hlisted : "and" ∈ texts := by decide
  have hrefused : readExpr none 0 (.array (.string "and" :: operands))
      = .error (.unsupportedExpression "nope") := rfl
  have hread : readExpr none 0 (.array [.string "not", .string "a"]) = .ok e := rfl
  obtain ⟨-, -, hand⟩ := listed_written_and_read.2 none 0 "and"
  obtain ⟨-, -, hnot⟩ := listed_written_and_read.2 none 0 "not"
  obtain ⟨hnope, hmeets⟩ := (hand operands).2.2 hlisted "nope" hrefused
  exact ⟨hlisted, hrefused, hnope, hmeets, hread, (hnot [.string "a"]).1 e hread⟩

end ExprTag

end Clausal
