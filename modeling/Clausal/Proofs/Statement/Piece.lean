import Clausal.Proofs.Query.Traversal
import Clausal.Statement.Render

/-!
# Statements in pieces

A second way to a statement, in two phases. `Clauses.pieces` flattens a clause map into literal
texts and parameters, by recursion on the map alone; `Statement.ofPieces` then numbers the
parameters from one. No part of it has a buffer, and the flattening does not count.
-/

namespace Clausal

/-- A literal text of a statement, or a parameter that a placeholder stands for. -/
inductive Piece where
  | text (s : String)
  | param (p : Param)
  deriving DecidableEq

namespace Piece

def param? : Piece → Option Param
  | param p => some p
  | text _ => none

def mapParam (f : Param → Param) : Piece → Piece
  | param p => param (f p)
  | text s => text s

/-- Whether the pieces come to no text at all. -/
def silent (ps : List Piece) : Bool :=
  ps.all (· == text "")

/-- The lists of pieces one after the other, with a text between neighbours. -/
def joined (separator : String) (pss : List (List Piece)) : List Piece :=
  [text separator].intercalate pss

/-- The clauses that come to some text, with a blank between neighbours. -/
def phrases (clauses : List (List Piece)) : List Piece :=
  joined " " (clauses.filter (!silent ·))

def keywordList (keyword : String) : List (List Piece) → List Piece
  | [] => [text keyword]
  | items => [text keyword, text " "] ++ joined ", " items

def group (operator neutral : String) : List (List Piece) → List Piece
  | [] => [text neutral]
  | operands => [text "("] ++ joined operator operands ++ [text ")"]

def ofAlias : Option String → List Piece
  | none => []
  | some name => [text " ", text (Ident.quote name)]

/-! ## Numbering -/

/-- The text of pieces before which `n` parameters stand. -/
def textFrom (n : Nat) : List Piece → String
  | [] => ""
  | text s :: ps => s ++ textFrom n ps
  | param _ :: ps => Action.placeholder (n + 1) ++ textFrom (n + 1) ps

end Piece

/-- The statement of the pieces: the parameters are numbered from one, and they are the values. -/
def Statement.ofPieces (ps : List Piece) : Statement :=
  ⟨Piece.textFrom 0 ps, ps.filterMap Piece.param?⟩

/-! ## Flattening -/

def Value.piece : Value → Piece
  | .ident name => .text (Ident.quote name)
  | .param p => .param p
  | .raw sql => .text sql

def rowPieces (row : List Value) : List Piece :=
  [.text "("] ++ Piece.joined ", " (row.map ([·.piece])) ++ [.text ")"]

def rowsPieces : List (List Value) → List Piece
  | [] => [.text "DEFAULT VALUES"]
  | rows => [.text "VALUES "] ++ Piece.joined ", " (rows.map rowPieces)

mutual

def Expr.pieces : Expr → List Piece
  | .value v => [v.piece]
  | .binary op left right =>
    left.pieces ++ [.text " ", .text op.sql, .text " "] ++ right.pieces
  | .and operands => Piece.group " AND " "TRUE" (Expr.listPieces operands)
  | .or operands => Piece.group " OR " "FALSE" (Expr.listPieces operands)
  | .caseWhen operands => [.text "CASE"] ++ Expr.casePieces operands ++ [.text " END"]
  | .inList negated tested list =>
    tested.pieces ++ [.text (if negated then " NOT IN(" else " IN(")] ++
      Expr.memberPieces list ++ [.text ")"]
  | .isNull operand => operand.pieces ++ [.text " IS NULL"]
  | .isNotNull operand => operand.pieces ++ [.text " IS NOT NULL"]
  | .not operand => [.text "NOT ("] ++ operand.pieces ++ [.text ")"]
  | .exists_ operand =>
    if operand.isSubquery then [.text "EXISTS "] ++ operand.pieces
    else [.text "EXISTS ", .text "("] ++ operand.pieces ++ [.text ")"]
  | .call name args =>
    [.text (upperText name), .text "("] ++ Piece.joined ", " (Expr.listPieces args) ++ [.text ")"]
  | .subquery m => [.text "("] ++ Piece.phrases m.clausePieces ++ [.text ")"]

def Expr.listPieces : List Expr → List (List Piece)
  | [] => []
  | e :: es => e.pieces :: Expr.listPieces es

/-- What stands between the parentheses of a list to look in; a lone subquery has no parentheses
of its own there. -/
def Expr.memberPieces : List Expr → List Piece
  | [] => [.text "NULL"]
  | [e] =>
    match e with
    | .subquery m => Piece.phrases m.clausePieces
    | e => e.pieces
  | e :: es => Piece.joined ", " (e.pieces :: Expr.listPieces es)

/-- The branches of a case expression: pairs of a condition and a result, and a last result. -/
def Expr.casePieces : List Expr → List Piece
  | [] => []
  | [otherwise] => [.text " ELSE "] ++ otherwise.pieces
  | condition :: result :: rest =>
    [.text " WHEN "] ++ condition.pieces ++ [.text " THEN "] ++ result.pieces ++
      Expr.casePieces rest

def Table.pieces : Table → List Piece
  | .named name alias? => [.text (Ident.quote name)] ++ Piece.ofAlias alias?
  | .derived m alias? =>
    [.text "("] ++ Piece.phrases m.clausePieces ++ [.text ")"] ++ Piece.ofAlias alias?

def Join.pieces : Join → List Piece
  | .mk kind table on =>
    [.text kind.sql, .text " JOIN "] ++ table.pieces ++ [.text " ON "] ++ on.pieces

def Join.listPieces : List Join → List (List Piece)
  | [] => []
  | j :: js => j.pieces :: Join.listPieces js

def OrderItem.pieces : OrderItem → List Piece
  | .mk expr direction nulls =>
    expr.pieces ++ [.text " ", .text direction.sql, .text " ", .text nulls.sql]

def OrderItem.listPieces : List OrderItem → List (List Piece)
  | [] => []
  | i :: is => i.pieces :: OrderItem.listPieces is

def Clause.pieces : {k : ClauseKind} → Clause k → List Piece
  | _, .select exprs => Piece.keywordList "SELECT" (Expr.listPieces exprs)
  | _, .selectDistinct on exprs =>
    [.text "SELECT DISTINCT"] ++
      (match on with
      | [] => []
      | _ :: _ => [.text " ON ("] ++ Piece.joined ", " (Expr.listPieces on) ++ [.text ")"]) ++
      (match exprs with
      | [] => []
      | _ :: _ => [.text " "] ++ Piece.joined ", " (Expr.listPieces exprs))
  | _, .insertInto table => [.text "INSERT INTO "] ++ table.pieces
  | _, .update table => [.text "UPDATE "] ++ table.pieces
  | _, .columns names => if names.isEmpty then [] else [.text (Ident.list names)]
  | _, .values rows => rowsPieces rows
  | _, .onConflict names =>
    if names.isEmpty then [.text "ON CONFLICT"]
    else [.text "ON CONFLICT", .text " ", .text (Ident.list names)]
  | _, .doUpdate exprs => Piece.keywordList "DO UPDATE SET" (Expr.listPieces exprs)
  | _, .doNothing => [.text "DO NOTHING"]
  | _, .set exprs => Piece.keywordList "SET" (Expr.listPieces exprs)
  | _, .from_ table => [.text "FROM "] ++ table.pieces
  | _, .join joins => Piece.joined " " (Join.listPieces joins)
  | _, .where_ condition => [.text "WHERE "] ++ condition.pieces
  | _, .groupBy exprs => Piece.keywordList "GROUP BY" (Expr.listPieces exprs)
  | _, .having condition => [.text "HAVING "] ++ condition.pieces
  | _, .orderBy items => Piece.keywordList "ORDER BY" (OrderItem.listPieces items)
  | _, .limit n => [.text "LIMIT ", .text (natText n.toNat)]
  | _, .offset n => [.text "OFFSET ", .text (natText n.toNat)]
  | _, .forUpdate => [.text "FOR UPDATE"]
  | _, .returning exprs => Piece.keywordList "RETURNING" (Expr.listPieces exprs)

/-- The pieces of each clause, in priority order. -/
def Clauses.clausePieces : {ks : List ClauseKind} → Clauses ks → List (List Piece)
  | _, .nil => []
  | _, .absent rest => rest.clausePieces
  | _, .present c rest => c.pieces :: rest.clausePieces

end

/-- The pieces of the statement that a clause map stands for. -/
def Clauses.pieces {ks : List ClauseKind} (m : Clauses ks) : List Piece :=
  Piece.phrases m.clausePieces

/-! ## The pieces of a changed map

A change of parameters leaves every piece in its place. -/

namespace Piece

@[simp] theorem map_intercalate (g : Piece → Piece) (ps : List Piece) (pss : List (List Piece)) :
    (ps.intercalate pss).map g = (ps.map g).intercalate (pss.map (·.map g)) := by
  match pss with
  | [] => rfl
  | [qs] => simp
  | qs :: rs :: pss =>
    have ih := map_intercalate g ps (rs :: pss)
    simp only [List.map_cons, List.intercalate_cons_cons, List.map_append] at ih ⊢
    rw [ih]

variable (f : Param → Param)

@[simp] theorem map_joined (separator : String) (pss : List (List Piece)) :
    (joined separator pss).map (mapParam f) = joined separator (pss.map (·.map (mapParam f))) := by
  simp [joined, mapParam]

@[simp] theorem silent_map (ps : List Piece) : silent (ps.map (mapParam f)) = silent ps := by
  induction ps with
  | nil => rfl
  | cons p ps ih =>
    simp only [silent, List.map_cons, List.all_cons] at ih ⊢
    rw [ih]
    cases p <;> rfl

@[simp] theorem map_phrases (clauses : List (List Piece)) :
    (phrases clauses).map (mapParam f) = phrases (clauses.map (·.map (mapParam f))) := by
  simp [phrases, List.filter_map, Function.comp_def]

@[simp] theorem map_keywordList (keyword : String) (items : List (List Piece)) :
    (keywordList keyword items).map (mapParam f)
      = keywordList keyword (items.map (·.map (mapParam f))) := by
  cases items <;> simp [keywordList, mapParam]

@[simp] theorem map_group (operator neutral : String) (operands : List (List Piece)) :
    (group operator neutral operands).map (mapParam f)
      = group operator neutral (operands.map (·.map (mapParam f))) := by
  cases operands <;> simp [group, mapParam]

@[simp] theorem map_ofAlias (alias? : Option String) :
    (ofAlias alias?).map (mapParam f) = ofAlias alias? := by
  cases alias? <;> rfl

/-- The text shows where parameters are and not which. -/
theorem textFrom_map (n : Nat) (ps : List Piece) :
    textFrom n (ps.map (mapParam f)) = textFrom n ps := by
  induction ps generalizing n with
  | nil => rfl
  | cons p ps ih => cases p <;> simp [mapParam, textFrom, ih]

end Piece

@[simp] theorem Value.piece_mapParams (f : Param → Param) (v : Value) :
    (v.mapParams f).piece = v.piece.mapParam f := by
  cases v <;> rfl

theorem rowsPieces_mapParams (f : Param → Param) (rows : List (List Value)) :
    rowsPieces (rows.map (·.map (Value.mapParams f)))
      = (rowsPieces rows).map (Piece.mapParam f) := by
  cases rows with
  | nil => rfl
  | cons row rows => simp [rowsPieces, rowPieces, Piece.mapParam, Function.comp_def]

@[simp] theorem Expr.isSubquery_mapParams (f : Param → Param) (e : Expr) :
    (e.mapParams f).isSubquery = e.isSubquery := by
  cases e <;> rfl

mutual

theorem Expr.pieces_mapParams (f : Param → Param) :
    ∀ e : Expr, (e.mapParams f).pieces = e.pieces.map (Piece.mapParam f)
  | .value v => by simp [Expr.mapParams, Expr.pieces]
  | .binary _ l r => by
    simp [Expr.mapParams, Expr.pieces, Piece.mapParam, Expr.pieces_mapParams f l,
      Expr.pieces_mapParams f r]
  | .and es => by simp [Expr.mapParams, Expr.pieces, Expr.listPieces_mapParams f es]
  | .or es => by simp [Expr.mapParams, Expr.pieces, Expr.listPieces_mapParams f es]
  | .caseWhen es => by
    simp [Expr.mapParams, Expr.pieces, Piece.mapParam, Expr.casePieces_mapParams f es]
  | .inList _ t es => by
    simp [Expr.mapParams, Expr.pieces, Piece.mapParam, Expr.pieces_mapParams f t,
      Expr.memberPieces_mapParams f es]
  | .isNull e => by simp [Expr.mapParams, Expr.pieces, Piece.mapParam, Expr.pieces_mapParams f e]
  | .isNotNull e => by
    simp [Expr.mapParams, Expr.pieces, Piece.mapParam, Expr.pieces_mapParams f e]
  | .not e => by simp [Expr.mapParams, Expr.pieces, Piece.mapParam, Expr.pieces_mapParams f e]
  | .exists_ e => by
    simp only [Expr.mapParams, Expr.pieces, Expr.isSubquery_mapParams, Expr.pieces_mapParams f e]
    split <;> simp [Piece.mapParam]
  | .call _ es => by
    simp [Expr.mapParams, Expr.pieces, Piece.mapParam, Expr.listPieces_mapParams f es]
  | .subquery m => by
    simp [Expr.mapParams, Expr.pieces, Piece.mapParam, Clauses.clausePieces_mapParams f m]

theorem Expr.listPieces_mapParams (f : Param → Param) : ∀ es : List Expr,
    Expr.listPieces (Expr.listMapParams f es)
      = (Expr.listPieces es).map (·.map (Piece.mapParam f))
  | [] => rfl
  | e :: es => by
    simp [Expr.listMapParams, Expr.listPieces, Expr.pieces_mapParams f e,
      Expr.listPieces_mapParams f es]

theorem Expr.memberPieces_mapParams (f : Param → Param) : ∀ es : List Expr,
    Expr.memberPieces (Expr.listMapParams f es) = (Expr.memberPieces es).map (Piece.mapParam f)
  | [] => rfl
  | [e] => by
    have he := Expr.pieces_mapParams f e
    cases e with
    | subquery m =>
      simp [Expr.listMapParams, Expr.mapParams, Expr.memberPieces,
        Clauses.clausePieces_mapParams f m]
    | _ => exact he
  | e :: e' :: es => by
    have hes := Expr.listPieces_mapParams f (e' :: es)
    simp only [Expr.listMapParams] at hes
    simp [Expr.listMapParams, Expr.memberPieces, Expr.pieces_mapParams f e, hes]

theorem Expr.casePieces_mapParams (f : Param → Param) : ∀ es : List Expr,
    Expr.casePieces (Expr.listMapParams f es) = (Expr.casePieces es).map (Piece.mapParam f)
  | [] => rfl
  | [e] => by
    simp [Expr.listMapParams, Expr.casePieces, Piece.mapParam, Expr.pieces_mapParams f e]
  | c :: r :: es => by
    simp [Expr.listMapParams, Expr.casePieces, Piece.mapParam, Expr.pieces_mapParams f c,
      Expr.pieces_mapParams f r, Expr.casePieces_mapParams f es]

theorem Table.pieces_mapParams (f : Param → Param) :
    ∀ t : Table, (t.mapParams f).pieces = t.pieces.map (Piece.mapParam f)
  | .named _ _ => by simp [Table.mapParams, Table.pieces, Piece.mapParam]
  | .derived m _ => by
    simp [Table.mapParams, Table.pieces, Piece.mapParam, Clauses.clausePieces_mapParams f m]

theorem Join.pieces_mapParams (f : Param → Param) :
    ∀ j : Join, (j.mapParams f).pieces = j.pieces.map (Piece.mapParam f)
  | .mk _ t on => by
    simp [Join.mapParams, Join.pieces, Piece.mapParam, Table.pieces_mapParams f t,
      Expr.pieces_mapParams f on]

theorem Join.listPieces_mapParams (f : Param → Param) : ∀ js : List Join,
    Join.listPieces (Join.listMapParams f js)
      = (Join.listPieces js).map (·.map (Piece.mapParam f))
  | [] => rfl
  | j :: js => by
    simp [Join.listMapParams, Join.listPieces, Join.pieces_mapParams f j,
      Join.listPieces_mapParams f js]

theorem OrderItem.pieces_mapParams (f : Param → Param) :
    ∀ i : OrderItem, (i.mapParams f).pieces = i.pieces.map (Piece.mapParam f)
  | .mk e _ _ => by
    simp [OrderItem.mapParams, OrderItem.pieces, Piece.mapParam, Expr.pieces_mapParams f e]

theorem OrderItem.listPieces_mapParams (f : Param → Param) : ∀ is : List OrderItem,
    OrderItem.listPieces (OrderItem.listMapParams f is)
      = (OrderItem.listPieces is).map (·.map (Piece.mapParam f))
  | [] => rfl
  | i :: is => by
    simp [OrderItem.listMapParams, OrderItem.listPieces, OrderItem.pieces_mapParams f i,
      OrderItem.listPieces_mapParams f is]

theorem Clause.pieces_mapParams (f : Param → Param) :
    ∀ {k : ClauseKind} (c : Clause k), (c.mapParams f).pieces = c.pieces.map (Piece.mapParam f)
  | _, .select es => by simp [Clause.mapParams, Clause.pieces, Expr.listPieces_mapParams f es]
  | _, .selectDistinct on es => by
    have hon := Expr.listPieces_mapParams f on
    have hes := Expr.listPieces_mapParams f es
    cases on <;> cases es <;> simp only [Expr.listMapParams] at hon hes <;>
      simp [Clause.mapParams, Clause.pieces, Expr.listMapParams, Piece.mapParam, hon, hes]
  | _, .insertInto t => by
    simp [Clause.mapParams, Clause.pieces, Piece.mapParam, Table.pieces_mapParams f t]
  | _, .update t => by
    simp [Clause.mapParams, Clause.pieces, Piece.mapParam, Table.pieces_mapParams f t]
  | _, .columns [] => rfl
  | _, .columns (_ :: _) => rfl
  | _, .values rows => rowsPieces_mapParams f rows
  | _, .onConflict [] => rfl
  | _, .onConflict (_ :: _) => rfl
  | _, .doUpdate es => by simp [Clause.mapParams, Clause.pieces, Expr.listPieces_mapParams f es]
  | _, .doNothing => rfl
  | _, .set es => by simp [Clause.mapParams, Clause.pieces, Expr.listPieces_mapParams f es]
  | _, .from_ t => by
    simp [Clause.mapParams, Clause.pieces, Piece.mapParam, Table.pieces_mapParams f t]
  | _, .join js => by simp [Clause.mapParams, Clause.pieces, Join.listPieces_mapParams f js]
  | _, .where_ e => by
    simp [Clause.mapParams, Clause.pieces, Piece.mapParam, Expr.pieces_mapParams f e]
  | _, .groupBy es => by simp [Clause.mapParams, Clause.pieces, Expr.listPieces_mapParams f es]
  | _, .having e => by
    simp [Clause.mapParams, Clause.pieces, Piece.mapParam, Expr.pieces_mapParams f e]
  | _, .orderBy is => by
    simp [Clause.mapParams, Clause.pieces, OrderItem.listPieces_mapParams f is]
  | _, .limit _ => rfl
  | _, .offset _ => rfl
  | _, .forUpdate => rfl
  | _, .returning es => by simp [Clause.mapParams, Clause.pieces, Expr.listPieces_mapParams f es]

theorem Clauses.clausePieces_mapParams (f : Param → Param) :
    ∀ {ks : List ClauseKind} (m : Clauses ks),
      (m.mapParams f).clausePieces = m.clausePieces.map (·.map (Piece.mapParam f))
  | _, .nil => rfl
  | _, .absent rest => Clauses.clausePieces_mapParams f rest
  | _, .present c rest => by
    simp [Clauses.mapParams, Clauses.clausePieces, Clause.pieces_mapParams f c,
      Clauses.clausePieces_mapParams f rest]

end

theorem Clauses.pieces_mapParams (f : Param → Param) {ks : List ClauseKind} (m : Clauses ks) :
    (m.mapParams f).pieces = m.pieces.map (Piece.mapParam f) := by
  simp [pieces, Clauses.clausePieces_mapParams]

end Clausal
