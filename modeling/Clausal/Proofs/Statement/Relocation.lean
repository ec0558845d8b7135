import Clausal.Proofs.Statement.Rendering

/-!
# Writing in any place

Whatever a writer is given, it only adds to its text and to its values, also where it fails on the
way, and is at the same depth afterwards. What it adds does not depend on the place: it is what a
new writer without a limit has written at the end, with each placeholder counted on from the values
that are bound already.
-/

namespace Clausal

/-! ## Texts with placeholders -/

/-- A stretch of written text: a placeholder, told by its number, or a text that is none. -/
inductive Fragment where
  | text (s : String)
  | placeholder (n : Nat)
  deriving DecidableEq

namespace Fragment

def shown : Fragment → String
  | text s => s
  | placeholder n => Action.placeholder n

def number? : Fragment → Option Nat
  | text _ => none
  | placeholder n => some n

/-- The fragment with the number of a placeholder increased by `n`. -/
def shift (n : Nat) : Fragment → Fragment
  | text s => text s
  | placeholder k => placeholder (k + n)

/-- The text of the fragments, one after the other. -/
def textOf (fs : List Fragment) : String :=
  String.join (fs.map shown)

end Fragment

namespace Piece

/-- The fragments of pieces before which `n` parameters stand. -/
def fragmentsFrom (n : Nat) : List Piece → List Fragment
  | [] => []
  | text s :: ps => .text s :: fragmentsFrom n ps
  | param _ :: ps => .placeholder (n + 1) :: fragmentsFrom (n + 1) ps

theorem textOf_fragmentsFrom (n : Nat) (ps : List Piece) :
    Fragment.textOf (fragmentsFrom n ps) = textFrom n ps := by
  unfold Fragment.textOf
  induction ps generalizing n with
  | nil => rfl
  | cons p ps ih => cases p <;> simp [fragmentsFrom, textFrom, Fragment.shown, ih]

/-- Numbers that begin later are greater by as much, all along. -/
theorem fragmentsFrom_add (m n : Nat) (ps : List Piece) :
    fragmentsFrom (m + n) ps = (fragmentsFrom m ps).map (Fragment.shift n) := by
  induction ps generalizing m with
  | nil => rfl
  | cons p ps ih =>
    cases p with
    | text s => simp [fragmentsFrom, Fragment.shift, ih]
    | param p => simp [fragmentsFrom, Fragment.shift, Nat.add_right_comm m n 1, ih]

theorem filterMap_number?_fragmentsFrom (n : Nat) (ps : List Piece) :
    (fragmentsFrom n ps).filterMap Fragment.number?
      = List.range' (n + 1) (ps.filterMap param?).length := by
  induction ps generalizing n with
  | nil => rfl
  | cons p ps ih =>
    cases p with
    | text s =>
      rw [fragmentsFrom, List.filterMap_cons_none rfl, List.filterMap_cons_none rfl]
      exact ih n
    | param p => simp [fragmentsFrom, Fragment.number?, param?, List.range'_succ, ih]

end Piece

/-! ## Parts of a statement -/

/-- What a writer can be given to write. -/
inductive Writable where
  | expr (e : Expr)
  | table (t : Table)
  | join (j : Join)
  | orderItem (i : OrderItem)
  | clauses (m : ClauseMap)

namespace Writable

def write : Writable → Action
  | expr e => e.write
  | table t => t.write
  | join j => j.write
  | orderItem i => i.write
  | clauses m => statement m.write

def marks (depth : Nat) : Writable → List Mark
  | expr e => e.marks depth
  | table t => t.marks depth
  | join j => j.marks depth
  | orderItem i => i.marks depth
  | clauses m => Mark.ofEmptiness m ++ m.marks depth

def pieces : Writable → List Piece
  | expr e => e.pieces
  | table t => t.pieces
  | join j => j.pieces
  | orderItem i => i.pieces
  | clauses m => m.pieces

/-- The fragments of the part where nothing stands before it. -/
def fragments (x : Writable) : List Fragment :=
  Piece.fragmentsFrom 0 x.pieces

theorem write_performs : ∀ x : Writable, x.write.Performs (fun d => x.marks d) x.pieces
  | expr e => e.write_performs
  | table t => t.write_performs
  | join j => j.write_performs
  | orderItem i => i.write_performs
  | clauses m => Clauses.statement_performs m.write_performAll

end Writable

/-! ## Writing -/

/-- A limit adds faults and takes none away. -/
theorem firstFault_unbounded_eq_none {limit : DepthLimit} {ms : List Mark}
    (h : firstFault limit ms = none) : firstFault .unbounded ms = none := by
  have hmark : ∀ m : Mark, m.fault? limit = none → m.fault? .unbounded = none := by
    intro m hm
    cases m with
    | enter d => rfl
    | hollow tag => cases tag <;> exact hm
    | _ => exact hm
  rw [firstFault, List.findSome?_eq_none_iff] at h
  rw [firstFault, List.findSome?_eq_none_iff]
  exact fun m hm => hmark m (h m hm)

/-- An action that succeeds anywhere succeeds in a new writer without a limit. -/
theorem Action.Performs.start_eq {a : Action} {ms : Nat → List Mark} {ps : List Piece}
    (h : a.Performs ms ps) {w : Writer} (hok : (a w).2 = none) :
    a (Writer.start .unbounded) = ((Writer.start .unbounded).emit ps, none) := by
  have hfault : firstFault .unbounded (ms 0) = none := by
    rw [h.anyDepth 0 w.depth]
    exact firstFault_unbounded_eq_none ((h.fault w).symm.trans hok)
  have hstart : (a (Writer.start .unbounded)).2 = none := (h.fault _).trans hfault
  exact Prod.ext (h.written _ hstart) hstart

/-- Whatever is written, the text and the values so far stay at the beginning and the depth is the
same as before, with an error and without. If there is none, then a new writer without a limit
writes the same: the text that is added has its fragments, each placeholder increased by the number
of values that were there, and the values that are added are its values. For a clause map that is
the statement that it renders to. -/
theorem Writable.write_relocated (x : Writable) (w : Writer) :
    let after := (x.write w).1
    (after.depth = w.depth ∧ after.limit = w.limit ∧
        (∃ added, after.text = w.text ++ added) ∧ ∃ added, after.params = w.params ++ added) ∧
      ((x.write w).2 = none →
        ∃ fresh, x.write (Writer.start .unbounded) = (fresh, none) ∧
          fresh.text = Fragment.textOf x.fragments ∧
          x.fragments.filterMap Fragment.number? = List.range' 1 fresh.params.size ∧
          after.text = w.text ++ Fragment.textOf (x.fragments.map (.shift w.params.size)) ∧
          after.params = w.params ++ fresh.params ∧
          ∀ m, x = clauses m → m.render .unbounded = .ok ⟨fresh.text, fresh.params.toList⟩) := by
  intro after
  have hperforms := x.write_performs
  refine ⟨?_, fun hok => ?_⟩
  · obtain ⟨added, hadded⟩ := hperforms.framed w
    have hafter : after = w.emit added := hadded
    rw [hafter]
    exact ⟨rfl, rfl, ⟨_, rfl⟩, _, rfl⟩
  · have hstart := hperforms.start_eq hok
    have hafter : after = w.emit x.pieces := hperforms.written w hok
    refine ⟨_, hstart, ?_, ?_, ?_, ?_, ?_⟩
    · rw [fragments, Piece.textOf_fragmentsFrom]
      exact String.empty_append
    · rw [fragments, Piece.filterMap_number?_fragmentsFrom]
      simp [Writer.emit, Writer.start]
    · rw [fragments, ← Piece.fragmentsFrom_add, Piece.textOf_fragmentsFrom, Nat.zero_add, hafter]
      rfl
    · rw [hafter]
      simp [Writer.emit, Writer.start]
    · rintro m rfl
      have hstatement : statement m.write (Writer.start .unbounded) = _ := hstart
      rw [Clauses.render, hstatement]

/-- A clause map with a subquery, a clause without text and a raw text that looks like a
placeholder, after a value that is bound already. With one level less it stops in the middle of the
text. -/
theorem Writable.write_relocated_subquery :
    let leaf := ClauseMap.ofList [⟨_, .limit 1⟩, ⟨_, .where_ (.param (.int 2))⟩]
    let m := ClauseMap.ofList
      [⟨_, .select [.param (.int 1), .raw "$9"]⟩, ⟨_, .join []⟩,
        ⟨_, .where_ (.inList false (.ident "x") [.subquery leaf])⟩]
    let w : Writer := ⟨"WHERE $1 IN(", #[.int 7], 1, some 2⟩
    let shallow : Writer := { w with limit := some 1 }
    (((clauses m).write w).2 = none ∧
        ((clauses m).write w).1.text
          = "WHERE $1 IN(" ++ "SELECT $2, $9 WHERE \"x\" IN(WHERE $3 LIMIT 1)" ∧
        ((clauses m).write w).1.params = #[.int 7] ++ #[.int 1, .int 2] ∧
        m.render .unbounded
          = .ok ⟨"SELECT $1, $9 WHERE \"x\" IN(WHERE $2 LIMIT 1)", [.int 1, .int 2]⟩) ∧
      ((clauses m).write shallow).2 = some (.depthExceeded 1) ∧
        ((clauses m).write shallow).1.depth = 1 ∧
        ((clauses m).write shallow).1.text = "WHERE $1 IN(SELECT $2, $9 WHERE \"x\" IN(" := by
  intro leaf m w shallow
  have hok : ((clauses m).write w).2 = none := by decide +kernel
  obtain ⟨-, hrelocated⟩ := Writable.write_relocated (clauses m) w
  obtain ⟨fresh, hfresh, hfreshText, -, htext, hparams, hrender⟩ := hrelocated hok
  have hfreshParams : fresh.params = #[.int 1, .int 2] := by
    calc fresh.params
      _ = ((clauses m).write (Writer.start .unbounded)).1.params := by rw [hfresh]
      _ = #[.int 1, .int 2] := by decide +kernel
  have hshown : Fragment.textOf (clauses m).fragments
      = "SELECT $1, $9 WHERE \"x\" IN(WHERE $2 LIMIT 1)" := by decide +kernel
  have hshifted : Fragment.textOf ((clauses m).fragments.map (.shift w.params.size))
      = "SELECT $2, $9 WHERE \"x\" IN(WHERE $3 LIMIT 1)" := by decide +kernel
  obtain ⟨⟨hdepth, -⟩, -⟩ := Writable.write_relocated (clauses m) shallow
  refine ⟨⟨hok, ?_, ?_, ?_⟩, by decide +kernel, hdepth, by decide +kernel⟩
  · rw [htext, hshifted]
  · rw [hparams, hfreshParams]
  · rw [hrender m rfl, hfreshText, hshown, hfreshParams]

end Clausal
