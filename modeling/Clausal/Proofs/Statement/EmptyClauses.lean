import Clausal.Proofs.Query.Lookup
import Clausal.Proofs.Query.Places
import Clausal.Proofs.Statement.DepthLimit
import Clausal.Query.Equality

/-!
# Clauses that come to no text

A list of columns without columns and a list of joins without joins write nothing. The blank before
such a clause is taken back, so it makes no difference whether the clause is there, in the whole
clause map or in one that stands somewhere inside. What writing the clauses of a map comes to is
their texts, without the empty ones, joined by blanks.
-/

namespace Clausal

open Clausal.Action (skip phrases nested)

/-! ## A clause that does nothing -/

/-- The blank before the clause is taken back. -/
theorem Action.phrases_skip (first : Bool) (as : List Action) :
    phrases first (skip :: as) = phrases first as := by
  funext w
  cases first <;> simp [phrases, skip, Writer.truncate]

namespace Clauses

variable {k : ClauseKind} {ks : List ClauseKind}

theorem phrases_insert_skip {c : Clause k} (hc : c.write = skip) (first : Bool) (m : Clauses ks)
    (hk : m.get? k = none) : phrases first (m.insert c).write = phrases first m.write := by
  induction ks generalizing first with
  | nil => cases m; rfl
  | cons j ks ih =>
    obtain ⟨slot, rest, rfl⟩ := m.exists_eq_cons
    by_cases h : k = j
    · subst h
      obtain rfl : slot = none := (get?_cons_self slot rest).symm.trans hk
      have hwrite : (cons (some c) rest).write = skip :: rest.write :=
        congrArg (· :: rest.write) hc
      rw [insert_cons_self, hwrite]
      exact Action.phrases_skip first rest.write
    · have hrest : rest.get? k = none := (get?_cons_of_ne (Ne.symm h) slot rest).symm.trans hk
      rw [insert_cons_of_ne h]
      cases slot with
      | none => exact ih first rest hrest
      | some d =>
        -- Whether the first clause writes anything decides how the rest begins, so the rest is the
        -- same for both.
        funext w
        simp only [cons, Clauses.write, phrases, fun first => ih first rest hrest]

theorem statement_eq_phrases {m : Clauses ks} (h : m.isEmpty = false) :
    statement m.write = phrases true m.write := by
  have hwrite : m.write.isEmpty = false := m.isEmpty_write.trans h
  cases hm : m.write with
  | nil => rw [hm] at hwrite; cases hwrite
  | cons a as => rfl

theorem statement_insert_skip {c : Clause k} (hc : c.write = skip) {m : ClauseMap}
    (hm : m.isEmpty = false) (hk : m.get? k = none) :
    statement (m.insert c).write = statement m.write := by
  have hfilled : (m.insert c).get? k ≠ none := by
    rw [get?_insert_self (ClauseKind.mem_all k)]
    exact Option.some_ne_none c
  rw [statement_eq_phrases hm, statement_eq_phrases ((isEmpty_eq_false_iff _).mpr ⟨k, hfilled⟩)]
  exact phrases_insert_skip hc true m hk

end Clauses

/-! ## A clause map in its place

Writing only asks what the statement of a nested clause map writes, and whether an expression is a
subquery at all. -/

/-- Whether one expression can stand for the other wherever it is written. -/
structure Expr.Alike (e e' : Expr) : Prop where
  write : e'.write = e.write
  isSubquery : e'.isSubquery = e.isSubquery
  writeMembers : Expr.writeMembers [e'] = Expr.writeMembers [e]

namespace Expr

theorem writeMembers_singleton {e : Expr} (h : e.isSubquery = false) :
    writeMembers [e] = e.write := by
  cases e with
  | subquery m => cases h
  | _ => rfl

namespace Alike

variable {e e' : Expr} {es es' : List Expr}

theorem refl (e : Expr) : Alike e e := ⟨rfl, rfl, rfl⟩

theorem of_write (he : e.isSubquery = false) (he' : e'.isSubquery = false)
    (h : e'.write = e.write) : Alike e e' where
  write := h
  isSubquery := he'.trans he.symm
  writeMembers := by rw [writeMembers_singleton he, writeMembers_singleton he', h]

theorem writeList (h : List.Forall₂ Alike es es') : Expr.writeList es' = Expr.writeList es := by
  induction h with
  | nil => rfl
  | cons he _ ih => rw [Expr.writeList, Expr.writeList, he.write, ih]

theorem list_writeMembers (h : List.Forall₂ Alike es es') :
    Expr.writeMembers es' = Expr.writeMembers es := by
  cases h with
  | nil => rfl
  | cons he hes =>
    cases hes with
    | nil => exact he.writeMembers
    | cons he₂ hes =>
      have hrest := writeList (.cons he₂ hes)
      exact congrArg₂ (fun a as => Action.separated ", " (a :: as)) he.write hrest

theorem writeCases : ∀ {es es' : List Expr}, List.Forall₂ Alike es es' →
    Expr.writeCases es' = Expr.writeCases es
  | _, _, .nil => rfl
  | _, _, .cons he .nil => by rw [Expr.writeCases, Expr.writeCases, he.write]
  | _, _, .cons hc (.cons hr hes) => by
    rw [Expr.writeCases, Expr.writeCases, hc.write, hr.write, writeCases hes]

end Alike

end Expr

namespace Place

variable {α β : Type} {x : α} {R : α → Prop} {S : β → Prop} {ps qs : List (Place x)}

/-- Whether `R` holds of `x` with another clause map in any of the places, as long as that writes
the same statement. -/
def Keeps (R : α → Prop) (ps : List (Place x)) : Prop :=
  ∀ p ∈ ps, ∀ n : ClauseMap, statement n.write = statement p.map.write → R (p.fill n)

namespace Keeps

theorem nil : Keeps R ([] : List (Place x)) :=
  fun _ hp => absurd hp List.not_mem_nil

theorem append (hps : Keeps R ps) (hqs : Keeps R qs) : Keeps R (ps ++ qs) := by
  intro p hp
  rcases List.mem_append.mp hp with hp | hp
  · exact hps p hp
  · exact hqs p hp

theorem allUnder {f : α → β} (hps : Keeps R ps) (hf : ∀ y, R y → S (f y)) :
    Keeps S (Place.allUnder f ps) := by
  intro p hp n hn
  obtain ⟨q, hq, rfl⟩ := List.mem_map.mp hp
  exact hf _ (hps q hq n hn)

end Keeps

end Place

open Place (Keeps whole)
open Clausal.Expr (Alike)

/-- Around a clause map only its statement is written. -/
theorem Clauses.keeps_whole {m : ClauseMap} (h : Keeps (·.write = m.write) m.inner) :
    Keeps (fun n : ClauseMap => statement n.write = statement m.write) m.places := by
  intro p hp n hn
  rcases List.mem_cons.mp hp with rfl | hp
  · exact hn
  · exact congrArg statement (h p hp n hn)

-- By recursion on the part: a clause map stands in one of the parts of the part, and the others stay.
-- Lists of expressions are compared item by item, because a branch of a case expression takes two.
mutual

theorem Expr.keeps : ∀ e : Expr, Keeps (Alike e) e.places
  | .value _ => .nil
  | .binary op l r => by
    refine (l.keeps.allUnder fun l' h => ?_).append (r.keeps.allUnder fun r' h => ?_)
    · exact .of_write rfl rfl (by rw [Expr.write, Expr.write, h.write])
    · exact .of_write rfl rfl (by rw [Expr.write, Expr.write, h.write])
  | .and es => (Expr.list_keeps es).allUnder fun es' h =>
    .of_write rfl rfl (by rw [Expr.write, Expr.write, Alike.writeList h])
  | .or es => (Expr.list_keeps es).allUnder fun es' h =>
    .of_write rfl rfl (by rw [Expr.write, Expr.write, Alike.writeList h])
  | .caseWhen es => (Expr.list_keeps es).allUnder fun es' h => by
    refine .of_write rfl rfl ?_
    have hcases := Alike.writeCases h
    cases h with
    | nil => rfl
    | cons he hes => rw [Expr.write, Expr.write, hcases]
  | .inList negated t es => by
    refine (t.keeps.allUnder fun t' h => ?_).append ((Expr.list_keeps es).allUnder fun es' h => ?_)
    · exact .of_write rfl rfl (by rw [Expr.write, Expr.write, h.write])
    · exact .of_write rfl rfl (by rw [Expr.write, Expr.write, Alike.list_writeMembers h])
  | .isNull e => e.keeps.allUnder fun e' h =>
    .of_write rfl rfl (by rw [Expr.write, Expr.write, h.write])
  | .isNotNull e => e.keeps.allUnder fun e' h =>
    .of_write rfl rfl (by rw [Expr.write, Expr.write, h.write])
  | .not e => e.keeps.allUnder fun e' h =>
    .of_write rfl rfl (by rw [Expr.write, Expr.write, h.write])
  | .exists_ e => e.keeps.allUnder fun e' h =>
    .of_write rfl rfl (by rw [Expr.write, Expr.write, h.isSubquery, h.write])
  | .call name es => (Expr.list_keeps es).allUnder fun es' h =>
    .of_write rfl rfl (by rw [Expr.write, Expr.write, Alike.writeList h])
  | .subquery m => (Clauses.keeps_whole m.keeps).allUnder fun m' h => {
      write := by rw [Expr.write, Expr.write, parenthesized, parenthesized, h]
      isSubquery := rfl
      writeMembers := congrArg nested h }

theorem Expr.list_keeps : ∀ es : List Expr, Keeps (List.Forall₂ Alike es) (Expr.listPlaces es)
  | [] => .nil
  | e :: es => by
    refine (e.keeps.allUnder fun e' h => ?_).append ((Expr.list_keeps es).allUnder fun es' h => ?_)
    · exact .cons h (List.forall₂_same.mpr fun _ _ => .refl _)
    · exact .cons (.refl e) h

theorem Table.keeps : ∀ t : Table, Keeps (·.write = t.write) t.places
  | .named _ _ => .nil
  | .derived m alias? => (Clauses.keeps_whole m.keeps).allUnder fun m' h => by
    rw [Table.write, Table.write, parenthesized, parenthesized, h]

theorem Join.keeps : ∀ j : Join, Keeps (·.write = j.write) j.places
  | .mk kind t on => by
    refine (t.keeps.allUnder fun t' h => ?_).append (on.keeps.allUnder fun on' h => ?_)
    · rw [Join.write, Join.write, h]
    · rw [Join.write, Join.write, h.write]

theorem Join.list_keeps : ∀ js : List Join,
    Keeps (Join.writeList · = Join.writeList js) (Join.listPlaces js)
  | [] => .nil
  | j :: js => by
    refine (j.keeps.allUnder fun j' h => ?_).append ((Join.list_keeps js).allUnder fun js' h => ?_)
    · rw [Join.writeList, Join.writeList, h]
    · rw [Join.writeList, Join.writeList, h]

theorem OrderItem.keeps : ∀ i : OrderItem, Keeps (·.write = i.write) i.places
  | .mk e direction nulls => e.keeps.allUnder fun e' h => by
    rw [OrderItem.write, OrderItem.write, h.write]

theorem OrderItem.list_keeps : ∀ is : List OrderItem,
    Keeps (OrderItem.writeList · = OrderItem.writeList is) (OrderItem.listPlaces is)
  | [] => .nil
  | i :: is => by
    refine (i.keeps.allUnder fun i' h => ?_).append
      ((OrderItem.list_keeps is).allUnder fun is' h => ?_)
    · rw [OrderItem.writeList, OrderItem.writeList, h]
    · rw [OrderItem.writeList, OrderItem.writeList, h]

theorem Clause.keeps : ∀ {k : ClauseKind} (c : Clause k), Keeps (·.write = c.write) c.places
  | _, .select es | _, .doUpdate es | _, .set es | _, .groupBy es | _, .returning es =>
    (Expr.list_keeps es).allUnder fun es' h => by
      rw [Clause.write, Clause.write, Alike.writeList h]
  | _, .selectDistinct on es => by
    refine ((Expr.list_keeps on).allUnder fun on' h => ?_).append
      ((Expr.list_keeps es).allUnder fun es' h => ?_)
    · have hon := Alike.writeList h
      cases h with
      | nil => rfl
      | cons _ _ => simp only [Clause.write, hon]
    · have hes := Alike.writeList h
      cases h with
      | nil => rfl
      | cons _ _ => simp only [Clause.write, hes]
  | _, .insertInto t | _, .update t | _, .from_ t => t.keeps.allUnder fun t' h => by
    rw [Clause.write, Clause.write, h]
  | _, .columns _ | _, .values _ | _, .onConflict _ | _, .doNothing | _, .limit _ | _, .offset _
  | _, .forUpdate => .nil
  | _, .join js => (Join.list_keeps js).allUnder fun js' h => by
    rw [Clause.write, Clause.write, h]
  | _, .where_ e | _, .having e => e.keeps.allUnder fun e' h => by
    rw [Clause.write, Clause.write, h.write]
  | _, .orderBy is => (OrderItem.list_keeps is).allUnder fun is' h => by
    rw [Clause.write, Clause.write, h]

theorem Clauses.keeps : ∀ {ks : List ClauseKind} (m : Clauses ks), Keeps (·.write = m.write) m.inner
  | _, .nil => .nil
  | _, .absent rest => rest.keeps.allUnder fun rest' h => h
  | _, .present c rest => by
    refine (c.keeps.allUnder fun c' h => ?_).append (rest.keeps.allUnder fun rest' h => ?_)
    · rw [Clauses.write, Clauses.write, h]
    · rw [Clauses.write, Clauses.write, h]

end

theorem Clauses.render_fill {m : ClauseMap} {p : Place m} (hp : p ∈ m.places) {n : ClauseMap}
    (hn : statement n.write = statement p.map.write) (limit : DepthLimit) :
    (p.fill n).render limit = m.render limit := by
  rw [Clauses.render, Clauses.render, Clauses.keeps_whole m.keeps p hp n hn]

/-! ## The texts of the clauses -/

/-- The text that each of the actions writes, done one after the other: every one begins with no
text at all and with the values that those before it have bound. -/
def Action.texts : Writer → List Action → List String
  | _, [] => []
  | w, a :: as =>
    let after := (a { w with text := "" }).1
    after.text :: texts after as

namespace Piece

/-- The texts of lists of pieces, the parameters numbered through all of them. -/
def textsFrom : Nat → List (List Piece) → List String
  | _, [] => []
  | n, ps :: pss => textFrom n ps :: textsFrom (n + (ps.filterMap param?).length) pss

theorem textFrom_joined (separator : String) (n : Nat) (pss : List (List Piece)) :
    textFrom n (joined separator pss) = separator.intercalate (textsFrom n pss) := by
  unfold joined
  induction pss generalizing n with
  | nil => rfl
  | cons ps pss ih =>
    cases pss with
    | nil => simp [textsFrom]
    | cons qs pss =>
      have htexts : textsFrom n (ps :: qs :: pss)
          = textFrom n ps :: textsFrom (n + (ps.filterMap param?).length) (qs :: pss) := rfl
      rw [List.intercalate_cons_cons, List.append_assoc, textFrom_append, List.singleton_append,
        textFrom, ih, htexts, String.intercalate_cons_of_ne_nil (by simp [textsFrom]),
        String.append_assoc]

/-- Pieces that come to no text have no parameters, so the numbers of the others stay. -/
theorem textsFrom_filter (n : Nat) (pss : List (List Piece)) :
    textsFrom n (pss.filter (!silent ·)) = (textsFrom n pss).filter (· ≠ "") := by
  induction pss generalizing n with
  | nil => rfl
  | cons ps pss ih =>
    cases hs : silent ps with
    | true =>
      have htext : textFrom n ps = "" := textFrom_eq_empty_iff.mpr hs
      rw [List.filter_cons_of_neg (by simp [hs]), textsFrom,
        List.filter_cons_of_neg (by simp [htext]), filterMap_param?_of_silent hs]
      exact ih n
    | false =>
      have htext : textFrom n ps ≠ "" := fun h => by simp [textFrom_eq_empty_iff.mp h] at hs
      rw [List.filter_cons_of_pos (by simp [hs]), textsFrom, textsFrom,
        List.filter_cons_of_pos (by simp [htext]), ih]

theorem textFrom_phrases (n : Nat) (pss : List (List Piece)) :
    textFrom n (phrases pss) = " ".intercalate ((textsFrom n pss).filter (· ≠ "")) := by
  rw [phrases, textFrom_joined, textsFrom_filter]

end Piece

theorem Action.PerformAll.texts_eq {as : List Action} {ms : Nat → List Mark}
    {pss : List (List Piece)} (h : PerformAll as ms pss) (w : Writer)
    (hfault : firstFault w.limit (ms w.depth) = none) :
    texts w as = Piece.textsFrom w.params.size pss := by
  induction h generalizing w with
  | nil => rfl
  | @cons a as ms ns ps pss ha has ih =>
    rw [firstFault_append, Option.or_eq_none_iff] at hfault
    have hrun := ha.written { w with text := "" } ((ha.fault _).trans hfault.1)
    have hrest := ih ((Writer.emit { w with text := "" } ps)) hfault.2
    rw [texts, hrun, hrest]
    simp [Writer.emit, Piece.textsFrom]

/-! ## Statements -/

/-- An empty list of columns or of joins can be put into any clause map that has other clauses but
none of that kind, wherever this stands, and rendering gives the same. What is written for such a
map is the texts of its clauses that are not empty, with a blank between neighbours, and all of
its values are bound. -/
theorem ClauseMap.render_fill_insert_empty {limit : DepthLimit} {m : ClauseMap} {p : Place m}
    (hp : p ∈ m.places) (hclauses : p.map.isEmpty = false) :
    (p.map.contains .columns = false →
        (p.fill (p.map.insert (.columns []))).render limit = m.render limit) ∧
      (p.map.contains .join = false →
        (p.fill (p.map.insert (.join []))).render limit = m.render limit) ∧
      ∀ w, (statement p.map.write w).2 = none →
        (statement p.map.write w).1.text
            = w.text ++ " ".intercalate ((Action.texts w p.map.write).filter (· ≠ "")) ∧
          (statement p.map.write w).1.params = w.params ++ p.map.params.toArray := by
  refine ⟨fun hk => ?_, fun hk => ?_, fun w hok => ?_⟩
  · have hnone := Option.isNone_iff_eq_none.mp (Option.isSome_eq_false_iff.mp hk)
    exact Clauses.render_fill hp (Clauses.statement_insert_skip rfl hclauses hnone) limit
  · have hnone := Option.isNone_iff_eq_none.mp (Option.isSome_eq_false_iff.mp hk)
    exact Clauses.render_fill hp (Clauses.statement_insert_skip rfl hclauses hnone) limit
  · have hperforms := Clauses.statement_performs p.map.write_performAll
    have hfault : firstFault w.limit (Mark.ofEmptiness p.map ++ p.map.marks w.depth) = none :=
      (hperforms.fault w).symm.trans hok
    rw [firstFault_append, Option.or_eq_none_iff] at hfault
    rw [hperforms.written w hok, p.map.write_performAll.texts_eq w hfault.2,
      ← Piece.textFrom_phrases, ← Clauses.filterMap_pieces]
    exact ⟨rfl, rfl⟩

/-- An empty list of columns in a subquery that has an empty list of joins already, between clauses
that bind values, and an empty list of joins in the map around it. -/
theorem ClauseMap.render_fill_insert_empty_subquery :
    let inner := ClauseMap.ofList
      [⟨_, .select [.param (.int 2)]⟩, ⟨_, .join []⟩, ⟨_, .where_ (.param (.int 3))⟩]
    let m := ClauseMap.ofList
      [⟨_, .columns []⟩, ⟨_, .where_ (.inList false (.param (.int 1)) [.subquery inner])⟩]
    let p : Place m := m.places.get ⟨1, by decide +kernel⟩
    let w : Writer := ⟨"WITH ", #[.int 1], 1, some 1⟩
    (p ∈ m.places ∧ p.map = inner ∧ inner.isEmpty = false ∧ inner.contains .columns = false ∧
      (p.fill (inner.insert (.columns []))).render (some 1) = m.render (some 1)) ∧
    (whole m ∈ m.places ∧ m.isEmpty = false ∧ m.contains .join = false ∧
      (m.insert (.join [])).render (some 1) = m.render (some 1)) ∧
    Action.texts w inner.write = ["SELECT $2", "", "WHERE $3"] ∧
      (statement inner.write w).1.text = "WITH SELECT $2 WHERE $3" := by
  intro inner m p w
  have hp : p ∈ m.places := List.get_mem m.places _
  have hm : whole m ∈ m.places := List.mem_cons_self ..
  have hmap : p.map = inner := by decide +kernel
  have hclauses : p.map.isEmpty = false := by decide +kernel
  have hne : m.isEmpty = false := by decide +kernel
  obtain ⟨hcolumns, -, htext⟩ := @ClauseMap.render_fill_insert_empty (some 1) m p hp hclauses
  obtain ⟨-, hjoin, -⟩ := @ClauseMap.render_fill_insert_empty (some 1) m (whole m) hm hne
  rw [hmap] at hcolumns htext hclauses
  rw [Place.map_whole, Place.fill_whole] at hjoin
  have hlacks : inner.contains .columns = false := by decide +kernel
  have hlacks' : m.contains .join = false := by decide +kernel
  have hok : (statement inner.write w).2 = none := by decide +kernel
  have htexts : Action.texts w inner.write = ["SELECT $2", "", "WHERE $3"] := by decide +kernel
  refine ⟨⟨hp, hmap, hclauses, hlacks, hcolumns hlacks⟩, ⟨hm, hne, hlacks', hjoin hlacks'⟩,
    htexts, ?_⟩
  rw [(htext w hok).1, htexts]
  decide +kernel

end Clausal
