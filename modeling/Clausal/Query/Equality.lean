import Clausal.Query.Basic

/-!
# Equality of clause maps

A decision procedure for equality of expressions and clause maps, by recursion on both at once.
-/

namespace Clausal

/-! ## Comparison -/

mutual

def Expr.same : Expr → Expr → Bool
  | .value a, .value b => a == b
  | .binary o a b, .binary p c d => o == p && a.same c && b.same d
  | .and as, .and bs => Expr.sameList as bs
  | .or as, .or bs => Expr.sameList as bs
  | .caseWhen as, .caseWhen bs => Expr.sameList as bs
  | .inList m a as, .inList n b bs => m == n && a.same b && Expr.sameList as bs
  | .isNull a, .isNull b => a.same b
  | .isNotNull a, .isNotNull b => a.same b
  | .not a, .not b => a.same b
  | .exists_ a, .exists_ b => a.same b
  | .call m as, .call n bs => m == n && Expr.sameList as bs
  | .subquery a, .subquery b => a.same b
  | _, _ => false
termination_by structural a => a

def Expr.sameList : List Expr → List Expr → Bool
  | [], [] => true
  | a :: as, b :: bs => a.same b && Expr.sameList as bs
  | _, _ => false
termination_by structural a => a

def Table.same : Table → Table → Bool
  | .named m a, .named n b => m == n && a == b
  | .derived m a, .derived n b => m.same n && a == b
  | _, _ => false
termination_by structural a => a

def Join.same : Join → Join → Bool
  | .mk j s a, .mk k t b => j == k && s.same t && a.same b
termination_by structural a => a

def Join.sameList : List Join → List Join → Bool
  | [], [] => true
  | a :: as, b :: bs => a.same b && Join.sameList as bs
  | _, _ => false
termination_by structural a => a

def OrderItem.same : OrderItem → OrderItem → Bool
  | .mk a d m, .mk b e n => a.same b && d == e && m == n
termination_by structural a => a

def OrderItem.sameList : List OrderItem → List OrderItem → Bool
  | [], [] => true
  | a :: as, b :: bs => a.same b && OrderItem.sameList as bs
  | _, _ => false
termination_by structural a => a

def Clause.same : {k : ClauseKind} → Clause k → Clause k → Bool
  | _, .select as, .select bs => Expr.sameList as bs
  | _, .selectDistinct os as, .selectDistinct ps bs => Expr.sameList os ps && Expr.sameList as bs
  | _, .insertInto a, .insertInto b => a.same b
  | _, .update a, .update b => a.same b
  | _, .columns as, .columns bs => as == bs
  | _, .values as, .values bs => as == bs
  | _, .onConflict as, .onConflict bs => as == bs
  | _, .doUpdate as, .doUpdate bs => Expr.sameList as bs
  | _, .doNothing, .doNothing => true
  | _, .set as, .set bs => Expr.sameList as bs
  | _, .from_ a, .from_ b => a.same b
  | _, .join as, .join bs => Join.sameList as bs
  | _, .where_ a, .where_ b => a.same b
  | _, .groupBy as, .groupBy bs => Expr.sameList as bs
  | _, .having a, .having b => a.same b
  | _, .orderBy as, .orderBy bs => OrderItem.sameList as bs
  | _, .limit m, .limit n => m == n
  | _, .offset m, .offset n => m == n
  | _, .forUpdate, .forUpdate => true
  | _, .returning as, .returning bs => Expr.sameList as bs
termination_by structural _ a => a

def Clauses.same : {ks : List ClauseKind} → Clauses ks → Clauses ks → Bool
  | _, .nil, .nil => true
  | _, .absent a, .absent b => a.same b
  | _, .present c a, .present d b => c.same d && a.same b
  | _, .absent _, .present _ _ => false
  | _, .present _ _, .absent _ => false
termination_by structural _ a => a

end

/-! ## The comparison decides equality -/

mutual

theorem Expr.eq_of_same : ∀ a b : Expr, a.same b = true → a = b
  | .value _, b, h => by cases b <;> simp_all [Expr.same]
  | .binary _ a b, e, h => by
    cases e <;> simp [Expr.same] at h
    rw [h.1.1, Expr.eq_of_same a _ h.1.2, Expr.eq_of_same b _ h.2]
  | .and as, e, h => by
    cases e <;> simp [Expr.same] at h
    rw [Expr.eq_of_sameList as _ h]
  | .or as, e, h => by
    cases e <;> simp [Expr.same] at h
    rw [Expr.eq_of_sameList as _ h]
  | .caseWhen as, e, h => by
    cases e <;> simp [Expr.same] at h
    rw [Expr.eq_of_sameList as _ h]
  | .inList _ a as, e, h => by
    cases e <;> simp [Expr.same] at h
    rw [h.1.1, Expr.eq_of_same a _ h.1.2, Expr.eq_of_sameList as _ h.2]
  | .isNull a, e, h => by
    cases e <;> simp [Expr.same] at h
    rw [Expr.eq_of_same a _ h]
  | .isNotNull a, e, h => by
    cases e <;> simp [Expr.same] at h
    rw [Expr.eq_of_same a _ h]
  | .not a, e, h => by
    cases e <;> simp [Expr.same] at h
    rw [Expr.eq_of_same a _ h]
  | .exists_ a, e, h => by
    cases e <;> simp [Expr.same] at h
    rw [Expr.eq_of_same a _ h]
  | .call _ as, e, h => by
    cases e <;> simp [Expr.same] at h
    rw [h.1, Expr.eq_of_sameList as _ h.2]
  | .subquery m, e, h => by
    cases e <;> simp [Expr.same] at h
    rw [Clauses.eq_of_same m _ h]
termination_by structural a => a

theorem Expr.eq_of_sameList : ∀ as bs : List Expr, Expr.sameList as bs = true → as = bs
  | [], bs, h => by cases bs <;> simp_all [Expr.sameList]
  | a :: as, bs, h => by
    cases bs <;> simp [Expr.sameList] at h
    rw [Expr.eq_of_same a _ h.1, Expr.eq_of_sameList as _ h.2]
termination_by structural a => a

theorem Table.eq_of_same : ∀ a b : Table, a.same b = true → a = b
  | .named _ _, b, h => by cases b <;> simp_all [Table.same]
  | .derived m _, b, h => by
    cases b <;> simp [Table.same] at h
    rw [Clauses.eq_of_same m _ h.1, h.2]
termination_by structural a => a

theorem Join.eq_of_same : ∀ a b : Join, a.same b = true → a = b
  | .mk _ t on, .mk _ _ _, h => by
    simp [Join.same] at h
    rw [h.1.1, Table.eq_of_same t _ h.1.2, Expr.eq_of_same on _ h.2]
termination_by structural a => a

theorem Join.eq_of_sameList : ∀ as bs : List Join, Join.sameList as bs = true → as = bs
  | [], bs, h => by cases bs <;> simp_all [Join.sameList]
  | a :: as, bs, h => by
    cases bs <;> simp [Join.sameList] at h
    rw [Join.eq_of_same a _ h.1, Join.eq_of_sameList as _ h.2]
termination_by structural a => a

theorem OrderItem.eq_of_same : ∀ a b : OrderItem, a.same b = true → a = b
  | .mk e _ _, .mk _ _ _, h => by
    simp [OrderItem.same] at h
    rw [Expr.eq_of_same e _ h.1.1, h.1.2, h.2]
termination_by structural a => a

theorem OrderItem.eq_of_sameList :
    ∀ as bs : List OrderItem, OrderItem.sameList as bs = true → as = bs
  | [], bs, h => by cases bs <;> simp_all [OrderItem.sameList]
  | a :: as, bs, h => by
    cases bs <;> simp [OrderItem.sameList] at h
    rw [OrderItem.eq_of_same a _ h.1, OrderItem.eq_of_sameList as _ h.2]
termination_by structural a => a

theorem Clause.eq_of_same : ∀ {k : ClauseKind} (a b : Clause k), a.same b = true → a = b
  | _, .select as, .select bs, h => by rw [Expr.eq_of_sameList as bs h]
  | _, .selectDistinct os as, .selectDistinct ps bs, h => by
    simp [Clause.same] at h
    rw [Expr.eq_of_sameList os ps h.1, Expr.eq_of_sameList as bs h.2]
  | _, .insertInto a, .insertInto b, h => by rw [Table.eq_of_same a b h]
  | _, .update a, .update b, h => by rw [Table.eq_of_same a b h]
  | _, .columns _, .columns _, h => by simpa [Clause.same] using h
  | _, .values _, .values _, h => by simpa [Clause.same] using h
  | _, .onConflict _, .onConflict _, h => by simpa [Clause.same] using h
  | _, .doUpdate as, .doUpdate bs, h => by rw [Expr.eq_of_sameList as bs h]
  | _, .doNothing, .doNothing, _ => rfl
  | _, .set as, .set bs, h => by rw [Expr.eq_of_sameList as bs h]
  | _, .from_ a, .from_ b, h => by rw [Table.eq_of_same a b h]
  | _, .join as, .join bs, h => by rw [Join.eq_of_sameList as bs h]
  | _, .where_ a, .where_ b, h => by rw [Expr.eq_of_same a b h]
  | _, .groupBy as, .groupBy bs, h => by rw [Expr.eq_of_sameList as bs h]
  | _, .having a, .having b, h => by rw [Expr.eq_of_same a b h]
  | _, .orderBy as, .orderBy bs, h => by rw [OrderItem.eq_of_sameList as bs h]
  | _, .limit _, .limit _, h => by simpa [Clause.same] using h
  | _, .offset _, .offset _, h => by simpa [Clause.same] using h
  | _, .forUpdate, .forUpdate, _ => rfl
  | _, .returning as, .returning bs, h => by rw [Expr.eq_of_sameList as bs h]
termination_by structural _ a => a

theorem Clauses.eq_of_same :
    ∀ {ks : List ClauseKind} (a b : Clauses ks), a.same b = true → a = b
  | _, .nil, .nil, _ => rfl
  | _, .absent a, .absent b, h => by rw [Clauses.eq_of_same a b h]
  | _, .present c a, .present d b, h => by
    simp [Clauses.same] at h
    rw [Clause.eq_of_same c d h.1, Clauses.eq_of_same a b h.2]
  | _, .absent _, .present _ _, h => by simp [Clauses.same] at h
  | _, .present _ _, .absent _, h => by simp [Clauses.same] at h
termination_by structural _ a => a

end

mutual

theorem Expr.same_refl : ∀ a : Expr, a.same a = true
  | .value _ => by simp [Expr.same]
  | .binary _ a b => by simp [Expr.same, Expr.same_refl a, Expr.same_refl b]
  | .and as => by simp [Expr.same, Expr.sameList_refl as]
  | .or as => by simp [Expr.same, Expr.sameList_refl as]
  | .caseWhen as => by simp [Expr.same, Expr.sameList_refl as]
  | .inList _ a as => by simp [Expr.same, Expr.same_refl a, Expr.sameList_refl as]
  | .isNull a => by simp [Expr.same, Expr.same_refl a]
  | .isNotNull a => by simp [Expr.same, Expr.same_refl a]
  | .not a => by simp [Expr.same, Expr.same_refl a]
  | .exists_ a => by simp [Expr.same, Expr.same_refl a]
  | .call _ as => by simp [Expr.same, Expr.sameList_refl as]
  | .subquery m => by simp [Expr.same, Clauses.same_refl m]

theorem Expr.sameList_refl : ∀ as : List Expr, Expr.sameList as as = true
  | [] => rfl
  | a :: as => by simp [Expr.sameList, Expr.same_refl a, Expr.sameList_refl as]

theorem Table.same_refl : ∀ a : Table, a.same a = true
  | .named _ _ => by simp [Table.same]
  | .derived m _ => by simp [Table.same, Clauses.same_refl m]

theorem Join.same_refl : ∀ a : Join, a.same a = true
  | .mk _ t on => by simp [Join.same, Table.same_refl t, Expr.same_refl on]

theorem Join.sameList_refl : ∀ as : List Join, Join.sameList as as = true
  | [] => rfl
  | a :: as => by simp [Join.sameList, Join.same_refl a, Join.sameList_refl as]

theorem OrderItem.same_refl : ∀ a : OrderItem, a.same a = true
  | .mk e _ _ => by simp [OrderItem.same, Expr.same_refl e]

theorem OrderItem.sameList_refl : ∀ as : List OrderItem, OrderItem.sameList as as = true
  | [] => rfl
  | a :: as => by simp [OrderItem.sameList, OrderItem.same_refl a, OrderItem.sameList_refl as]

theorem Clause.same_refl : ∀ {k : ClauseKind} (c : Clause k), c.same c = true
  | _, .select as => Expr.sameList_refl as
  | _, .selectDistinct os as => by simp [Clause.same, Expr.sameList_refl os, Expr.sameList_refl as]
  | _, .insertInto t => Table.same_refl t
  | _, .update t => Table.same_refl t
  | _, .columns _ => by simp [Clause.same]
  | _, .values _ => by simp [Clause.same]
  | _, .onConflict _ => by simp [Clause.same]
  | _, .doUpdate as => Expr.sameList_refl as
  | _, .doNothing => rfl
  | _, .set as => Expr.sameList_refl as
  | _, .from_ t => Table.same_refl t
  | _, .join as => Join.sameList_refl as
  | _, .where_ a => Expr.same_refl a
  | _, .groupBy as => Expr.sameList_refl as
  | _, .having a => Expr.same_refl a
  | _, .orderBy as => OrderItem.sameList_refl as
  | _, .limit _ => by simp [Clause.same]
  | _, .offset _ => by simp [Clause.same]
  | _, .forUpdate => rfl
  | _, .returning as => Expr.sameList_refl as

theorem Clauses.same_refl : ∀ {ks : List ClauseKind} (m : Clauses ks), m.same m = true
  | _, .nil => rfl
  | _, .absent rest => by simp [Clauses.same, Clauses.same_refl rest]
  | _, .present c rest => by simp [Clauses.same, Clause.same_refl c, Clauses.same_refl rest]

end

instance : DecidableEq Expr := fun a b =>
  if h : a.same b = true then isTrue (Expr.eq_of_same a b h)
  else isFalse fun e => h (e ▸ Expr.same_refl a)

instance {ks : List ClauseKind} : DecidableEq (Clauses ks) := fun a b =>
  if h : a.same b = true then isTrue (Clauses.eq_of_same a b h)
  else isFalse fun e => h (e ▸ Clauses.same_refl a)

end Clausal
