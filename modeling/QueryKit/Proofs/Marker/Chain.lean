import QueryKit.Proofs.Marker.Statement

/-!
# Builder chains keep their statement's markers and slots together

A builder binds every value of a chain into one set of numbered slots, and writes the markers of
those slots into its joins' `ON` lists and its `WHERE` list. Calls run in any order — a join's
values may be bound between two `WHERE` values — so the markers appear in the statement in an
order of their own, but each slot appears once. This module states that as an invariant of the
builder and proves that every call keeps it:

* `Call.noRaw d` says a call passes names and bound values only: no raw SQL, a plain join kind,
  and no MySQL conflict text that reads as the dialect's own `VALUES(` reference;
* `Builder.Carries d b` is the invariant: the slots are `v1, v2, …` in order, every name the
  statement writes is quoted or plain, and unless a call was refused, the joins and the `WHERE`
  list are read as the slots in some order;
* `Builder.Carries.apply` is the step (one case per call) and `Builder.carries_applyAll` the run.
-/

namespace QueryKit.Sql

/-- **A conflict value bound or written without markers**: no raw SQL, and for MySQL no text that
starts like the `VALUES(` reference the dialect writes itself. -/
def ConflictValue.noRaw (d : Dialect) : ConflictValue → Bool
  | .inferred => true
  | .given (.text s) => !(d.upsert == .duplicateKey && s.startsWith "VALUES(")
  | .given v => v.noRaw

end QueryKit.Sql

namespace QueryKit.Query

open Sql

/-! ## Calls that bind only values -/

/-- **A builder call whose arguments are names and bound values.** -/
def Call.noRaw (d : Dialect) : Call → Bool
  | .table t => t.noRaw
  | .select cols => cols.all Value.noRaw
  | .orderBy c _ => c.noRaw
  | .join k t a _ b => k.toList.all isPlain && t.noRaw && a.noRaw && b.noRaw
  | .joinWith k t calls => k.toList.all isPlain && t.noRaw && calls.all Cond.allNoRaw
  | .joinOfType _ t calls => t.noRaw && calls.all Cond.allNoRaw
  | .onConflictDoUpdate _ assignments => assignments.all (fun a => a.2.noRaw d)
  | .cond c => c.noRaw
  | .distinct | .limit _ | .offset _ | .force | .onConflictDoNothing _ => true

/-! ## Names the builder writes -/

theorem Term.quiet_of_ofValue {v : Value} {t : Term} (hv : v.noRaw = true)
    (h : Term.ofValue v = .ok t) : t.quiet = true := by
  simp [Term.quiet, Term.raw_of_ofValue (Value.rawSql_of_noRaw hv) h]

theorem Term.quiet_of_allOfValues : ∀ {vs : List Value} {ts : List Term},
    (∀ v ∈ vs, v.noRaw = true) → Term.allOfValues vs = .ok ts → ∀ t ∈ ts, t.quiet = true
  | [], ts, _, h => by
    cases h
    simp
  | v :: rest, ts, hvs, h => by
    obtain ⟨t, ht, h⟩ := exists_of_bind_eq_ok h
    obtain ⟨more, hmore, h⟩ := exists_of_bind_eq_ok h
    cases h
    intro x hx
    rcases List.mem_cons.mp hx with rfl | hx
    · exact Term.quiet_of_ofValue (hvs v (List.mem_cons_self ..)) ht
    · exact Term.quiet_of_allOfValues (fun w hw => hvs w (List.mem_cons_of_mem _ hw)) hmore x hx

theorem plain_of_parseDirection {s w : String} (h : parseDirection s = .ok w) :
    ∀ x ∈ w.toList, isPlain x = true := by
  unfold parseDirection at h
  dsimp only at h
  split at h
  · rename_i hmem
    cases h
    simp only [List.contains_iff_mem, List.mem_cons, List.not_mem_nil, or_false] at hmem
    rcases hmem with hw | hw <;> rw [hw] <;> decide
  · cases h

theorem plain_of_parseJoinKind {s w : String} (h : parseJoinKind s = .ok w) :
    ∀ x ∈ w.toList, isPlain x = true := by
  unfold parseJoinKind at h
  dsimp only at h
  split at h
  · rename_i hmem
    cases h
    simp only [List.contains_iff_mem, List.mem_cons, List.not_mem_nil, or_false] at hmem
    rcases hmem with hw | hw | hw | hw <;> rw [hw] <;> decide
  · cases h

namespace Builder

/-! ## The invariant -/

/-- **A builder whose statement carries exactly its slots.** The bindings are the slots from one
on; every name the statement writes is quoted or plain; and unless a call was refused, the
joins' lists and the `WHERE` list are read as the slots, in some order. -/
structure Carries (d : Dialect) (b : Builder) : Prop where
  dialect : b.dialect = d
  slots : Bindings.Grown Bindings.empty b.bindings
  table : b.table.quiet = true
  columns : ∀ t ∈ b.columns, t.quiet = true
  orderBy : ∀ o ∈ b.orderBy, o.column.quiet = true ∧ ∀ x ∈ o.direction.toList, isPlain x = true
  conflict : ∀ plan ∈ b.conflict, ∀ a ∈ plan.assignments, a.2.noRaw d = true
  marks : ∃ nj nw, ReadsEach (b.joins.map (fun j => (d.join j).toList)) nj ∧
    EntriesRead d b.scope.clause.entries nw ∧
    (b.fault = none → (nj ++ nw).Perm (slotRange 1 b.bindings.next))

variable {d : Dialect} {b : Builder}

theorem Carries.one_le (h : Carries d b) : 1 ≤ b.bindings.next := h.slots.1

theorem carries_new (d : Dialect) (logging : Bool) : Carries d (Builder.new d logging) where
  dialect := rfl
  slots := Bindings.Grown.refl _
  table := rfl
  columns := by simp [Builder.new]
  orderBy := by simp [Builder.new]
  conflict := by simp [Builder.new]
  marks := ⟨[], [], .nil, .nil, fun _ => by simp [Builder.new, Builder.bindings]⟩

/-- A refused call keeps the invariant, even after binding values it never writes: the fault it
records waives the slots. -/
theorem Carries.fail_after (h : Carries d b) {bs : Bindings} (hbs : Bindings.Grown b.bindings bs)
    (f : Fault) : Carries d ({ b with scope := { b.scope with bindings := bs } }.fail f) := by
  obtain ⟨nj, nw, hj, hw, -⟩ := h.marks
  have hslots : Bindings.Grown Bindings.empty bs := h.slots.trans hbs
  unfold Builder.fail
  split
  · rename_i hsome
    refine { h with slots := hslots, marks := ⟨nj, nw, hj, hw, fun hnone => ?_⟩ }
    simp_all
  · exact { h with slots := hslots, marks := ⟨nj, nw, hj, hw, fun hnone => by cases hnone⟩ }

theorem Carries.fail (h : Carries d b) (f : Fault) : Carries d (b.fail f) :=
  h.fail_after (Bindings.Grown.refl _) f

/-! ## One call -/

theorem Carries.setTable (h : Carries d b) {t : Value} (ht : t.noRaw = true) :
    Carries d (b.setTable t) := by
  unfold Builder.setTable
  split
  · rename_i t' hok
    exact { h with table := Term.quiet_of_ofValue ht hok }
  · exact h.fail _

theorem Carries.select (h : Carries d b) {cols : List Value} (hcols : ∀ v ∈ cols, v.noRaw = true) :
    Carries d (b.select cols) := by
  unfold Builder.select
  split
  · rename_i ts hok
    exact { h with columns := Term.quiet_of_allOfValues hcols hok }
  · exact h.fail _

theorem Carries.order (h : Carries d b) {column : Value} {direction : String}
    (hc : column.noRaw = true) : Carries d (b.order column direction) := by
  unfold Builder.order
  split
  · exact h.fail _
  · rename_i dir hdir
    split
    · exact h.fail _
    · rename_i t hok
      refine { h with orderBy := ?_ }
      intro o ho
      rcases List.mem_append.mp ho with ho | ho
      · exact h.orderBy o ho
      · rw [List.mem_singleton.mp ho]
        exact ⟨Term.quiet_of_ofValue hc hok, plain_of_parseDirection hdir⟩

/-- **A join** keeps the invariant: when it is added its `ON` list is read as the slots its calls
bound, which come after the old ones, and when it is refused the builder keeps a fault. -/
theorem Carries.joinWith (hq : isQuoteChar d.quote = true) (h : Carries d b) {kind : String}
    {table : Value} {f : Scope → Scope} (hk : ∀ x ∈ kind.toList, isPlain x = true)
    (ht : table.noRaw = true)
    (hf : Scope.Grows d { bindings := b.bindings } (f { bindings := b.bindings })) :
    Carries d (b.joinWith kind table (some f)) := by
  unfold Builder.joinWith
  dsimp only
  generalize hsub : f { bindings := b.bindings } = sub at hf ⊢
  obtain ⟨hgrown, added, hentries, hread⟩ := hf
  split
  · exact h.fail_after hgrown _
  · split
    · exact h.fail_after hgrown _
    · rename_i t htable
      split
      · exact h.fail_after hgrown _
      · obtain ⟨nj, nw, hj, hw, hperm⟩ := h.marks
        have hon : EntriesRead d sub.clause.entries (slotRange b.bindings.next sub.bindings.next) := by
          simpa [hentries] using hread
        have hjoin := reads_join hq (j := ⟨kind, t, sub.clause⟩) hk
          (Term.quiet_of_ofValue ht htable) hon
        refine { h with slots := h.slots.trans hgrown, marks := ?_ }
        refine ⟨nj ++ (slotRange b.bindings.next sub.bindings.next ++ []), nw, ?_, hw, ?_⟩
        · simpa using hj.append (ReadsEach.cons hjoin .nil)
        · intro hnone
          have hstart : 1 ≤ b.bindings.next := h.one_le
          have hswap : (slotRange b.bindings.next sub.bindings.next ++ nw).Perm
              (nw ++ slotRange b.bindings.next sub.bindings.next) := List.perm_append_comm
          have hall : ((nj ++ nw) ++ slotRange b.bindings.next sub.bindings.next).Perm
              (slotRange 1 sub.bindings.next) := by
            rw [← slotRange_append hstart hgrown.1]
            exact (hperm hnone).append_right _
          simpa [Builder.bindings] using (hswap.append_left nj).trans (by simpa using hall)

theorem Carries.joinScope (hq : isQuoteChar d.quote = true) (h : Carries d b) {kind : String}
    {table : Value} {calls : Option (List Cond)} (hk : ∀ x ∈ kind.toList, isPlain x = true)
    (ht : table.noRaw = true) (hcalls : calls.all Cond.allNoRaw = true) :
    Carries d (b.joinWith kind table (Call.joinScope calls)) := by
  cases calls with
  | none =>
    simp only [Call.joinScope, Builder.joinWith]
    exact h.fail _
  | some calls =>
    have hgrows := (Scope.grows_apply hq "join").2 { bindings := b.bindings } calls
      (by simpa using hcalls) h.one_le
    exact h.joinWith hq hk ht hgrows

/-- **A condition on the `WHERE`** appends entries read as the slots it bound, after all the
others. -/
theorem Carries.onWhere (hq : isQuoteChar d.quote = true) (h : Carries d b) {c : Cond}
    (hc : c.noRaw = true) : Carries d (b.onWhere (fun s => c.apply "where" s)) := by
  obtain ⟨hgrown, added, hentries, hread⟩ := (Scope.grows_apply hq "where").1 b.scope c hc h.one_le
  obtain ⟨nj, nw, hj, hw, hperm⟩ := h.marks
  refine { h with slots := h.slots.trans hgrown, marks := ?_ }
  refine ⟨nj, nw ++ slotRange b.bindings.next (c.apply "where" b.scope).bindings.next, hj, ?_, ?_⟩
  · simpa [Builder.onWhere, Builder.bindings, hentries] using hw.append hread
  · intro hnone
    have hall := (hperm hnone).append_right
      (slotRange b.bindings.next (c.apply "where" b.scope).bindings.next)
    rw [slotRange_append h.one_le hgrown.1] at hall
    simpa [Builder.onWhere, Builder.bindings] using hall

/-- **Every call keeps the invariant**, refused or not: one case per call. A join on one
comparison is the join whose calls make that comparison. -/
theorem Carries.apply (hq : isQuoteChar d.quote = true) (h : Carries d b) {c : Call}
    (hc : c.noRaw d = true) : Carries d (c.apply b) := by
  cases c with
  | table t => exact h.setTable hc
  | select cols => exact h.select (by simpa [Call.noRaw] using hc)
  | distinct => exact { h with }
  | orderBy column direction => exact h.order hc
  | limit n =>
    simp only [Call.apply, Builder.setLimit]
    split
    · exact h.fail _
    · exact { h with }
  | offset n =>
    simp only [Call.apply, Builder.setOffset]
    split
    · exact h.fail _
    · exact { h with }
  | force => exact { h with }
  | join kind table first op second =>
    simp only [Call.noRaw, Bool.and_eq_true, List.all_eq_true] at hc
    obtain ⟨⟨⟨hk, ht⟩, ha⟩, hb⟩ := hc
    have hgrows := (Scope.grows_apply hq "join").1 { bindings := b.bindings }
      (.columns .and first op second) (by simp [Cond.noRaw, ha, hb]) h.one_le
    exact h.joinWith hq (f := fun s => s.columns .and first op second) hk ht hgrows
  | joinWith kind table calls =>
    simp only [Call.noRaw, Bool.and_eq_true, List.all_eq_true] at hc
    exact h.joinScope hq hc.1.1 hc.1.2 hc.2
  | joinOfType kind table calls =>
    simp only [Call.noRaw, Bool.and_eq_true] at hc
    simp only [Call.apply, Builder.joinOfType]
    split
    · exact h.fail _
    · rename_i k hkind
      exact h.joinScope hq (plain_of_parseJoinKind hkind) hc.1 hc.2
  | onConflictDoNothing cols =>
    simp only [Call.apply, Builder.onConflictDoNothing]
    split
    · exact h.fail _
    · exact { h with conflict := by simp }
  | onConflictDoUpdate cols assignments =>
    simp only [Call.noRaw, List.all_eq_true] at hc
    simp only [Call.apply, Builder.onConflictDoUpdate]
    split
    · exact h.fail _
    · exact { h with conflict := by simpa using hc }
  | cond c => exact h.onWhere hq hc

/-- **Every chain of calls keeps the invariant**, from any builder that has it. -/
theorem carries_applyAll (hq : isQuoteChar d.quote = true) :
    ∀ (calls : List Call) {b : Builder}, Carries d b → (∀ c ∈ calls, c.noRaw d = true) →
      Carries d (Call.applyAll b calls)
  | [], _, h, _ => h
  | c :: rest, b, h, hcalls => by
    have hc := h.apply hq (hcalls c (List.mem_cons_self ..))
    exact carries_applyAll hq rest hc (fun x hx => hcalls x (List.mem_cons_of_mem _ hx))

end Builder
end QueryKit.Query
