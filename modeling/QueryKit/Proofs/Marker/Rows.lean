import QueryKit.Proofs.Marker.Chain
import QueryKit.Query.Run

/-!
# Values bound by inserts, updates and conflict clauses

An update binds the values it sets, an insert binds every cell of every row, and a conflict
clause binds the values it assigns; each is bound after the conditions, into the same numbered
slots. Each written part is read as exactly the slots it bound:

* a row's cells and an update's values are members of what the caller passed (`mem_mapMembers`,
  `Row.get_noRaw`), so no raw SQL reaches them;
* `Builder.bindSets_reads`, `Builder.bindRows_reads`, `Builder.conflictSets_reads`: the parts
  are read as the slots from the first slot they bound up to the next free one.
-/

namespace QueryKit

/-! ## Members of rows -/

theorem mem_insertByKey {α : Type} {k : String} {v : α} {p : String × α} :
    ∀ {l : List (String × α)}, p ∈ insertByKey k v l → p = (k, v) ∨ p ∈ l
  | [], h => by simpa [insertByKey] using h
  | (k', v') :: rest, h => by
    unfold insertByKey at h
    split at h
    · simpa using h
    · rcases List.mem_cons.mp h with h | h
      · exact Or.inr (h ▸ List.mem_cons_self ..)
      · rcases mem_insertByKey h with h | h
        · exact Or.inl h
        · exact Or.inr (List.mem_cons_of_mem _ h)

theorem mem_sortByKey {α : Type} {p : String × α} :
    ∀ {l : List (String × α)}, p ∈ sortByKey l → p ∈ l
  | [], h => by simp [sortByKey] at h
  | (k, v) :: rest, h => by
    have hins : p ∈ insertByKey k v (sortByKey rest) := h
    rcases mem_insertByKey hins with h | h
    · exact h ▸ List.mem_cons_self ..
    · exact List.mem_cons_of_mem _ (mem_sortByKey h)

/-- A fold whose every step adds its item to what it keeps holds only items and kept ones. -/
theorem mem_foldl_of_step {β : Type} {f : List β → β → List β}
    (hf : ∀ acc x p, p ∈ f acc x → p = x ∨ p ∈ acc) :
    ∀ (l acc : List β) (p : β), p ∈ l.foldl f acc → p ∈ acc ∨ p ∈ l
  | [], _, _, h => Or.inl h
  | x :: rest, acc, p, h => by
    rcases mem_foldl_of_step hf rest (f acc x) p h with h | h
    · rcases hf acc x p h with rfl | h
      · exact Or.inr (List.mem_cons_self ..)
      · exact Or.inl h
    · exact Or.inr (List.mem_cons_of_mem _ h)

/-- **A member of the map view** of a list of members is one of them: each step of the fold keeps
the new member and some of the earlier ones. -/
theorem mem_mapMembers {α : Type} {members : List (String × α)} {p : String × α}
    (h : p ∈ mapMembers members) : p ∈ members := by
  unfold mapMembers at h
  have hlast := List.mem_reverse.mp (mem_sortByKey h)
  refine (mem_foldl_of_step ?_ members [] p hlast).resolve_left (by simp)
  rintro acc ⟨k, v⟩ q hq
  rcases List.mem_cons.mp hq with rfl | hq
  · exact Or.inl rfl
  · exact Or.inr (List.mem_of_mem_filter hq)

theorem lookup_mem {α : Type} {c : String} {v : α} :
    ∀ {l : List (String × α)}, l.lookup c = some v → (c, v) ∈ l
  | [], h => by simp [List.lookup_nil] at h
  | (k, w) :: rest, h => by
    rw [List.lookup_cons] at h
    split at h
    · rename_i hk
      have hck : c = k := by simpa using hk
      cases h
      rw [hck]
      exact List.mem_cons_self ..
    · exact List.mem_cons_of_mem _ (lookup_mem h)

end QueryKit

namespace QueryKit.Query

open Sql

/-- **A cell of a row** is one of the row's values, or no value. -/
theorem Row.get_noRaw {r : Row} (hr : ∀ p ∈ r, p.2.noRaw = true) (c : String) :
    (r.get c).noRaw = true := by
  unfold Row.get
  cases hl : (mapMembers r).lookup c with
  | none => rfl
  | some v =>
    simpa using hr (c, v) (mem_mapMembers (lookup_mem hl))

namespace Builder

variable {d : Dialect}

/-! ## Update sets -/

/-- **The sets of an update** are read as the slots they bound, in order. -/
theorem bindSets_reads (hq : isQuoteChar d.quote = true) :
    ∀ (sets : List (String × Value)) (bs : Bindings), (∀ p ∈ sets, p.2.noRaw = true) →
      1 ≤ bs.next →
      Bindings.Grown bs (bindSets bs sets).2 ∧
        ReadsEach ((bindSets bs sets).1.map
          (fun a => (d.term a.column ++ " = " ++ d.term a.value).toList))
          (slotRange bs.next (bindSets bs sets).2.next)
  | [], bs, _, _ => ⟨Bindings.Grown.refl bs, by simpa [bindSets] using ReadsEach.nil⟩
  | (c, v) :: rest, bs, hv, hb => by
    obtain ⟨hg₁, hr₁⟩ := Scope.rightReads_addTerm (d := d)
      (Value.rawSql_of_noRaw (hv (c, v) (List.mem_cons_self ..))) hb
    rcases ht : bs.addTerm v with ⟨t, bs₁⟩
    rw [ht] at hg₁ hr₁
    obtain ⟨hg₂, hr₂⟩ := bindSets_reads hq rest bs₁ (fun p hp => hv p (List.mem_cons_of_mem _ hp))
      (Nat.le_trans hb hg₁.1)
    simp only [bindSets, ht]
    refine ⟨hg₁.trans hg₂, ?_⟩
    rw [← slotRange_append hg₁.1 hg₂.1]
    exact ReadsEach.cons (reads_assignment hq rfl hr₁) hr₂

/-! ## Insert rows -/

/-- Binding a row's cells in column order binds them as a list of values is bound. -/
theorem foldl_addTerm_eq (r : Row) : ∀ (columns : List String) (acc : List Term) (bs : Bindings),
    columns.foldl (fun x c => (x.1 ++ [(x.2.addTerm (r.get c)).1], (x.2.addTerm (r.get c)).2))
        (acc, bs) =
      (acc ++ (Scope.addAll bs (columns.map r.get)).1.map Term.sql,
        (Scope.addAll bs (columns.map r.get)).2)
  | [], acc, bs => by simp [Scope.addAll]
  | c :: rest, acc, bs => by
    rw [List.foldl_cons, foldl_addTerm_eq r rest]
    simp [Scope.addAll, Bindings.addTerm, List.append_assoc]

/-- **The rows of an insert** are read as the slots their cells bound, row by row: a row's cells
get the next slots, one marker each. -/
theorem bindRows_reads (columns : List String) :
    ∀ (rows : List Row) (bs : Bindings), (∀ r ∈ rows, ∀ p ∈ r, p.2.noRaw = true) → 1 ≤ bs.next →
      Bindings.Grown bs (bindRows columns bs rows).2 ∧
        ReadsEach ((bindRows columns bs rows).1.map (fun ts => (parenthesize (d.terms ts)).toList))
          (slotRange bs.next (bindRows columns bs rows).2.next)
  | [], bs, _, _ => ⟨Bindings.Grown.refl bs, by simpa [bindRows] using ReadsEach.nil⟩
  | r :: rest, bs, hrows, hb => by
    have hcells : ∀ v ∈ columns.map r.get, v.rawSql? = none := by
      simp only [List.mem_map]
      rintro _ ⟨c, _, rfl⟩
      exact Value.rawSql_of_noRaw (Row.get_noRaw (hrows r (List.mem_cons_self ..)) c)
    obtain ⟨hms, hnext, hg₁⟩ := Scope.addAll_of_rawSql_none _ hcells bs hb
    have hrow : Reads (parenthesize (d.terms ((Scope.addAll bs (columns.map r.get)).1.map
        Term.sql))).toList (slotRange bs.next (Scope.addAll bs (columns.map r.get)).2.next)
        isBreak := by
      rw [hms, hnext]
      refine reads_parenthesize (reads_terms ?_)
      simpa [Function.comp_def, Dialect.term, Term.sql] using
        readsEach_markers bs.next (columns.map r.get).length
    obtain ⟨hg₂, hr₂⟩ := bindRows_reads columns rest (Scope.addAll bs (columns.map r.get)).2
      (fun x hx => hrows x (List.mem_cons_of_mem _ hx)) (Nat.le_trans hb hg₁.1)
    simp only [bindRows, foldl_addTerm_eq, List.nil_append, List.map_cons]
    refine ⟨hg₁.trans hg₂, ?_⟩
    rw [← slotRange_append hg₁.1 hg₂.1]
    exact ReadsEach.cons hrow hr₂

/-! ## Conflict assignments -/

@[simp] theorem conflictSets_nil (d : Dialect) (bs : Bindings) : conflictSets d bs [] = (.ok [], bs) :=
  rfl

section Assignment

variable {bs : Bindings} {col : String} {v : ConflictValue} {rest : List (String × ConflictValue)}

/-- **An assignment without a column** is refused, with the bindings made before it. -/
theorem conflictSets_blank (hcol : col.isEmpty = true) :
    conflictSets d bs ((col, v) :: rest) =
      (.error (Fault.invalid "onConflict" "assignment without a column"), bs) := by
  rw [conflictSets, if_pos hcol]

/-- **An assignment with a column** binds its value, and the rest is written from the bindings
after it. -/
theorem conflictSets_named (hcol : col.isEmpty = false) :
    conflictSets d bs ((col, v) :: rest) =
      ((conflictSets d (d.conflictValue col v bs).2 rest).1.map
          (⟨Term.name col, (d.conflictValue col v bs).1⟩ :: ·),
        (conflictSets d (d.conflictValue col v bs).2 rest).2) := by
  rw [conflictSets, if_neg (by simp [hcol])]

end Assignment


theorem ConflictValue.rawSql_of_noRaw {v : Value} (h : (ConflictValue.given v).noRaw d = true) :
    v.rawSql? = none := by
  cases v with
  | text s => rfl
  | _ => exact Value.rawSql_of_noRaw (by simpa [ConflictValue.noRaw] using h)

theorem rightReads_silent {text : String} (h : Reads text.toList [] isBreak) (bs : Bindings) :
    Scope.RightReads d bs (Term.sql text, bs) :=
  ⟨Bindings.Grown.refl bs, by simpa [Dialect.term, Term.sql] using h⟩

/-- **A conflict value** is written as its slot, or as a reference to a quoted column: `VALUES(`
column `)` in a clause written `ON DUPLICATE KEY` unless the value is raw SQL or a text that starts
so, and `EXCLUDED.` column in one written `ON CONFLICT` for an inferred value or an `EXCLUDED.`
text, the value bound otherwise. -/
theorem conflictValue_reads (hq : isQuoteChar d.quote = true) (column : String)
    {v : ConflictValue} (hv : v.noRaw d = true) {bs : Bindings} (hb : 1 ≤ bs.next) :
    Scope.RightReads d bs (d.conflictValue column v bs) := by
  have hprefixed : ∀ (lead name : String), (∀ x ∈ lead.toList, isPlain x = true) →
      Reads (lead ++ d.quoteName name).toList [] isBreak := by
    intro lead name hlead
    simpa [Dialect.quoteName] using Reads.after_plain hlead (reads_quoteName hq name)
  have hvalues : Reads ("VALUES(" ++ d.quoteName column ++ ")").toList [] isBreak := by
    simpa using (hprefixed "VALUES(" column (by decide)).then_plain (b := ")") (by decide)
      (show isBreak ')' = true by decide)
  unfold Dialect.conflictValue
  split
  · split
    · simp [ConflictValue.noRaw, Value.noRaw, Value.rawSql?] at hv
    · split
      · rename_i hupsert _ s hstart
        simp only [ConflictValue.noRaw, hupsert, hstart, Bool.and_true, Bool.not_eq_true'] at hv
        exact absurd hv (by decide)
      · exact rightReads_silent hvalues bs
    · exact rightReads_silent hvalues bs
  · split
    · exact rightReads_silent (hprefixed "EXCLUDED." column (by decide)) bs
    · simp [ConflictValue.noRaw, Value.noRaw, Value.rawSql?] at hv
    · split
      · exact rightReads_silent (hprefixed "EXCLUDED." _ (by decide)) bs
      · exact Scope.rightReads_addTerm rfl hb
    · exact Scope.rightReads_addTerm (ConflictValue.rawSql_of_noRaw hv) hb

/-- **The assignments of a conflict clause** are read as the slots they bound, in order. -/
theorem conflictSets_reads (hq : isQuoteChar d.quote = true) :
    ∀ (assignments : List (String × ConflictValue)) (bs : Bindings) {sets : List Assignment},
      (∀ a ∈ assignments, a.2.noRaw d = true) → 1 ≤ bs.next →
      (conflictSets d bs assignments).1 = .ok sets →
      Bindings.Grown bs (conflictSets d bs assignments).2 ∧
        ReadsEach (sets.map (fun a => (d.term a.column ++ " = " ++ d.term a.value).toList))
          (slotRange bs.next (conflictSets d bs assignments).2.next)
  | [], bs, sets, _, _, h => by
    obtain rfl : [] = sets := Except.ok.inj h
    exact ⟨Bindings.Grown.refl bs, by simpa using ReadsEach.nil⟩
  | (c, v) :: rest, bs, sets, hv, hb, h => by
    cases hc : c.isEmpty
    · rw [conflictSets_named hc] at h ⊢
      obtain ⟨more, hmore, rfl⟩ := exists_of_map_eq_ok h
      obtain ⟨hg₁, hr₁⟩ := conflictValue_reads hq c (hv (c, v) List.mem_cons_self) hb
      obtain ⟨hg₂, hr₂⟩ := conflictSets_reads hq rest _ (fun a ha => hv a (List.mem_cons_of_mem _ ha))
        (Nat.le_trans hb hg₁.1) hmore
      refine ⟨hg₁.trans hg₂, ?_⟩
      rw [← slotRange_append hg₁.1 hg₂.1]
      exact ReadsEach.cons (reads_assignment hq rfl hr₁) hr₂
    · rw [conflictSets_blank hc] at h
      cases h

/-- **The conflict clause of an insert** names its targets, binds its assignments after the rows,
and is read as the slots it bound; with nothing to update it binds none. The assignments are the
plan's own, or else every column that is not a target taking its inserted value, which binds
nothing. -/
theorem onConflict_reads (hq : isQuoteChar d.quote = true) {b b' : Builder} {plan : ConflictPlan}
    {columns : List String} {oc : OnConflict} (hd : b.dialect = d)
    (hplan : ∀ a ∈ plan.assignments, a.2.noRaw d = true) (hb : 1 ≤ b.bindings.next)
    (h : b.onConflict plan columns = (.ok oc, b')) :
    b'.dialect = b.dialect ∧ b'.table = b.table ∧ (∀ t ∈ oc.targets, t.quiet = true) ∧
      Bindings.Grown b.bindings b'.bindings ∧
      ReadsEach (oc.sets.map (fun a => (d.term a.column ++ " = " ++ d.term a.value).toList))
        (slotRange b.bindings.next b'.bindings.next) ∧
      (oc.action = .doNothing → slotRange b.bindings.next b'.bindings.next = []) := by
  have htargets : ∀ t ∈ plan.targets.map Term.name, t.quiet = true := by
    simp [Term.quiet, Term.name]
  unfold Builder.onConflict at h
  extract_lets oc₀ assignments at h
  simp only [oc₀] at h
  split at h
  · cases h
    exact ⟨rfl, rfl, htargets, Bindings.Grown.refl _, by simpa using ReadsEach.nil, fun _ => by simp⟩
  · rename_i haction
    split at h
    · cases h
      exact ⟨rfl, rfl, htargets, Bindings.Grown.refl _, by simpa using ReadsEach.nil, fun _ => by simp⟩
    · have hassign : ∀ a ∈ assignments, a.2.noRaw d = true := by
        simp only [assignments]
        split
        · intro a ha
          simp only [List.mem_map, List.mem_filter] at ha
          obtain ⟨c, _, rfl⟩ := ha
          rfl
        · exact hplan
      obtain ⟨hmap, rfl⟩ := Prod.mk.inj h
      obtain ⟨sets, hsets, rfl⟩ := exists_of_map_eq_ok hmap
      rw [hd] at hsets ⊢
      obtain ⟨hg, hr⟩ := conflictSets_reads hq _ _ hassign hb hsets
      refine ⟨rfl, rfl, htargets, hg, hr, fun hnothing => ?_⟩
      rw [haction] at hnothing
      cases hnothing

end Builder
end QueryKit.Query
