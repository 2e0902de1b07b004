import QueryKit.Proofs.Marker.Rows
import QueryKit.Proofs.Marker.Bind

/-!
# Every statement a builder chain writes binds exactly its slots

The statements a builder writes — a select or its count, a page and the count beside it, an
update, a delete, an insert — carry markers of the builder's numbered slots, and readying them
for a dialect looks each marker up in the bindings. For a chain of calls that pass names and
bound values only:

* a select, a page, an update and a delete carry every slot of the bindings, each once, in an
  order of their own (joins first, then the `WHERE` list, an update's values before both);
* an insert carries exactly the slots it bound for its rows and its conflict assignments;
* readying any of them never fails, and passes for each marker the value bound in its slot
  (`BindsSlots`, `chain_statements_bind_slots`).
-/

namespace QueryKit.Sql

namespace Bindings

theorem lookup_isSome {bs : Bindings} {n : String} (h : n ∈ bs.entries.map (·.name)) :
    (bs.lookup n).isSome = true := by
  obtain ⟨e, he, rfl⟩ := List.mem_map.mp h
  have hfound : (bs.entries.reverse.find? (·.name == e.name)).isSome = true :=
    List.find?_isSome.mpr ⟨e, List.mem_reverse.mpr he, by simp⟩
  simpa [lookup] using hfound

/-- **What a lookup finds is bound**: the name and the value are an entry of the bindings. -/
theorem mem_of_lookup {bs : Bindings} {n : String} {v : Value} (h : bs.lookup n = some v) :
    (⟨n, v⟩ : Binding) ∈ bs.entries := by
  unfold lookup at h
  obtain ⟨e, hfind, rfl⟩ := Option.map_eq_some_iff.mp h
  have hname : e.name = n := by simpa using List.find?_some hfind
  have he : e ∈ bs.entries := List.mem_reverse.mp (List.mem_of_find?_eq_some hfind)
  rw [← hname]
  exact he

/-- Bindings grown from none are the slots from one on. -/
theorem names_of_grown {bs : Bindings} (h : Grown Bindings.empty bs) :
    bs.entries.map (·.name) = slotRange 1 bs.next := by
  obtain ⟨_, added, hentries, hnames⟩ := h
  rw [hentries, List.map_append, hnames]
  rfl

/-- Bindings grown from none hold every slot below their next. -/
theorem bound_of_grown {bs : Bindings} (h : Grown Bindings.empty bs) {a : Nat} (ha : 1 ≤ a) :
    ∀ n ∈ slotRange a bs.next, n ∈ bs.entries.map (·.name) := by
  intro n hn
  rw [names_of_grown h]
  simp only [slotRange, List.mem_map, List.mem_range'_1] at hn ⊢
  obtain ⟨i, hi, rfl⟩ := hn
  exact ⟨i, by omega, rfl⟩

end Bindings

/-- **A statement bound soundly** to bindings `bs` for the slots `slots`: its marker names are
those slots, each once, and readying it for the dialect passes for each marker, in order, the
value bound in the marker's slot. -/
def BindsSlots (d : Dialect) (q : String) (bs : Bindings) (slots : List String) : Prop :=
  ((markers q).map (·.name)).Perm slots ∧ ((markers q).map (·.name)).Nodup ∧
    ∃ text args, bindFor d q bs.lookup = .ok (text, args) ∧
      List.Forall₂ (fun a m => (⟨m.name, a.value⟩ : Binding) ∈ bs.entries) args (markers q)

/-- A statement read as the slots, each once and all bound, is bound soundly. -/
theorem bindsSlots_of_reads {d : Dialect} {q : String} {bs : Bindings} {ns slots : List String}
    (hread : Reads q.toList ns isBreak) (hperm : ns.Perm slots) (hnodup : slots.Nodup)
    (hbound : ∀ n ∈ slots, n ∈ bs.entries.map (·.name)) : BindsSlots d q bs slots := by
  have hnames : (markers q).map (·.name) = ns := markers_names hread
  have hperm' : ((markers q).map (·.name)).Perm slots := hnames ▸ hperm
  have hdistinct : ((markers q).map (·.name)).Nodup := hperm'.nodup_iff.mpr hnodup
  refine ⟨hperm', hdistinct, ?_⟩
  have hfound : ∀ m ∈ markers q, (bs.lookup m.name).isSome = true := fun m hm =>
    Bindings.lookup_isSome (hbound _ (hperm'.subset (List.mem_map_of_mem hm)))
  obtain ⟨text, args, hbind, hargs⟩ := bindFor_ok d q bs.lookup hdistinct hfound
  exact ⟨text, args, hbind, hargs.imp (fun _ _ h => Bindings.mem_of_lookup h)⟩

end QueryKit.Sql

namespace QueryKit.Query

open Sql

theorem reads_terminate {q : String} {ns : List String} (h : Reads q.toList ns isBreak) :
    Reads (terminate q).toList ns isBreak := by
  simpa [terminate] using h.then_plain (b := ";") (by decide) (show isBreak ';' = true by decide)

namespace Builder

variable {d : Dialect} {b : Builder}

theorem fault_none_of {b : Builder} (h : b.fault? = none) : b.fault = none := by
  simp only [fault?, Option.or_eq_none_iff] at h
  exact h.1

theorem selectStatement_ok {op : String} {s : Select} (h : b.selectStatement op = .ok s) :
    b.fault = none ∧ s = {
      distinct := b.distinct, columns := b.columns, table := some b.table, joins := b.joins,
      conditions := b.scope.clause, orderBy := b.orderBy, limit := b.limit, offset := b.offset } := by
  unfold selectStatement at h
  split at h
  · cases h
  · rename_i hfault
    split at h
    · cases h
    · cases h
      exact ⟨fault_none_of hfault, rfl⟩

/-! ## Selects and deletes: every slot -/

/-- **The select a builder writes**, or its count, is read as the builder's slots, in some
order. A count selects `COUNT(*)`, with neither ordering nor paging, and is read as the
select is. -/
theorem Carries.compileSelect_reads (hq : isQuoteChar d.quote = true)
    (hoff : ∀ x ∈ d.offsetLimit.toList, isPlain x = true) (h : Carries d b) {op : String}
    {count : Bool} {q : String} (hc : b.compileSelect op count = .ok q) :
    ∃ ns, Reads q.toList ns isBreak ∧ ns.Perm (slotRange 1 b.bindings.next) := by
  unfold compileSelect at hc
  obtain ⟨s, hs, hc⟩ := exists_of_bind_eq_ok hc
  obtain ⟨hfault, rfl⟩ := selectStatement_ok hs
  obtain ⟨q₀, hq₀, hc⟩ := exists_of_bind_eq_ok hc
  cases hc
  obtain ⟨nj, nw, hj, hw, hperm⟩ := h.marks
  have htable : ∀ t ∈ some b.table, t.quiet = true := by simpa using h.table
  rw [h.dialect] at hq₀
  refine ⟨nj ++ nw, reads_terminate ?_, hperm hfault⟩
  cases count
  · simp only [Bool.false_eq_true, ↓reduceIte] at hq₀
    exact reads_select hq hoff h.columns htable hj hw h.orderBy hq₀
  · simp only [↓reduceIte] at hq₀
    have hcount : ∀ t ∈ [Term.sql "COUNT(*)"], t.quiet = true := by
      intro t ht
      rw [List.mem_singleton.mp ht]
      decide
    exact reads_select hq hoff hcount htable hj hw (by simp) hq₀

theorem Carries.compileSelect_binds (hq : isQuoteChar d.quote = true)
    (hoff : ∀ x ∈ d.offsetLimit.toList, isPlain x = true) (h : Carries d b) {op : String}
    {count : Bool} {q : String} (hc : b.compileSelect op count = .ok q) :
    BindsSlots d q b.bindings (slotRange 1 b.bindings.next) := by
  obtain ⟨ns, hread, hperm⟩ := h.compileSelect_reads hq hoff hc
  refine bindsSlots_of_reads hread hperm (slotRange_nodup _ _) ?_
  exact Bindings.bound_of_grown h.slots (Nat.le_refl 1)

theorem Carries.compileDelete_binds (hq : isQuoteChar d.quote = true) (h : Carries d b)
    {q : String} (hc : b.compileDelete = .ok q) :
    BindsSlots d q b.bindings (slotRange 1 b.bindings.next) := by
  unfold compileDelete at hc
  split at hc
  · cases hc
  · rename_i hfault
    split at hc
    · cases hc
    · obtain ⟨q₀, hq₀, rfl⟩ := exists_of_map_eq_ok hc
      obtain ⟨nj, nw, hj, hw, hperm⟩ := h.marks
      rw [h.dialect] at hq₀
      have hread := reads_terminate (reads_delete hq h.table hj hw hq₀)
      refine bindsSlots_of_reads hread (hperm (fault_none_of hfault)) (slotRange_nodup _ _) ?_
      exact Bindings.bound_of_grown h.slots (Nat.le_refl 1)

/-- **A page and its count** are read as the builder's slots: paging binds nothing. -/
theorem Carries.pageQuery_binds (hq : isQuoteChar d.quote = true)
    (hoff : ∀ x ∈ d.offsetLimit.toList, isPlain x = true) (h : Carries d b) {op : String}
    {page perPage : Int} {q : String} {b' : Builder}
    (hc : b.pageQuery op page perPage = (.ok q, b')) :
    BindsSlots d q b'.bindings (slotRange 1 b'.bindings.next) ∧
      ∀ q', b'.compileSelect op true = .ok q' →
        BindsSlots d q' b'.bindings (slotRange 1 b'.bindings.next) := by
  unfold pageQuery at hc
  split at hc
  · cases hc
  · rename_i offset _
    simp only [Prod.mk.injEq] at hc
    obtain ⟨hsel, rfl⟩ := hc
    have hpaged : Carries d { b with offset := some offset, limit := b.limit.or (some perPage) } :=
      { h with }
    exact ⟨hpaged.compileSelect_binds hq hoff hsel,
      fun _ hcount => hpaged.compileSelect_binds hq hoff hcount⟩

/-! ## Updates: the values set, then the conditions -/

/-- **An update** binds its values after the conditions' and writes them before: its statement
is read as every slot, in some order. -/
theorem Carries.compileUpdate_binds (hq : isQuoteChar d.quote = true) (h : Carries d b)
    {values : Row} {q : String} {b' : Builder} (hvalues : ∀ p ∈ values, p.2.noRaw = true)
    (hc : b.compileUpdate values = (.ok q, b')) :
    BindsSlots d q b'.bindings (slotRange 1 b'.bindings.next) := by
  unfold compileUpdate at hc
  split at hc
  · cases hc
  · rename_i hfault
    split at hc
    · cases hc
    · extract_lets sets at hc
      split at hc
      · cases hc
      · simp only [Prod.mk.injEq] at hc
        obtain ⟨hupd, rfl⟩ := hc
        obtain ⟨q₀, hq₀, rfl⟩ := exists_of_map_eq_ok hupd
        obtain ⟨hgrown, hsets⟩ := bindSets_reads hq (mapMembers values) b.bindings
          (fun p hp => hvalues p (mem_mapMembers hp)) h.one_le
        obtain ⟨nj, nw, hj, hw, hperm⟩ := h.marks
        simp only [h.dialect] at hq₀
        have hread := reads_terminate (reads_update hq h.table hsets hj hw hq₀)
        have hnew : ((slotRange b.bindings.next (bindSets b.bindings (mapMembers values)).2.next ++
            nj) ++ nw).Perm (slotRange 1 (bindSets b.bindings (mapMembers values)).2.next) := by
          rw [List.append_assoc, ← slotRange_append h.one_le hgrown.1]
          exact List.perm_append_comm.trans ((hperm (fault_none_of hfault)).append_right _)
        refine bindsSlots_of_reads hread hnew (slotRange_nodup _ _) ?_
        exact Bindings.bound_of_grown (h.slots.trans hgrown) (Nat.le_refl 1)

/-! ## Inserts: the slots of the rows and of the conflict clause -/

/-- **An insert** carries exactly the slots it bound for its rows and its conflict assignments,
whatever the builder bound before. -/
theorem Carries.compileInsert_binds (hq : isQuoteChar d.quote = true) (h : Carries d b)
    {op : String} {rows : List Row} {returning : List Term} {q : String} {b' : Builder}
    (hrows : ∀ r ∈ rows, ∀ p ∈ r, p.2.noRaw = true) (hreturning : ∀ t ∈ returning, t.quiet = true)
    (hc : b.compileInsert op rows returning = (.ok q, b')) :
    BindsSlots d q b'.bindings (slotRange b.bindings.next b'.bindings.next) := by
  unfold compileInsert at hc
  split at hc
  · cases hc
  split at hc
  · cases hc
  split at hc
  · cases hc
  rename_i columns _
  obtain ⟨hg₁, hrowsRead⟩ := bindRows_reads (d := d) columns rows b.bindings hrows h.one_le
  rcases hbound : bindRows columns b.bindings rows with ⟨values, bs⟩
  rw [hbound] at hg₁ hrowsRead
  simp only at hg₁ hrowsRead
  simp only [hbound] at hc
  have hcols : ∀ t ∈ columns.map Term.name, t.quiet = true := by simp [Term.quiet, Term.name]
  have hslots : Bindings.Grown Bindings.empty bs := h.slots.trans hg₁
  cases hplan : b.conflict with
  | none =>
    simp only [hplan] at hc
    obtain ⟨hins, rfl⟩ := Prod.mk.inj hc
    obtain ⟨q₀, hq₀, rfl⟩ := exists_of_map_eq_ok hins
    simp only [h.dialect] at hq₀
    have hread := reads_terminate (reads_insert hq h.table hcols hreturning hrowsRead
      (by simp) (fun _ => rfl) hq₀)
    refine bindsSlots_of_reads hread (by simp [Builder.bindings]) (slotRange_nodup _ _) ?_
    exact Bindings.bound_of_grown hslots h.one_le
  | some plan =>
    simp only [hplan] at hc
    generalize hoc : Builder.onConflict _ plan columns = w at hc
    obtain ⟨_ | oc, b₃⟩ := w
    · cases hc
    obtain ⟨hins, rfl⟩ := Prod.mk.inj hc
    obtain ⟨q₀, hq₀, rfl⟩ := exists_of_map_eq_ok hins
    obtain ⟨hdial, htab, htargets, hg₂, hsets, hnothing⟩ :=
      onConflict_reads hq (by exact h.dialect) (h.conflict plan hplan)
        (by exact Nat.le_trans h.one_le hg₁.1) hoc
    simp only [hdial, h.dialect] at hq₀
    have hread := reads_terminate (reads_insert hq h.table hcols hreturning hrowsRead
      (fun c hc => by
        simp only [Option.mem_def, Option.some.injEq] at hc
        subst hc
        exact ⟨htargets, hsets, hnothing⟩)
      (by simp) hq₀)
    have hall : (slotRange b.bindings.next bs.next ++ slotRange bs.next b₃.bindings.next).Perm
        (slotRange b.bindings.next b₃.bindings.next) := by
      rw [slotRange_append hg₁.1 hg₂.1]
    exact bindsSlots_of_reads hread hall (slotRange_nodup _ _)
      (Bindings.bound_of_grown (hslots.trans hg₂) h.one_le)

end Builder

/-! ## Chains of calls -/

/-- **Every statement a builder chain writes binds exactly its slots.** For a chain of calls that
pass names and bound values only, in MySQL, PostgreSQL or SQLite: the select (or its count), the
delete, the update and both statements of a page carry every slot of the builder's bindings,
each once; an insert carries exactly the slots it bound for its rows and conflict assignments;
and readying any of them for the dialect succeeds, passing for each marker the value bound in
the marker's slot. -/
theorem chain_statements_bind_slots (d : Dialect)
    (hd : d = .mysql ∨ d = .postgres ∨ d = .sqlite) (logging : Bool) (calls : List Call)
    (hcalls : ∀ c ∈ calls, c.noRaw d = true) :
    let b := Call.applyAll (Builder.new d logging) calls
    (∀ op count q, b.compileSelect op count = .ok q →
      BindsSlots d q b.bindings (slotRange 1 b.bindings.next)) ∧
    (∀ q, b.compileDelete = .ok q → BindsSlots d q b.bindings (slotRange 1 b.bindings.next)) ∧
    (∀ values q b', (∀ p ∈ values, p.2.noRaw = true) → b.compileUpdate values = (.ok q, b') →
      BindsSlots d q b'.bindings (slotRange 1 b'.bindings.next)) ∧
    (∀ op page perPage q b', b.pageQuery op page perPage = (.ok q, b') →
      BindsSlots d q b'.bindings (slotRange 1 b'.bindings.next) ∧
        ∀ q', b'.compileSelect op true = .ok q' →
          BindsSlots d q' b'.bindings (slotRange 1 b'.bindings.next)) ∧
    (∀ op rows returning q b', (∀ r ∈ rows, ∀ p ∈ r, p.2.noRaw = true) →
      (∀ t ∈ returning, t.quiet = true) → b.compileInsert op rows returning = (.ok q, b') →
      BindsSlots d q b'.bindings (slotRange b.bindings.next b'.bindings.next)) := by
  intro b
  have hq : isQuoteChar d.quote = true := by rcases hd with rfl | rfl | rfl <;> decide
  have hoff : ∀ x ∈ d.offsetLimit.toList, isPlain x = true := by
    rcases hd with rfl | rfl | rfl <;> decide
  have h : Builder.Carries d b := Builder.carries_applyAll hq calls (Builder.carries_new d logging)
    hcalls
  exact ⟨fun _ _ _ hc => h.compileSelect_binds hq hoff hc,
    fun _ hc => h.compileDelete_binds hq hc,
    fun _ _ _ hvalues hc => h.compileUpdate_binds hq hvalues hc,
    fun _ _ _ _ _ hc => h.pageQuery_binds hq hoff hc,
    fun _ _ _ _ _ hrows hreturning hc => h.compileInsert_binds hq hrows hreturning hc⟩

/-- The select of the adult users, in PostgreSQL, binds its one slot. -/
theorem adult_users_select_binds :
    let calls := [Call.table (.text "users"), .cond (.compare .and (.text "age") ">" (.int 18))]
    let b := Call.applyAll (Builder.new .postgres false) calls
    (∀ c ∈ calls, c.noRaw .postgres = true) ∧
      ∀ op count q, b.compileSelect op count = .ok q →
        BindsSlots .postgres q b.bindings (slotRange 1 b.bindings.next) :=
  ⟨by decide, (chain_statements_bind_slots .postgres (.inr (.inl rfl)) false
    [Call.table (.text "users"), .cond (.compare .and (.text "age") ">" (.int 18))] (by decide)).1⟩

end QueryKit.Query
