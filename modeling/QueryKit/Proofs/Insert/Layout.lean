import Mathlib
import QueryKit.Proofs.Binding.Dialect
import QueryKit.Proofs.Identifier.Tokens
import QueryKit.Proofs.Where.Guard

/-!
# How an insert lays its rows out

An insert takes its columns from the first row, sorted, and refuses rows that are missing, a first
row without columns, and rows whose columns are not the first row's. It then binds the cells row
by row, each row in column order: a cell of raw SQL is written as it is, every other cell takes
the next free slot. The conflict clause binds its values after the cells.

* `Row.columns_sorted`, `Row.mem_columns`: a row's columns are its keys, each once, in increasing
  order;
* `Sql.writtenFrom`, `Sql.boundFrom`: the texts and the bindings of values written from a slot on,
  in closed form (`Scope.addAll_eq`);
* `Builder.bindRows_eq`: the rows are bound as their cells are, in row-major order;
* `Dialect.insert_text`: the text of a valid insert;
* `Builder.insert_lays_rows_out`: when an insert is refused, and what it writes otherwise.
-/

namespace QueryKit

/-! ## The columns of a row -/

section Keys

variable {α : Type}

/-- The fold of the map view keeps each key once: one step puts the new member in front of the
earlier ones of other keys. -/
theorem keys_foldl_keepLast {f : List (String × α) → String × α → List (String × α)}
    (hf : ∀ acc p, f acc p = p :: acc.filter (fun q => q.1 != p.1)) :
    ∀ (l acc : List (String × α)), (acc.map Prod.fst).Nodup →
      ((l.foldl f acc).map Prod.fst).Nodup ∧
        ∀ c, c ∈ (l.foldl f acc).map Prod.fst ↔ c ∈ acc.map Prod.fst ∨ c ∈ l.map Prod.fst
  | [], _, h => ⟨h, fun c => by simp⟩
  | p :: rest, acc, h => by
    have hkept : ∀ c, c ∈ (acc.filter (fun q => q.1 != p.1)).map Prod.fst ↔
        c ∈ acc.map Prod.fst ∧ c ≠ p.1 := by
      intro c
      simp only [List.mem_map, List.mem_filter, bne_iff_ne, ne_eq]
      constructor
      · rintro ⟨q, ⟨hq, hne⟩, rfl⟩
        exact ⟨⟨q, hq, rfl⟩, hne⟩
      · rintro ⟨⟨q, hq, rfl⟩, hne⟩
        exact ⟨q, ⟨hq, hne⟩, rfl⟩
    have hstep : ((f acc p).map Prod.fst).Nodup := by
      rw [hf, List.map_cons, List.nodup_cons]
      exact ⟨fun hp => ((hkept p.1).mp hp).2 rfl,
        (h.sublist ((List.filter_sublist).map Prod.fst))⟩
    obtain ⟨hnodup, hmem⟩ := keys_foldl_keepLast hf rest (f acc p) hstep
    refine ⟨hnodup, fun c => ?_⟩
    rw [List.foldl_cons, hmem, hf, List.map_cons, List.mem_cons, hkept, List.map_cons,
      List.mem_cons]
    by_cases hc : c = p.1
    · simp only [hc, true_or, or_true]
    · simp only [hc, ne_eq, not_false_eq_true, and_true, false_or]

/-- **The keys of the map view** are the members' keys, each once: sorting the kept members,
latest first, keeps their keys. -/
theorem mapMembers_keys (members : List (String × α)) :
    ((mapMembers members).map Prod.fst).Nodup ∧
      ∀ c, c ∈ (mapMembers members).map Prod.fst ↔ c ∈ members.map Prod.fst := by
  have hsort : ∀ last : List (String × α), (last.map Prod.fst).Nodup →
      (∀ c, c ∈ last.map Prod.fst ↔ c ∈ members.map Prod.fst) →
      ((sortByKey last.reverse).map Prod.fst).Nodup ∧
        ∀ c, c ∈ (sortByKey last.reverse).map Prod.fst ↔ c ∈ members.map Prod.fst := by
    intro last hnodup hmem
    have hperm := ((sortByKey_perm last.reverse).trans (List.reverse_perm last)).map Prod.fst
    exact ⟨hperm.nodup_iff.mpr hnodup, fun c => hperm.mem_iff.trans (hmem c)⟩
  obtain ⟨hnodup, hmem⟩ := keys_foldl_keepLast (fun _ _ => rfl) members [] List.nodup_nil
  exact hsort _ hnodup fun c => (hmem c).trans (by simp only [List.map_nil, List.not_mem_nil, false_or])

theorem insertByKey_keys (k : String) (v : α) :
    ∀ l : List (String × α), (insertByKey k v l).map Prod.fst = (l.map Prod.fst).orderedInsert (· ≤ ·) k
  | [] => rfl
  | (k', v') :: rest => by
    unfold insertByKey
    split
    · rename_i hle
      simp [hle]
    · rename_i hlt
      simp [hlt, insertByKey_keys k v rest]

/-- Sorting members by key sorts their keys. -/
theorem sortByKey_keys : ∀ l : List (String × α),
    (sortByKey l).map Prod.fst = (l.map Prod.fst).insertionSort (· ≤ ·)
  | [] => rfl
  | (k, v) :: rest => by
    have hstep : sortByKey ((k, v) :: rest) = insertByKey k v (sortByKey rest) := rfl
    rw [hstep, insertByKey_keys, sortByKey_keys rest]
    rfl

end Keys

namespace Query

/-- **A row's columns are its keys**, each once. -/
theorem Row.mem_columns (r : Row) (c : String) : c ∈ r.columns ↔ c ∈ r.map Prod.fst :=
  (mapMembers_keys r).2 c

theorem Row.columns_nodup (r : Row) : r.columns.Nodup := (mapMembers_keys r).1

/-- **A row's columns are in increasing order.** -/
theorem Row.columns_sorted (r : Row) : r.columns.Pairwise (· < ·) := by
  have hsorted : r.columns.Pairwise (· ≤ ·) := by
    unfold Row.columns mapMembers
    rw [sortByKey_keys]
    exact List.pairwise_insertionSort _ _
  exact (hsorted.and (Row.columns_nodup r)).imp fun h => lt_of_le_of_ne h.1 h.2

theorem Row.columns_eq_nil (r : Row) : r.columns = [] ↔ r = [] := by
  constructor
  · intro h
    cases r with
    | nil => rfl
    | cons p rest =>
      have hp := (Row.mem_columns (p :: rest) p.1).mpr (by simp)
      simp [h] at hp
  · rintro rfl
    rfl

end Query
end QueryKit

/-! ## Rows an insert refuses -/

namespace QueryKit.Query

/-- **Rows an insert refuses**: none, a first row without columns, or a row whose columns are not
the first row's. -/
def RowsRefused : List Row → Prop
  | [] => True
  | first :: rest => first = [] ∨ ∃ r ∈ rest, ∃ c, ¬ (c ∈ r.map Prod.fst ↔ c ∈ first.map Prod.fst)

/-- Two lists without repetitions have the same members when one is as long as the other and
holds all of the other's. -/
theorem same_members_iff {xs ys : List String} (hx : xs.Nodup) (hy : ys.Nodup) :
    (ys.length = xs.length ∧ ∀ c ∈ xs, c ∈ ys) ↔ ∀ c, c ∈ ys ↔ c ∈ xs := by
  constructor
  · rintro ⟨hlen, hsub⟩
    have hperm : xs.Perm ys := (hx.subperm hsub).perm_of_length_le (Nat.le_of_eq hlen)
    exact fun c => hperm.mem_iff.symm
  · intro hmem
    have hperm : ys.Perm xs := (List.perm_ext_iff_of_nodup hy hx).mpr hmem
    exact ⟨hperm.length_eq, fun c hc => (hmem c).mpr hc⟩

namespace Builder

/-- **The check of the other rows** passes exactly when each has the columns of the first: a row
of their number fails on a column of the first row that it misses. -/
theorem rowColumns_check_ok (op : String) {columns : List String} (hcols : columns.Nodup) :
    ∀ (i : Nat) (rest : List Row), rowColumns.check op columns i rest = .ok () ↔
      ∀ r ∈ rest, ∀ c, c ∈ r.columns ↔ c ∈ columns
  | _, [] => by simp [rowColumns.check]
  | i, r :: more => by
    have ih := rowColumns_check_ok op hcols (i + 1) more
    have hsame := same_members_iff hcols (Row.columns_nodup r)
    simp only [rowColumns.check, List.mem_cons, forall_eq_or_imp]
    by_cases hlen : r.columns.length = columns.length
    · cases hfind : columns.find? (fun c => !r.columns.contains c) with
      | some c =>
        have hc : c ∈ columns := List.mem_of_find?_eq_some hfind
        have hmiss : c ∉ r.columns := by simpa using List.find?_some hfind
        simp only [hlen, bne_self_eq_false, Bool.false_eq_true, ↓reduceIte, reduceCtorEq,
          false_iff, not_and]
        exact fun hall => absurd ((hall c).mpr hc) hmiss
      | none =>
        have hall : ∀ c ∈ columns, c ∈ r.columns := by
          intro c hc
          simpa using List.find?_eq_none.mp hfind c hc
        simp only [hlen, bne_self_eq_false, Bool.false_eq_true, ↓reduceIte, ih]
        exact ⟨fun h => ⟨hsame.mp ⟨hlen, hall⟩, h⟩, fun h => h.2⟩
    · have hne : (r.columns.length != columns.length) = true := by simpa using hlen
      simp only [hne, ↓reduceIte, reduceCtorEq, false_iff, not_and]
      exact fun hmem => absurd (hsame.mpr hmem).1 hlen

theorem rowColumns_check_kind (op : String) (columns : List String) :
    ∀ (i : Nat) (rest : List Row) (f : Fault), rowColumns.check op columns i rest = .error f →
      f.kind = .invalidInput
  | _, [], _, h => by simp [rowColumns.check] at h
  | i, r :: more, f, h => by
    simp only [rowColumns.check] at h
    split at h
    · cases h
      rfl
    · split at h
      · cases h
        rfl
      · exact rowColumns_check_kind op columns (i + 1) more f h

/-- **Rows an insert accepts** give the first row's columns. -/
theorem rowColumns_of_accepted (op : String) {first : Row} {rest : List Row}
    (h : ¬ RowsRefused (first :: rest)) : rowColumns op (first :: rest) = .ok first.columns := by
  simp only [RowsRefused, not_or, not_exists, not_and, not_not] at h
  obtain ⟨hne, hsame⟩ := h
  have hcols : first.columns.isEmpty = false := by
    simpa [List.isEmpty_iff, Row.columns_eq_nil] using hne
  have hcheck : rowColumns.check op first.columns 1 rest = .ok () :=
    (rowColumns_check_ok op (Row.columns_nodup first) 1 rest).mpr fun r hr c => by
      rw [Row.mem_columns, Row.mem_columns]
      exact hsame r hr c
  simp only [rowColumns, hcols, Bool.false_eq_true, ↓reduceIte, hcheck]
  rfl

/-- **Rows an insert refuses** are refused, as invalid input, and only they are: a row whose
columns differ fails the check of the other rows. -/
theorem rowColumns_refused (op : String) (rows : List Row) :
    (∃ f, rowColumns op rows = .error f) ↔ RowsRefused rows := by
  cases rows with
  | nil => exact ⟨fun _ => trivial, fun _ => ⟨_, rfl⟩⟩
  | cons first rest =>
    refine ⟨fun ⟨f, hf⟩ => Classical.byContradiction fun hacc => ?_, fun h => ?_⟩
    · rw [rowColumns_of_accepted op hacc] at hf
      cases hf
    · by_cases hne : first = []
      · subst hne
        exact ⟨_, rfl⟩
      · have hcols : first.columns.isEmpty = false := by
          simpa [List.isEmpty_iff, Row.columns_eq_nil] using hne
        obtain ⟨r, hr, c, hc⟩ := (h.resolve_left hne)
        have hfail : rowColumns.check op first.columns 1 rest ≠ .ok () := by
          intro hok
          rw [rowColumns_check_ok op (Row.columns_nodup first)] at hok
          apply hc
          rw [← Row.mem_columns, ← Row.mem_columns]
          exact hok r hr c
        cases hcheck : rowColumns.check op first.columns 1 rest with
        | ok u => exact absurd hcheck hfail
        | error e =>
          simp only [rowColumns, hcols, Bool.false_eq_true, ↓reduceIte, hcheck]
          exact ⟨e, rfl⟩

theorem rowColumns_error_kind {op : String} {rows : List Row} {f : Fault}
    (h : rowColumns op rows = .error f) : f.kind = .invalidInput := by
  cases rows with
  | nil =>
    simp only [rowColumns, Except.error.injEq] at h
    rw [← h]
    rfl
  | cons first rest =>
    by_cases hcols : first.columns.isEmpty = true
    · simp only [rowColumns, hcols, ↓reduceIte, Except.error.injEq] at h
      rw [← h]
      rfl
    · cases hcheck : rowColumns.check op first.columns 1 rest with
      | ok u => simp [rowColumns, hcols, hcheck, Except.map] at h
      | error e =>
        simp only [rowColumns, hcols, Bool.false_eq_true, ↓reduceIte, hcheck, Except.map,
          Except.error.injEq] at h
        rw [← h]
        exact rowColumns_check_kind op _ 1 rest e hcheck

end Builder
end QueryKit.Query

/-! ## Values written from a slot on -/

namespace QueryKit

/-- **Values that take a slot** when they are bound: all but raw SQL. -/
def Value.takesSlot (v : Value) : Bool := v.rawSql?.isNone

namespace Sql

/-- **The texts of values written from slot `n` on**: each value its raw SQL, or else the marker
of slot `n` plus the number of values before it that took a slot. -/
def writtenFrom (n : Nat) (vs : List Value) : List String :=
  vs.mapIdx fun k v => v.rawSql?.getD (":" ++ slotName (n + (vs.take k).countP Value.takesSlot))

/-- **The bindings of values written from slot `n` on**: the values that take a slot, the `k`-th
of them in slot `n + k`. -/
def boundFrom (n : Nat) (vs : List Value) : List Binding :=
  ((vs.filter Value.takesSlot).zipIdx n).map fun p => ⟨slotName p.2, p.1⟩

@[simp] theorem writtenFrom_nil (n : Nat) : writtenFrom n [] = [] := rfl

@[simp] theorem boundFrom_nil (n : Nat) : boundFrom n [] = [] := rfl

theorem writtenFrom_cons (n : Nat) (v : Value) (vs : List Value) :
    writtenFrom n (v :: vs) =
      v.rawSql?.getD (":" ++ slotName n) :: writtenFrom (n + if v.takesSlot then 1 else 0) vs := by
  simp only [writtenFrom, List.mapIdx_cons, List.take_zero, List.countP_nil, Nat.add_zero,
    List.take_succ_cons, List.countP_cons, Nat.add_assoc, Nat.add_comm (if v.takesSlot = true then 1 else 0)]

theorem boundFrom_cons (n : Nat) (v : Value) (vs : List Value) :
    boundFrom n (v :: vs) =
      (if v.takesSlot then [⟨slotName n, v⟩] else []) ++ boundFrom (n + if v.takesSlot then 1 else 0) vs := by
  unfold boundFrom
  by_cases hv : v.takesSlot = true
  · simp [hv, List.zipIdx_cons]
  · simp [hv]

theorem writtenFrom_append (n : Nat) (xs ys : List Value) :
    writtenFrom n (xs ++ ys) = writtenFrom n xs ++ writtenFrom (n + xs.countP Value.takesSlot) ys := by
  induction xs generalizing n with
  | nil => simp
  | cons x xs ih =>
    rw [List.cons_append, writtenFrom_cons, writtenFrom_cons, ih, List.countP_cons]
    simp only [List.cons_append, Nat.add_assoc, Nat.add_comm (if x.takesSlot = true then 1 else 0)]

theorem boundFrom_append (n : Nat) (xs ys : List Value) :
    boundFrom n (xs ++ ys) = boundFrom n xs ++ boundFrom (n + xs.countP Value.takesSlot) ys := by
  induction xs generalizing n with
  | nil => simp
  | cons x xs ih =>
    rw [List.cons_append, boundFrom_cons, boundFrom_cons, ih, List.countP_cons]
    simp only [List.append_assoc, Nat.add_assoc, Nat.add_comm (if x.takesSlot = true then 1 else 0)]

end Sql

namespace Query

open Sql

/-- **Binding values one after the other** writes them from the next free slot on: raw SQL as it
is, every other value as the marker of the slot it takes. -/
theorem Scope.addAll_eq : ∀ (vs : List Value) (bs : Bindings),
    (Scope.addAll bs vs).1 = writtenFrom (max bs.next 1) vs ∧
      (Scope.addAll bs vs).2.entries = bs.entries ++ boundFrom (max bs.next 1) vs ∧
      max (Scope.addAll bs vs).2.next 1 = max bs.next 1 + vs.countP Value.takesSlot
  | [], bs => by simp [Scope.addAll]
  | v :: vs, bs => by
    cases hv : v.rawSql? with
    | some s =>
      have hslot : v.takesSlot = false := by simp [Value.takesSlot, hv]
      obtain ⟨htexts, hentries, hnext⟩ := Scope.addAll_eq vs bs
      simp only [Scope.addAll, Bindings.add_raw hv]
      refine ⟨?_, ?_, ?_⟩
      · rw [htexts, writtenFrom_cons, hv, hslot]
        rfl
      · rw [hentries, boundFrom_cons, hslot]
        simp
      · rw [hnext, List.countP_cons, hslot]
        simp
    | none =>
      have hslot : v.takesSlot = true := by simp [Value.takesSlot, hv]
      obtain ⟨htexts, hentries, hnext⟩ := Scope.addAll_eq vs
        { next := max bs.next 1 + 1, entries := bs.entries ++ [⟨slotName (max bs.next 1), v⟩] }
      have hmax : max (max bs.next 1 + 1) 1 = max bs.next 1 + 1 := by omega
      simp only [Scope.addAll, Bindings.add_numbered hv]
      simp only [hmax] at htexts hentries hnext
      refine ⟨?_, ?_, ?_⟩
      · rw [htexts, writtenFrom_cons, hv, hslot]
        rfl
      · rw [hentries, boundFrom_cons, hslot]
        simp
      · rw [hnext, List.countP_cons, hslot]
        simp only [↓reduceIte]
        omega

end Query
end QueryKit

/-! ## The rows bound -/

namespace QueryKit.Query

open Sql

/-- **The cells of rows** under columns, in row-major order: row by row, each row in column
order, a missing cell as no value. -/
def cellsOf (columns : List String) (rows : List Row) : List Value :=
  rows.flatMap fun r => columns.map r.get

theorem Scope.addAll_append (bs : Bindings) (xs ys : List Value) :
    Scope.addAll bs (xs ++ ys) =
      ((Scope.addAll bs xs).1 ++ (Scope.addAll (Scope.addAll bs xs).2 ys).1,
        (Scope.addAll (Scope.addAll bs xs).2 ys).2) := by
  induction xs generalizing bs with
  | nil => rfl
  | cons x xs ih => simp only [List.cons_append, Scope.addAll, ih, List.cons_append]

namespace Builder

/-- **Rows are bound as their cells are**, in row-major order: one list of raw terms per row, as
long as the columns. -/
theorem bindRows_eq (columns : List String) : ∀ (rows : List Row) (bs : Bindings),
    ((bindRows columns bs rows).1.map (·.map Term.text)).flatten =
        (Scope.addAll bs (cellsOf columns rows)).1 ∧
      (bindRows columns bs rows).2 = (Scope.addAll bs (cellsOf columns rows)).2 ∧
      (bindRows columns bs rows).1.length = rows.length ∧
      ∀ ts ∈ (bindRows columns bs rows).1, ts.length = columns.length ∧ ∀ t ∈ ts, t.raw = true
  | [], bs => by simp [bindRows, cellsOf, Scope.addAll]
  | r :: rest, bs => by
    obtain ⟨htexts, hbs, hlen, hrows⟩ := bindRows_eq columns rest (Scope.addAll bs (columns.map r.get)).2
    have hcells : cellsOf columns (r :: rest) = columns.map r.get ++ cellsOf columns rest := rfl
    have hwidth : (Scope.addAll bs (columns.map r.get)).1.length = columns.length := by
      rw [(Scope.addAll_eq _ bs).1, writtenFrom, List.length_mapIdx, List.length_map]
    simp only [bindRows, foldl_addTerm_eq, List.nil_append, hcells, Scope.addAll_append]
    refine ⟨?_, hbs, by simp [hlen], ?_⟩
    · simp [htexts, Function.comp_def, Term.sql]
    · intro ts hts
      rcases List.mem_cons.mp hts with rfl | hts
      · simp [hwidth, Term.sql]
      · exact hrows ts hts

end Builder
end QueryKit.Query

/-! ## Writing an insert -/

namespace QueryKit.Sql

theorem quotePart_ne_nil (q : Char) (part : List Char) : quotePart q part ≠ [] := by
  unfold quotePart
  split
  · rename_i h
    intro hnil
    subst hnil
    simp [isQuotedPart] at h
  · simp

theorem quoteDotted_ne_nil (q : Char) (cs : List Char) : quoteDotted q cs ≠ [] := by
  unfold quoteDotted
  obtain ⟨p, ps, hps⟩ := List.exists_cons_of_ne_nil (splitOutside_ne_nil (q := q) '.' cs)
  rw [hps, List.map_cons]
  cases ps with
  | nil => simpa using quotePart_ne_nil q p
  | cons p' ps' => simp [List.intercalate_cons_cons, quotePart_ne_nil]

/-- **Every name is written as something**, along every split of the recursion of quoting. -/
theorem quoteFull_ne_nil (q : Char) (cs : List Char) : quoteFull q cs ≠ [] := by
  induction cs using quoteFull_induction with
  | asAlias cs l r hs _ _ =>
    rw [quoteFull_asAlias hs]
    simp
  | spaceAlias cs l r hs _ _ =>
    rw [quoteFull_spaceAlias hs]
    simp
  | whole cs hs =>
    rw [quoteFull_whole hs]
    exact quoteDotted_ne_nil q _

/-- **A term with a text is written as something.** -/
theorem Dialect.term_ne_empty (d : Dialect) {t : Term} (h : t.isEmpty = false) : d.term t ≠ "" := by
  unfold Dialect.term
  split
  · simpa [Term.isEmpty] using h
  · rw [Dialect.quoteName, quoteName_eq_quoteFull]
    intro hempty
    apply quoteFull_ne_nil d.quote t.text.toList
    simpa using congrArg String.toList hempty

end QueryKit.Sql

namespace QueryKit.Sql

theorem intercalate_ne_empty (sep : String) {x : String} (hx : x ≠ "") (xs : List String) :
    sep.intercalate (x :: xs) ≠ "" := by
  cases xs with
  | nil => simpa using hx
  | cons y ys =>
    rw [String.intercalate_cons_cons]
    simp [hx]

theorem parenthesize_ne_empty (s : String) : parenthesize s ≠ "" := by
  simp [parenthesize]

/-- Joining more texts after some: each comes after the separator. -/
theorem intercalate_append_join (sep : String) {l : List String} (hl : l ≠ []) :
    ∀ m : List String, sep.intercalate (l ++ m) = sep.intercalate l ++ String.join (m.map (sep ++ ·))
  | [] => by simp
  | x :: m => by
    have hsplit : l ++ x :: m = (l ++ [x]) ++ m := by simp
    rw [hsplit, intercalate_append_join sep (by simp) m,
      String.intercalate_append_of_ne_nil hl (by simp), String.intercalate_singleton]
    simp [String.append_assoc]

theorem firstRaggedRow_none {width : Nat} :
    ∀ (i : Nat) (rows : List (List Term)), (∀ r ∈ rows, r.length = width) → firstRaggedRow width i rows = none
  | _, [], _ => rfl
  | i, r :: rest, h => by
    have hr : (r.length != width) = false := by simpa using h r (List.mem_cons_self ..)
    simp only [firstRaggedRow, hr, Bool.false_eq_true, ↓reduceIte]
    exact firstRaggedRow_none (i + 1) rest fun x hx => h x (List.mem_cons_of_mem _ hx)

/-- A written conflict clause is never empty. -/
theorem conflictClause_ne_empty {d : Dialect} {c : OnConflict} {columns : List Term} {s : String}
    (h : d.conflictClause c columns = .ok s) : s ≠ "" := by
  unfold Dialect.conflictClause at h
  split at h
  · split at h
    · cases h
      simp
    · cases h
      simp
  · by_cases hskip : (c.action == .doNothing || c.sets.isEmpty) = true
    · simp only [hskip, ↓reduceIte, Except.ok.injEq] at h
      rw [← h]
      simp
    · by_cases htargets : c.targets.isEmpty = true
      · simp [hskip, htargets] at h
      · simp only [hskip, htargets, Bool.false_eq_true, ↓reduceIte, Except.ok.injEq] at h
        rw [← h]
        simp

theorem Segments.append_parts_of_ne (w : Segments) {segs : List String} (h : ∀ s ∈ segs, s ≠ "") :
    (w.append segs).parts = w.parts ++ segs := by
  simp only [Segments.append, List.append_cancel_left_eq]
  exact List.filter_eq_self.mpr fun s hs => by simpa using h s hs

theorem Segments.append_append (w : Segments) (xs ys : List String) :
    (w.append xs).append ys = w.append (xs ++ ys) := by
  simp [Segments.append, List.filter_append]

namespace Dialect

/-- **The start of an insert**: the table, the columns and the rows, each row its cells' texts. -/
def insertHead (d : Dialect) (table : Term) (columns : List String) (texts : List (List String)) :
    String :=
  "INSERT INTO " ++ d.term table ++ " " ++ parenthesize (", ".intercalate (columns.map d.quoteName)) ++
    " VALUES " ++ ", ".intercalate (texts.map fun t => parenthesize (", ".intercalate t))

/-- The `RETURNING` clause of an insert after a blank, or nothing. -/
def returningTail (d : Dialect) (returning : List Term) : String :=
  if returning.isEmpty then "" else " RETURNING " ++ d.terms returning

/-- **The text of an insert** of named columns and rows of raw cells, once it is valid and the
dialect writes what it returns: its start, the conflict clause and the returned columns. The rows
are written as their cells' texts and the columns as quoted names. -/
theorem insert_text (d : Dialect) {table : Term} {columns : List String} {rows : List (List Term)}
    {conflict : Option OnConflict} {returning : List Term}
    (htable : table.isEmpty = false) (hcols : columns ≠ []) (hrows : rows ≠ [])
    (hwidth : ∀ r ∈ rows, r.length = columns.length ∧ ∀ t ∈ r, t.raw = true)
    (hret : returning = [] ∨ d.returning = true) :
    d.insert { table, columns := columns.map Term.name, rows, conflict, returning } =
      (conflict.elim (.ok "") fun c => (d.conflictClause c (columns.map Term.name)).map (" " ++ ·)).map
        fun tail => d.insertHead table columns (rows.map (·.map Term.text)) ++ tail ++
          d.returningTail returning := by
  have hvalid : Insert.validate { table, columns := columns.map Term.name, rows, conflict, returning } =
      .ok () := by
    have hcols' : (columns.map Term.name).isEmpty = false := by simpa using hcols
    have hrows' : rows.isEmpty = false := by simpa using hrows
    have hragged : firstRaggedRow (columns.map Term.name).length 0 rows = none :=
      firstRaggedRow_none 0 rows fun r hr => by simpa using (hwidth r hr).1
    simp only [Insert.validate, htable, hcols', hrows', Bool.false_eq_true, ↓reduceIte, hragged]
  have hret' : (!returning.isEmpty && !d.returning) = false := by
    rcases hret with rfl | h <;> simp [*]
  have hcells : ∀ r ∈ rows, d.terms r = ", ".intercalate (r.map Term.text) := by
    intro r hr
    simp only [terms]
    congr 1
    exact List.map_congr_left fun t ht => by simp [term, (hwidth r hr).2 t ht]
  have hnames : d.terms (columns.map Term.name) = ", ".intercalate (columns.map d.quoteName) := by
    simp [terms, term, Term.name, Function.comp_def]
  have hrowText : ", ".intercalate (rows.map fun r => parenthesize (d.terms r)) =
      ", ".intercalate ((rows.map (·.map Term.text)).map fun t => parenthesize (", ".intercalate t)) := by
    rw [List.map_map]
    congr 1
    exact List.map_congr_left fun r hr => by simp [hcells r hr]
  obtain ⟨r₀, rs, rfl⟩ := List.exists_cons_of_ne_nil hrows
  have hstart : (Segments.ofList ["INSERT INTO", d.term table,
      parenthesize (d.terms (columns.map Term.name)), "VALUES",
      ", ".intercalate ((r₀ :: rs).map fun r => parenthesize (d.terms r))]).parts =
      ["INSERT INTO", d.term table, parenthesize (d.terms (columns.map Term.name)), "VALUES",
        ", ".intercalate ((r₀ :: rs).map fun r => parenthesize (d.terms r))] := by
    refine Segments.append_parts_of_ne {} fun s hs => ?_
    simp only [List.mem_cons, List.not_mem_nil, or_false] at hs
    rcases hs with rfl | rfl | rfl | rfl | rfl
    · simp
    · exact d.term_ne_empty htable
    · exact parenthesize_ne_empty _
    · simp
    · exact intercalate_ne_empty _ (parenthesize_ne_empty _) _
  have htext : ∀ extra : List String, (∀ s ∈ extra, s ≠ "") →
      ((Segments.ofList ["INSERT INTO", d.term table,
        parenthesize (d.terms (columns.map Term.name)), "VALUES",
        ", ".intercalate ((r₀ :: rs).map fun r => parenthesize (d.terms r))]).append extra).text =
        d.insertHead table columns ((r₀ :: rs).map (·.map Term.text)) ++
          String.join (extra.map (" " ++ ·)) := by
    intro extra hextra
    rw [Segments.text, Segments.append_parts_of_ne _ hextra, hstart,
      intercalate_append_join " " (by simp) extra, hnames, hrowText]
    delta insertHead
    simp only [String.intercalate_cons_cons, String.append_assoc, List.map_cons, String.reduceAppend]
    rw [← String.append_assoc]
    rfl
  have hreturning : ∀ w : Segments,
      (if returning.isEmpty = true then w else w.append ["RETURNING " ++ d.terms returning]) =
        w.append (if returning.isEmpty = true then [] else ["RETURNING " ++ d.terms returning]) := by
    intro w
    split
    · simp [Segments.append]
    · rfl
  have hretParts : ∀ s ∈ (if returning.isEmpty = true then [] else ["RETURNING " ++ d.terms returning]),
      s ≠ "" := by
    split <;> simp
  have hretText : String.join ((if returning.isEmpty = true then [] else
      ["RETURNING " ++ d.terms returning]).map (" " ++ ·)) = d.returningTail returning := by
    unfold returningTail
    split
    · rfl
    · simp only [List.map_cons, List.map_nil, String.join_cons, String.join_nil, String.append_empty]
      rw [← String.append_assoc]
      rfl
  unfold Dialect.insert
  rw [hvalid]
  cases conflict with
  | none =>
    simp only [hret', Bool.false_eq_true, ↓reduceIte, bind, Except.bind, pure, Except.pure,
      Option.elim, Except.map, hreturning]
    rw [htext _ hretParts, hretText]
    simp
  | some c =>
    cases htail : d.conflictClause c (columns.map Term.name) with
    | error e =>
      simp only [hret', Bool.false_eq_true, ↓reduceIte, bind, Except.bind, htail, Option.elim,
        Except.map]
    | ok tail =>
      have hne := conflictClause_ne_empty htail
      have hparts : ∀ s ∈ [tail] ++ (if returning.isEmpty = true then [] else
          ["RETURNING " ++ d.terms returning]), s ≠ "" := by
        intro s hs
        rcases List.mem_append.mp hs with hs | hs
        · rw [List.mem_singleton.mp hs]
          exact hne
        · exact hretParts s hs
      simp only [hret', Bool.false_eq_true, ↓reduceIte, bind, Except.bind, pure, Except.pure, htail,
        Option.elim, Except.map, hreturning]
      rw [Segments.append_append, htext _ hparts, List.map_append, String.join_append, hretText]
      simp [String.append_assoc]

end Dialect
end QueryKit.Sql

/-! ## Slots the conflict clause takes -/

namespace QueryKit.Sql.Bindings

/-- **Bindings grown by numbered slots** taken from the next free one on, the counter's zero
standing for one. -/
def GrownFrom (b b' : Bindings) : Prop :=
  max b.next 1 ≤ max b'.next 1 ∧ ∃ added : List Binding, b'.entries = b.entries ++ added ∧
    added.map (·.name) = slotRange (max b.next 1) (max b'.next 1)

theorem GrownFrom.refl (b : Bindings) : GrownFrom b b := ⟨Nat.le_refl _, [], by simp, by simp⟩

theorem GrownFrom.trans {b₁ b₂ b₃ : Bindings} (h₁ : GrownFrom b₁ b₂) (h₂ : GrownFrom b₂ b₃) :
    GrownFrom b₁ b₃ := by
  obtain ⟨hle₁, a₁, he₁, hn₁⟩ := h₁
  obtain ⟨hle₂, a₂, he₂, hn₂⟩ := h₂
  refine ⟨Nat.le_trans hle₁ hle₂, a₁ ++ a₂, by simp [he₂, he₁], ?_⟩
  rw [List.map_append, hn₁, hn₂, slotRange_append hle₁ hle₂]

theorem grownFrom_add (b : Bindings) (v : Value) : GrownFrom b (b.add v).2 := by
  cases hv : v.rawSql? with
  | some s =>
    rw [add_raw hv]
    exact GrownFrom.refl b
  | none =>
    rw [add_numbered hv]
    have hmax : max (max b.next 1 + 1) 1 = max b.next 1 + 1 := by omega
    refine ⟨by simp only [hmax]; omega, [⟨slotName (max b.next 1), v⟩], rfl, ?_⟩
    simp [slotRange]

end QueryKit.Sql.Bindings

namespace QueryKit.Query

open Sql

/-- **A conflict plan that assigns no column** to rows with these columns: it updates, and one of
its assignments (the given ones, or else one for each column that is not a target) names no
column. -/
def ConflictPlan.AssignsBlank (plan : ConflictPlan) (columns : List String) : Prop :=
  plan.action = .doUpdate ∧
    ((plan.assignments = [] ∧ "" ∈ columns ∧ "" ∉ plan.targets) ∨ ∃ v, ("", v) ∈ plan.assignments)

/-- The value of a conflict assignment takes slots from the next free one on, if any. -/
theorem grownFrom_conflictValue (d : Dialect) (column : String) (v : ConflictValue) (bs : Bindings) :
    Bindings.GrownFrom bs (d.conflictValue column v bs).2 := by
  cases hu : d.upsert
  · rw [Dialect.conflictValue_of_duplicateKey hu]
    exact Bindings.GrownFrom.refl bs
  · cases v with
    | inferred =>
      rw [Dialect.conflictValue_of_slotless (d := d) rfl]
      exact Bindings.GrownFrom.refl bs
    | given x =>
      rw [Dialect.conflictValue_given_onConflict hu]
      split
      · exact Bindings.grownFrom_add bs x
      · exact Bindings.GrownFrom.refl bs

namespace Builder

/-- **Conflict assignments are refused**, as invalid input, exactly when one names no column. -/
theorem conflictSets_refused (d : Dialect) : ∀ (assignments : List (String × ConflictValue))
    (bs : Bindings), (∃ e, (conflictSets d bs assignments).1 = .error e ∧ e.kind = .invalidInput) ↔
      ∃ v, ("", v) ∈ assignments
  | [], bs => by simp
  | (col, v) :: rest, bs => by
    cases hcol : col.isEmpty
    · have hne : col ≠ "" := by simpa using hcol
      rw [conflictSets_named hcol]
      simp only [map_eq_error_iff, List.mem_cons, Prod.mk.injEq, hne.symm, false_and, false_or]
      exact conflictSets_refused d rest _
    · obtain rfl : col = "" := by simpa using hcol
      rw [conflictSets_blank hcol]
      exact ⟨fun _ => ⟨v, List.mem_cons_self⟩, fun _ => ⟨_, rfl, rfl⟩⟩

theorem conflictSets_error_kind (d : Dialect) : ∀ (assignments : List (String × ConflictValue))
    (bs : Bindings) {e : Fault}, (conflictSets d bs assignments).1 = .error e → e.kind = .invalidInput
  | [], _, _, h => by cases h
  | (col, v) :: rest, bs, e, h => by
    cases hcol : col.isEmpty
    · rw [conflictSets_named hcol, map_eq_error_iff] at h
      exact conflictSets_error_kind d rest _ h
    · rw [conflictSets_blank hcol] at h
      cases h
      rfl

/-- **Conflict assignments** take slots from the next free one on, also those bound before an
assignment that is refused. -/
theorem conflictSets_grown (d : Dialect) : ∀ (assignments : List (String × ConflictValue))
    (bs : Bindings), Bindings.GrownFrom bs (conflictSets d bs assignments).2
  | [], bs => Bindings.GrownFrom.refl bs
  | (col, v) :: rest, bs => by
    cases hcol : col.isEmpty
    · rw [conflictSets_named hcol]
      exact (grownFrom_conflictValue d col v bs).trans (conflictSets_grown d rest _)
    · rw [conflictSets_blank hcol]
      exact Bindings.GrownFrom.refl bs

/-- **The builder after a conflict clause** differs from the one before only in its bindings, which
take slots from the next free one on, whether the clause is written or refused. -/
theorem onConflict_snd (b : Builder) (plan : ConflictPlan) (columns : List String) :
    (b.onConflict plan columns).2 =
        { b with scope := { b.scope with bindings := (b.onConflict plan columns).2.bindings } } ∧
      Bindings.GrownFrom b.bindings (b.onConflict plan columns).2.bindings := by
  unfold onConflict
  cases plan.action with
  | doNothing => exact ⟨rfl, Bindings.GrownFrom.refl _⟩
  | doUpdate =>
    dsimp only
    generalize (if plan.assignments.isEmpty = true then
        (columns.filter fun c => !plan.targets.contains c).map fun c => (c, ConflictValue.inferred)
      else plan.assignments) = assignments
    by_cases hnone : assignments.isEmpty = true
    · simp only [hnone, ↓reduceIte]
      exact ⟨rfl, Bindings.GrownFrom.refl _⟩
    · simp only [hnone, Bool.false_eq_true, ↓reduceIte]
      exact ⟨rfl, conflictSets_grown _ _ _⟩

/-- **The conflict clause of an insert**: refused, as invalid input, when the plan assigns no
column; otherwise written on the plan's targets. The assignments written are the given ones, or
else the inserted value of each column that is not a target. -/
theorem onConflict_cases (b : Builder) (plan : ConflictPlan) (columns : List String) :
    (plan.AssignsBlank columns ∧ ∃ e, (b.onConflict plan columns).1 = .error e ∧ e.kind = .invalidInput) ∨
      (¬ plan.AssignsBlank columns ∧ ∃ oc, (b.onConflict plan columns).1 = .ok oc ∧
        oc.targets = plan.targets.map Term.name) := by
  unfold onConflict
  cases haction : plan.action with
  | doNothing => exact .inr ⟨fun h => absurd (haction.symm.trans h.1) (by decide), _, rfl, rfl⟩
  | doUpdate =>
    dsimp only
    have hblank : plan.AssignsBlank columns ↔ ∃ v, ("", v) ∈ (if plan.assignments.isEmpty = true then
        (columns.filter fun c => !plan.targets.contains c).map fun c => (c, ConflictValue.inferred)
      else plan.assignments) := by
      unfold ConflictPlan.AssignsBlank
      by_cases hgiven : plan.assignments.isEmpty = true
      · have hnil : plan.assignments = [] := List.isEmpty_iff.mp hgiven
        simp [hnil, haction]
      · have hne : plan.assignments ≠ [] := by simpa using hgiven
        simp [hgiven, hne, haction]
    generalize (if plan.assignments.isEmpty = true then
        (columns.filter fun c => !plan.targets.contains c).map fun c => (c, ConflictValue.inferred)
      else plan.assignments) = assignments at hblank ⊢
    split
    · rename_i hnone
      refine .inr ⟨fun h => ?_, _, rfl, rfl⟩
      obtain ⟨v, hv⟩ := hblank.mp h
      simp [List.isEmpty_iff.mp hnone] at hv
    · have hrefused := conflictSets_refused b.dialect assignments b.bindings
      have hkind : ∀ e, (conflictSets b.dialect b.bindings assignments).1 = .error e →
          e.kind = .invalidInput := fun _ => conflictSets_error_kind _ _ _
      revert hrefused hkind
      rcases conflictSets b.dialect b.bindings assignments with ⟨_ | sets, bs⟩
      · intro hrefused hkind
        exact .inl ⟨hblank.mpr (hrefused.mp ⟨_, rfl, hkind _ rfl⟩), _, rfl, hkind _ rfl⟩
      · intro hrefused _
        refine .inr ⟨fun h => ?_, _, rfl, rfl⟩
        obtain ⟨e, he, -⟩ := hrefused.mpr (hblank.mp h)
        cases he

/-! ## Writing an insert from a builder -/

/-- **Rows bound from a builder**: one list of raw terms per row, as long as the columns, whose
texts are the cells' written from the builder's next free slot on; the bindings after them add
the cells that take a slot. -/
theorem bindRows_from (b : Builder) (columns : List String) (first : Row) (rest : List Row) :
    ∃ values bs, bindRows columns b.bindings (first :: rest) = (values, bs) ∧ values ≠ [] ∧
      values.length = (first :: rest).length ∧
      (∀ ts ∈ values, ts.length = columns.length ∧ ∀ t ∈ ts, t.raw = true) ∧
      (∀ t ∈ values.map (·.map Term.text), t.length = columns.length) ∧
      (values.map (·.map Term.text)).flatten =
        writtenFrom (max b.bindings.next 1) (cellsOf columns (first :: rest)) ∧
      bs.entries = b.bindings.entries ++ boundFrom (max b.bindings.next 1) (cellsOf columns (first :: rest)) ∧
      max bs.next 1 = max b.bindings.next 1 + (cellsOf columns (first :: rest)).countP Value.takesSlot := by
  obtain ⟨htexts, hbs, hlen, hwidth⟩ := bindRows_eq columns (first :: rest) b.bindings
  obtain ⟨hwritten, hentries, hnext⟩ := Scope.addAll_eq (cellsOf columns (first :: rest)) b.bindings
  rcases hbind : bindRows columns b.bindings (first :: rest) with ⟨values, bs⟩
  simp only [hbind] at htexts hbs hlen hwidth
  have hvalues : values ≠ [] := by
    intro hnil
    simp [hnil] at hlen
  have htextsWidth : ∀ t ∈ values.map (·.map Term.text), t.length = columns.length := by
    intro t ht
    obtain ⟨ts, hts, rfl⟩ := List.mem_map.mp ht
    simpa using (hwidth ts hts).1
  refine ⟨values, bs, rfl, hvalues, hlen, hwidth, htextsWidth, htexts.trans hwritten, ?_, ?_⟩
  · rw [hbs, hentries]
  · rw [hbs, hnext]

variable {b : Builder} {op : String} {rows : List Row} {returning : List Term}

/-- **An insert of accepted rows without a conflict plan**: the rows are bound after the builder's
bindings, and the dialect writes the insert. -/
theorem compileInsert_of_none (hfault : b.fault? = none) (htable : b.table.isEmpty = false)
    {columns : List String} (hcols : rowColumns op rows = .ok columns) (hplan : b.conflict = none) :
    b.compileInsert op rows returning =
      ((b.dialect.insert {
          table := b.table, columns := columns.map Term.name,
          rows := (bindRows columns b.bindings rows).1, returning }).map terminate,
        { b with scope := { b.scope with bindings := (bindRows columns b.bindings rows).2 } }) := by
  unfold compileInsert
  simp only [hfault, htable, hcols, Bool.false_eq_true, ↓reduceIte]
  rw [hplan]

/-- **An insert of accepted rows with a conflict plan**: the rows are bound after the builder's
bindings, then the conflict clause from the builder holding them. The insert is refused where the
clause is, and written by the dialect otherwise; the builder after it is the clause's, whose
bindings hold the rows' and those of the assignments bound, also when one is refused. -/
theorem compileInsert_of_plan (hfault : b.fault? = none) (htable : b.table.isEmpty = false)
    {columns : List String} (hcols : rowColumns op rows = .ok columns) {plan : ConflictPlan}
    (hplan : b.conflict = some plan) :
    b.compileInsert op rows returning =
      let bound : Builder := { b with scope := { b.scope with bindings := (bindRows columns b.bindings rows).2 } }
      (((bound.onConflict plan columns).1.bind fun oc =>
          (bound.onConflict plan columns).2.dialect.insert {
            table := b.table, columns := columns.map Term.name,
            rows := (bindRows columns b.bindings rows).1, conflict := some oc, returning }).map terminate,
        (bound.onConflict plan columns).2) := by
  unfold compileInsert
  simp only [hfault, htable, hcols, Bool.false_eq_true, ↓reduceIte]
  rw [hplan]
  dsimp only
  generalize Builder.onConflict _ plan columns = w
  obtain ⟨_ | oc, b'⟩ := w
  · rfl
  · rfl

/-- **Refused rows stop an insert**, as invalid input, and leave the builder as it was. -/
theorem compileInsert_of_refused (hfault : b.fault? = none) (htable : b.table.isEmpty = false)
    (hrows : RowsRefused rows) :
    ∃ f, b.compileInsert op rows returning = (.error f, b) ∧ f.kind = .invalidInput := by
  obtain ⟨f, hf⟩ := (rowColumns_refused op rows).mpr hrows
  simp only [compileInsert, hfault, htable, Bool.false_eq_true, ↓reduceIte, hf]
  exact ⟨f, rfl, rowColumns_error_kind hf⟩

/-- **A conflict plan that assigns no column stops an insert**, as invalid input, after the rows
are bound. -/
theorem compileInsert_of_blank (hfault : b.fault? = none) (htable : b.table.isEmpty = false)
    {first : Row} {rest : List Row} (hacc : ¬ RowsRefused (first :: rest)) {plan : ConflictPlan}
    (hplan : b.conflict = some plan) (hblank : plan.AssignsBlank first.columns) :
    ∃ f, (b.compileInsert op (first :: rest) returning).1 = .error f ∧ f.kind = .invalidInput := by
  rw [compileInsert_of_plan hfault htable (rowColumns_of_accepted op hacc) hplan]
  rcases onConflict_cases
      { b with scope := { b.scope with bindings := (bindRows first.columns b.bindings (first :: rest)).2 } }
      plan first.columns with ⟨-, e, he, hkind⟩ | ⟨hnot, -⟩
  · refine ⟨e, ?_, hkind⟩
    dsimp only
    rw [he]
    rfl
  · exact absurd hblank hnot

/-- **An insert laid out**: the statement `sql` that `b` writes for rows under `columns`,
returning `returning`, and the builder `b'` after it. The statement is the start of the insert,
whose rows are the cells' texts written from the builder's next free slot on in row-major order,
then `tail` (the conflict clause after a blank, nothing without one), the returned columns and
`;`. The builder after differs from `b` only in its bindings: the builder's, then the cells', then
the conflict clause's, in the slots that follow. -/
structure LaidOut (b : Builder) (rows : List Row) (columns : List String) (returning : List Term)
    (sql : String) (b' : Builder) : Prop where
  written : ∃ texts tail, sql = b.dialect.insertHead b.table columns texts ++ tail ++
      b.dialect.returningTail returning ++ ";" ∧
    texts.length = rows.length ∧ (∀ t ∈ texts, t.length = columns.length) ∧
    texts.flatten = writtenFrom (max b.bindings.next 1) (cellsOf columns rows) ∧
    (b.conflict = none → tail = "")
  builder : b' = { b with scope := { b.scope with bindings := b'.bindings } }
  slots : ∃ extra, b'.bindings.entries =
      b.bindings.entries ++ boundFrom (max b.bindings.next 1) (cellsOf columns rows) ++ extra ∧
    extra.map (·.name) =
      slotRange (max b.bindings.next 1 + (cellsOf columns rows).countP Value.takesSlot)
        (max b'.bindings.next 1) ∧
    max b.bindings.next 1 + (cellsOf columns rows).countP Value.takesSlot ≤ max b'.bindings.next 1 ∧
    (b.conflict = none → extra = [])

/-- **Accepted rows are written**, once the conflict plan names its targets and assigns columns,
and the dialect writes what is returned. -/
theorem compileInsert_laid_out (hfault : b.fault? = none) (htable : b.table.isEmpty = false)
    {first : Row} {rest : List Row} (hacc : ¬ RowsRefused (first :: rest))
    (hplan : ∀ p ∈ b.conflict, p.targets ≠ [] ∧ ¬ p.AssignsBlank first.columns)
    (hret : returning = [] ∨ b.dialect.returning = true) :
    ∃ sql b', b.compileInsert op (first :: rest) returning = (.ok sql, b') ∧
      LaidOut b (first :: rest) first.columns returning sql b' := by
  have hfirst : first ≠ [] := fun h => hacc (.inl h)
  have hcols : first.columns ≠ [] := fun h => hfirst ((Row.columns_eq_nil first).mp h)
  obtain ⟨values, bs, hbind, hvalues, hlen, hwidth, htextsOk, hwritten, hentries, hnext⟩ :=
    bindRows_from b first.columns first rest
  cases hc : b.conflict with
  | none =>
    rw [compileInsert_of_none hfault htable (rowColumns_of_accepted op hacc) hc, hbind]
    dsimp only
    rw [Dialect.insert_text _ htable hcols hvalues hwidth hret]
    refine ⟨_, _, rfl, ⟨⟨values.map (·.map Term.text), "", ?_, by simp [hlen], htextsOk, hwritten,
      fun _ => rfl⟩, ?_, ⟨[], ?_, ?_, ?_, fun _ => rfl⟩⟩⟩
    · simp [terminate]
    · simp [Builder.bindings]
    · rw [List.append_nil]
      exact hentries
    · show [] = slotRange _ (max bs.next 1)
      rw [hnext, slotRange_self]
    · exact hnext.ge
  | some plan =>
    obtain ⟨htargets, hnot⟩ := hplan plan hc
    rw [compileInsert_of_plan hfault htable (rowColumns_of_accepted op hacc) hc, hbind]
    dsimp only
    have hafter := onConflict_snd { b with scope := { b.scope with bindings := bs } } plan first.columns
    rcases onConflict_cases { b with scope := { b.scope with bindings := bs } } plan first.columns
      with ⟨hblank, -⟩ | ⟨-, oc, he, hoc⟩
    · exact absurd hblank hnot
    revert he hafter
    rcases Builder.onConflict _ plan first.columns with ⟨w, b₂⟩
    intro hafter he
    obtain rfl : w = .ok oc := he
    obtain ⟨hb₂, hle, extra, hextra, hnames⟩ := hafter
    dsimp only at hb₂ hle hextra hnames
    have hoc' : oc.targets ≠ [] := by simpa [hoc] using htargets
    obtain ⟨tail, htail⟩ := b.dialect.conflictClause_ok hoc' (first.columns.map Term.name)
    have hdialect : b₂.dialect = b.dialect := by rw [hb₂]
    rw [hdialect]
    dsimp only [Except.bind]
    rw [Dialect.insert_text _ htable hcols hvalues hwidth hret]
    simp only [Option.elim, htail, Except.map]
    simp only [Builder.bindings] at hextra hnames hle
    refine ⟨_, _, rfl, ⟨⟨values.map (·.map Term.text), " " ++ tail, ?_, by simp [hlen], htextsOk,
      hwritten, fun h => by simp [hc] at h⟩, ?_, ⟨extra, ?_, ?_, ?_, fun h => by simp [hc] at h⟩⟩⟩
    · simp [terminate]
    · rw [hb₂]
      simp [Builder.bindings]
    · rw [← hentries]
      exact hextra
    · simp only [Builder.bindings, hnames, hnext]
    · rw [← hnext]
      exact hle

/-- **An insert lays its rows out exactly.** For a builder without a fault, with a table and a
conflict plan (if any) that names its targets, and a dialect that writes what is returned: the
insert is refused, as invalid input, exactly when its rows are refused or its plan assigns no
column. Otherwise its columns are the first row's keys in increasing order, and it writes them and
every row's cells, the cells taking the slots from the next free one on in row-major order, before
any slot of the conflict clause. -/
theorem insert_lays_rows_out (b : Builder) (op : String) (rows : List Row) (returning : List Term)
    (hfault : b.fault? = none) (htable : b.table.isEmpty = false)
    (hplan : ∀ p ∈ b.conflict, p.targets ≠ []) (hret : returning = [] ∨ b.dialect.returning = true) :
    ((∃ f, (b.compileInsert op rows returning).1 = .error f ∧ f.kind = .invalidInput) ↔
      RowsRefused rows ∨ ∃ first ∈ rows.head?, ∃ p ∈ b.conflict, p.AssignsBlank first.columns) ∧
    ∀ first rest, rows = first :: rest → ¬ RowsRefused rows →
      (∀ p ∈ b.conflict, ¬ p.AssignsBlank first.columns) →
      first.columns.Pairwise (· < ·) ∧ (∀ c, c ∈ first.columns ↔ c ∈ first.map Prod.fst) ∧
      ∃ sql b', b.compileInsert op rows returning = (.ok sql, b') ∧
        LaidOut b rows first.columns returning sql b' := by
  have hlaid : ∀ first rest, rows = first :: rest → ¬ RowsRefused rows →
      (∀ p ∈ b.conflict, ¬ p.AssignsBlank first.columns) →
      ∃ sql b', b.compileInsert op rows returning = (.ok sql, b') ∧
        LaidOut b rows first.columns returning sql b' := by
    rintro first rest rfl hacc hnot
    exact compileInsert_laid_out hfault htable hacc (fun p hp => ⟨hplan p hp, hnot p hp⟩) hret
  refine ⟨⟨fun ⟨f, hf, _⟩ => ?_, fun h => ?_⟩, fun first rest hrows hacc hnot =>
    ⟨Row.columns_sorted first, Row.mem_columns first, hlaid first rest hrows hacc hnot⟩⟩
  · refine Classical.byContradiction fun hno => ?_
    simp only [not_or, not_exists, not_and] at hno
    cases rows with
    | nil => exact hno.1 trivial
    | cons first rest =>
      obtain ⟨sql, b', hok, -⟩ := hlaid first rest rfl hno.1 fun p hp => hno.2 first rfl p hp
      rw [hok] at hf
      cases hf
  · rcases h with hrefused | ⟨first, hfirst, p, hp, hblank⟩
    · obtain ⟨f, hf, hkind⟩ : ∃ f, b.compileInsert op rows returning = (.error f, b) ∧
          f.kind = .invalidInput := compileInsert_of_refused hfault htable hrefused
      exact ⟨f, by rw [hf], hkind⟩
    · cases rows with
      | nil => cases hfirst
      | cons first' rest =>
        cases hfirst
        by_cases hrefused : RowsRefused (first :: rest)
        · obtain ⟨f, hf, hkind⟩ : ∃ f, b.compileInsert op (first :: rest) returning = (.error f, b) ∧
              f.kind = .invalidInput := compileInsert_of_refused hfault htable hrefused
          exact ⟨f, by rw [hf], hkind⟩
        · exact compileInsert_of_blank hfault htable hrefused hp hblank

/-- Two rows given in different key orders are laid out under the sorted columns. -/
theorem two_users_rows_laid_out :
    ((Builder.new .postgres).setTable (.text "users")).fault? = none ∧
    ((Builder.new .postgres).setTable (.text "users")).table.isEmpty = false ∧
    (∀ p ∈ ((Builder.new .postgres).setTable (.text "users")).conflict, p.targets ≠ []) ∧
    (([] : List Term) = [] ∨ ((Builder.new .postgres).setTable (.text "users")).dialect.returning = true) ∧
    ∃ sql b', ((Builder.new .postgres).setTable (.text "users")).compileInsert "insert"
        [[("name", .text "Ann"), ("id", .int 1)], [("id", .int 2), ("name", .raw "DEFAULT")]] [] =
          (.ok sql, b') ∧
      LaidOut ((Builder.new .postgres).setTable (.text "users"))
        [[("name", .text "Ann"), ("id", .int 1)], [("id", .int 2), ("name", .raw "DEFAULT")]]
        ["id", "name"] [] sql b' := by
  have hfault : ((Builder.new .postgres).setTable (.text "users")).fault? = none := rfl
  have htable : ((Builder.new .postgres).setTable (.text "users")).table.isEmpty = false := by decide
  have hplan : ∀ p ∈ ((Builder.new .postgres).setTable (.text "users")).conflict, p.targets ≠ [] :=
    fun p hp => nomatch hp
  obtain ⟨-, hlaid⟩ := insert_lays_rows_out _ "insert"
    [[("name", .text "Ann"), ("id", .int 1)], [("id", .int 2), ("name", .raw "DEFAULT")]] []
    hfault htable hplan (.inl rfl)
  have hacc : ¬ RowsRefused [[("name", .text "Ann"), ("id", .int 1)], [("id", .int 2), ("name", .raw "DEFAULT")]] := by
    simp only [RowsRefused, List.map_cons, List.map_nil, List.mem_singleton, exists_eq_left,
      reduceCtorEq, false_or, not_exists, not_not]
    intro c
    simp only [List.mem_cons, List.not_mem_nil, or_false]
    exact or_comm
  obtain ⟨-, -, hwritten⟩ := hlaid _ _ rfl hacc fun p hp => nomatch hp
  exact ⟨hfault, htable, hplan, .inl rfl, hwritten⟩

/-- A cell holding a reference to raw SQL is written as that SQL and takes no slot. -/
theorem raw_reference_cell_takes_no_slot :
    ((Builder.new .postgres).setTable (.text "t")).compileInsert "insert"
        [[("a", .rawRef (some "NOW()"))]] [] =
      (.ok "INSERT INTO \"t\" (\"a\") VALUES (NOW());", (Builder.new .postgres).setTable (.text "t")) := by
  rfl

end Builder
end QueryKit.Query
