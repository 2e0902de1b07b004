import QueryKit.Proofs.Where.Meaning
import QueryKit.Proofs.Marker.Terminal

/-!
# When an update or a delete is written with an empty `WHERE`

An update or a delete without `force` is refused when its condition list has no entries. The
list is written as `WHERE` and its conditions, and a group that reads as nothing is written as
nothing. So the guard and the writing agree except on one shape: a list that has entries, all of
them groups holding, at any depth, only empty groups. Such a list is written as a bare `WHERE`.

* `conditions_eq_empty_iff`: a condition list is written as nothing exactly when it reads as no
  condition;
* `whereClause_eq_bare_iff`: a bare `WHERE` is written exactly for that shape, and
  `where_guard_exact` says when each statement writes one;
* `Entry.Solid`, `Scope.solid_apply` and `Builder.solid_chain`: the builder never builds that
  shape, since a group is dropped when its calls added nothing, so its updates and deletes
  without `force` always carry a condition (`Builder.mutation_has_condition`);
* `nested_empty_group_deletes_unguarded`: a delete of that shape, built by hand.
-/

namespace QueryKit.Sql

/-! ## Written text of a condition list -/

theorem intercalate_eq_empty_iff {ps : List String} (h : ∀ p ∈ ps, p ≠ "") :
    " ".intercalate ps = "" ↔ ps = [] := by
  cases ps with
  | nil => simp
  | cons p rest =>
    simp only [reduceCtorEq, iff_false]
    intro hempty
    apply h p (List.mem_cons_self ..)
    cases rest with
    | nil => simpa [String.intercalate_singleton] using hempty
    | cons q more =>
      rw [String.intercalate_cons_of_ne_nil (by simp), String.append_eq_empty_iff,
        String.append_eq_empty_iff] at hempty
      exact hempty.1.1

theorem comparison_ne_empty (d : Dialect) (l r : Term) (op : String) :
    d.term l ++ " " ++ op ++ " " ++ d.term r ≠ "" := by
  simp [String.append_eq_empty_iff]

/-- Every written entry is some text. -/
theorem parts_ne_empty (d : Dialect) :
    ∀ (first : Bool) (es : List Entry), ∀ p ∈ d.parts first es, p ≠ ""
  | _, [] => by simp [Dialect.parts]
  | first, .compare l op r conj :: rest => by
    simp only [Dialect.parts, List.mem_cons]
    rintro p (rfl | hp)
    · cases first
      · simp [String.append_eq_empty_iff]
      · exact comparison_ne_empty d l r op
    · exact parts_ne_empty d false rest p hp
  | first, .group inner conj :: rest => by
    simp only [Dialect.parts]
    split
    · exact parts_ne_empty d first rest
    · simp only [List.mem_cons]
      rintro p (rfl | hp)
      · cases first <;> simp [parenthesize, String.append_eq_empty_iff]
      · exact parts_ne_empty d false rest p hp

/-- **Nothing is written exactly for a list that reads as no condition**, whichever entry is
written first: a group's text is empty exactly when its entries read as nothing. -/
theorem parts_eq_nil_iff (d : Dialect) :
    ∀ (first : Bool) (es : List Entry), d.parts first es = [] ↔ Entry.readingAll es = []
  | _, [] => by simp [Dialect.parts, Entry.readingAll]
  | _, .compare .. :: _ => by simp [Dialect.parts, Entry.readingAll, Entry.read]
  | first, .group inner conj :: rest => by
    have hinner : (" ".intercalate (d.parts true inner)).isEmpty =
        (Entry.readingAll inner).isEmpty := by
      rw [Bool.eq_iff_iff, String.isEmpty_iff, intercalate_eq_empty_iff (parts_ne_empty d true inner),
        parts_eq_nil_iff d true inner, List.isEmpty_iff]
    simp only [Dialect.parts, Entry.readingAll, Entry.read, hinner]
    split
    · simpa using parts_eq_nil_iff d first rest
    · simp

/-- **A condition list is written as nothing** exactly when it reads as no condition. -/
theorem conditions_eq_empty_iff (d : Dialect) (es : List Entry) :
    d.conditions es = "" ↔ Entry.readingAll es = [] := by
  rw [Dialect.conditions, intercalate_eq_empty_iff (parts_ne_empty d true es), parts_eq_nil_iff]

/-! ## The `WHERE` clause -/

theorem whereClause_eq_empty_iff (d : Dialect) (c : Clause) :
    d.whereClause c = "" ↔ c.entries = [] := by
  unfold Dialect.whereClause Clause.isEmpty
  split
  · rename_i hempty
    simpa using hempty
  · rename_i hempty
    simp only [String.append_eq_empty_iff]
    simpa using hempty

theorem whereClause_of_ne_nil (d : Dialect) {c : Clause} (h : c.entries ≠ []) :
    d.whereClause c = "WHERE " ++ d.conditions c.entries := by
  unfold Dialect.whereClause Clause.isEmpty
  rw [if_neg (by simpa using h)]

/-- **A bare `WHERE`** is written exactly for a list that has entries and reads as no condition. -/
theorem whereClause_eq_bare_iff (d : Dialect) (c : Clause) :
    d.whereClause c = "WHERE " ↔ c.entries ≠ [] ∧ Entry.readingAll c.entries = [] := by
  by_cases hnil : c.entries = []
  · have hempty : d.whereClause c = "" := (whereClause_eq_empty_iff d c).mpr hnil
    simp [hempty, hnil]
  · rw [whereClause_of_ne_nil d hnil, String.append_eq_left_iff, conditions_eq_empty_iff]
    simp [hnil]

/-! ## Statements -/

namespace Segments

theorem append_single_text {w : Segments} {s : String} (hw : w.parts ≠ []) (hs : s ≠ "") :
    (w.append [s]).text = w.text ++ " " ++ s := by
  have hkeep : [s].filter (fun s => !s.isEmpty) = [s] := by
    simp [hs]
  simp only [append, text, hkeep]
  rw [String.intercalate_append_of_ne_nil hw (by simp), String.intercalate_singleton]

theorem parts_append_ne_nil {w : Segments} (hw : w.parts ≠ []) (segs : List String) :
    (w.append segs).parts ≠ [] := by
  simp [append, hw]

end Segments

theorem Delete.entries_of_guard {x : Delete} (hforce : x.force = false) {u : Unit}
    (h : x.guard = .ok u) : x.conditions.entries ≠ [] := by
  unfold Delete.guard at h
  split at h
  · cases h
  · rename_i hsafe
    simpa [Clause.isEmpty, hforce] using hsafe

theorem Update.entries_of_guard {x : Update} (hforce : x.force = false) {u : Unit}
    (h : x.guard = .ok u) : x.conditions.entries ≠ [] := by
  unfold Update.guard at h
  split at h
  · cases h
  · rename_i hsafe
    simpa [Clause.isEmpty, hforce] using hsafe

/-- A writer that ends with a list that has entries writes `WHERE` and its conditions last. -/
theorem ends_with_where (d : Dialect) {w : Segments} (hw : w.parts ≠ []) {c : Clause}
    (hc : c.entries ≠ []) :
    (w.append [d.whereClause c]).text = w.text ++ " WHERE " ++ d.conditions c.entries := by
  rw [Segments.append_single_text hw (by simp [whereClause_of_ne_nil d hc, String.append_eq_empty_iff]),
    whereClause_of_ne_nil d hc]
  have hlead : " " ++ ("WHERE " ++ d.conditions c.entries) = " WHERE " ++ d.conditions c.entries := by
    rw [← String.append_assoc]
    rfl
  rw [String.append_assoc, hlead, ← String.append_assoc]

/-- **A delete without `force`** has condition entries, and ends with `WHERE` and its
conditions. -/
theorem delete_where (d : Dialect) {x : Delete} {q : String} (hforce : x.force = false)
    (h : d.delete x = .ok q) :
    x.conditions.entries ≠ [] ∧ ∃ pre, q = pre ++ " WHERE " ++ d.conditions x.conditions.entries := by
  unfold Dialect.delete at h
  obtain ⟨_, hguard, h⟩ := exists_of_bind_eq_ok h
  have hentries := Delete.entries_of_guard hforce hguard
  extract_lets w₁ w₂ finish at h
  split at h
  · cases h
  dsimp only [finish] at h
  cases h
  have hw : w₂.parts ≠ [] := Segments.parts_append_ne_nil (by simp [w₁, Segments.ofList, Segments.append]) _
  exact ⟨hentries, w₂.text, ends_with_where d hw hentries⟩

/-- **An update without `force`** has condition entries, and ends with `WHERE` and its
conditions. -/
theorem update_where (d : Dialect) {u : Update} {q : String} (hforce : u.force = false)
    (h : d.update u = .ok q) :
    u.conditions.entries ≠ [] ∧ ∃ pre, q = pre ++ " WHERE " ++ d.conditions u.conditions.entries := by
  unfold Dialect.update at h
  obtain ⟨_, hguard, h⟩ := exists_of_bind_eq_ok h
  have hentries := Update.entries_of_guard hforce hguard
  extract_lets w₁ w₂ finish afterTable at h
  split at h
  · cases h
  dsimp only [afterTable] at h
  split at h
  · cases h
  dsimp only [finish] at h
  cases h
  have hw : w₂.parts ≠ [] := Segments.parts_append_ne_nil (by simp [w₁, Segments.ofList, Segments.append]) _
  exact ⟨hentries, w₂.text, ends_with_where d hw hentries⟩

namespace Entry

/-- **A list whose every entry reads as a condition**: no group in it holds, at any depth, only
groups that read as nothing. -/
def Solid (es : List Entry) : Prop := ∀ e ∈ es, read e ≠ []

theorem Solid.readingAll_ne_nil {es : List Entry} (h : Solid es) (hne : es ≠ []) :
    readingAll es ≠ [] := by
  cases es with
  | nil => exact absurd rfl hne
  | cons e rest =>
    simp only [readingAll, ne_eq, List.append_eq_nil_iff, not_and]
    exact fun he => absurd he (h e (List.mem_cons_self ..))

/-- A list of conditions that has entries is written as some text. -/
theorem Solid.conditions_ne_empty (d : Dialect) {es : List Entry} (h : Solid es) (hne : es ≠ []) :
    d.conditions es ≠ "" :=
  fun hempty => h.readingAll_ne_nil hne ((conditions_eq_empty_iff d es).mp hempty)

theorem Solid.append {es es' : List Entry} (h : Solid es) (h' : Solid es') : Solid (es ++ es') := by
  intro e he
  rcases List.mem_append.mp he with he | he
  · exact h e he
  · exact h' e he

theorem solid_compare (l : Term) (op : String) (r : Term) (conj : Conjunction) :
    Solid [.compare l op r conj] := by
  simp [Solid, read]

theorem solid_group {inner : List Entry} (h : Solid inner) (hne : inner ≠ []) (conj : Conjunction) :
    Solid [.group inner conj] := by
  simp [Solid, read, h.readingAll_ne_nil hne]

end Entry

end QueryKit.Sql

namespace QueryKit.Query

open Sql

namespace Scope

theorem solid_condition (s : Scope) (conj : Conjunction) (column : Value) (op : String)
    (right : Bindings → Term × Bindings) (h : Entry.Solid s.clause.entries) :
    Entry.Solid (s.condition conj column op right).clause.entries := by
  unfold condition
  split
  · simpa using h
  · exact h.append (Entry.solid_compare _ _ _ _)

/-- **Condition calls keep every entry a condition**: a group is added only when its calls added
entries, and those entries, which the group's calls add to none, are conditions by the same
token. -/
theorem solid_apply (op : String) :
    (∀ (s : Scope) (c : Cond), Entry.Solid s.clause.entries →
      Entry.Solid (c.apply op s).clause.entries) ∧
    (∀ (s : Scope) (calls : List Cond), Entry.Solid s.clause.entries →
      Entry.Solid (Cond.applyAll op s calls).clause.entries) := by
  refine Cond.apply.mutual_induct op
    (fun s c => Entry.Solid s.clause.entries → Entry.Solid (c.apply op s).clause.entries)
    (fun s calls => Entry.Solid s.clause.entries →
      Entry.Solid (Cond.applyAll op s calls).clause.entries)
    ?compare ?columns ?like ?isIn ?isNull ?between ?groupNone ?group ?nil ?cons
  case compare =>
    intro s conj c o v h
    simp only [Cond.apply, compare]
    split
    · simpa using h
    · exact solid_condition s _ _ _ _ h
  case columns =>
    intro s conj a o b h
    simp only [Cond.apply, columns]
    split
    · simpa using h
    · split
      · simpa using h
      · exact solid_condition s _ _ _ _ h
  case like =>
    intro s conj c neg p h
    exact solid_condition s _ _ _ _ h
  case isIn =>
    intro s conj c neg vs h
    simp only [Cond.apply, isIn]
    by_cases hempty : vs.elements.isEmpty = true
    · rw [if_pos hempty]
      cases neg
      · simp only [Bool.false_eq_true, ↓reduceIte, beq_self_eq_true]
        exact h.append (Entry.solid_compare _ _ _ _)
      · have hne : ("NOT IN" == "IN") = false := by decide
        simp only [↓reduceIte, hne, Bool.false_eq_true]
        exact h
    · rw [if_neg hempty]
      exact solid_condition s _ _ _ _ h
  case isNull =>
    intro s conj c neg h
    exact solid_condition s _ _ _ _ h
  case between =>
    intro s conj c neg l hi h
    exact solid_condition s _ _ _ _ h
  case groupNone =>
    intro s conj h
    simpa [Cond.apply, group] using h
  case group =>
    intro s conj calls ih h
    have hsub := ih { bindings := s.bindings } (by simp [Entry.Solid])
    simp only [Cond.apply, group]
    have hclause : ∀ s' : Scope, s'.clause = s.clause →
        Entry.Solid (s'.clause.addGroup (Cond.applyAll op { bindings := s.bindings } calls).clause.entries
          conj).entries := by
      intro s' hs'
      unfold Clause.addGroup
      split
      · rw [hs']
        exact h
      · rename_i hne
        rw [hs']
        exact h.append (Entry.solid_group hsub (by simpa using hne) conj)
    split <;> exact hclause _ (by simp)
  case nil =>
    intro s h
    exact h
  case cons =>
    intro s c rest ih₁ ih₂ h
    exact ih₂ (ih₁ h)

end Scope

namespace Builder

@[simp] theorem fail_scope (b : Builder) (f : Fault) : (b.fail f).scope = b.scope := by
  unfold fail
  split <;> rfl

/-- **A join keeps the `WHERE` list**: only the bindings its calls made pass to the statement's
scope. -/
theorem joinWith_clause (b : Builder) (kind : String) (table : Value)
    (build : Option (Scope → Scope)) :
    (b.joinWith kind table build).scope.clause = b.scope.clause := by
  unfold joinWith
  split
  · simp
  · dsimp only
    split
    · simp
    · split
      · simp
      · split <;> simp

end Builder

namespace Call

/-- **Only a condition call changes the `WHERE` list**; every other call keeps it, refused or
not. -/
theorem apply_clause (b : Builder) {c : Call} (hc : ∀ w, c ≠ .cond w) :
    (c.apply b).scope.clause = b.scope.clause := by
  cases c with
  | cond w => exact absurd rfl (hc w)
  | table t =>
    simp only [apply, Builder.setTable]
    split <;> simp
  | select cols =>
    simp only [apply, Builder.select]
    split <;> simp
  | orderBy column direction =>
    simp only [apply, Builder.order]
    split
    · simp
    · split <;> simp
  | limit n =>
    simp only [apply, Builder.setLimit]
    split <;> simp
  | offset n =>
    simp only [apply, Builder.setOffset]
    split <;> simp
  | onConflictDoNothing cols =>
    simp only [apply, Builder.onConflictDoNothing]
    split <;> simp
  | onConflictDoUpdate cols assignments =>
    simp only [apply, Builder.onConflictDoUpdate]
    split <;> simp
  | joinOfType kind table calls =>
    simp only [apply, Builder.joinOfType]
    split
    · simp
    · exact Builder.joinWith_clause ..
  | join kind table first op second => exact Builder.joinWith_clause ..
  | joinWith kind table calls => exact Builder.joinWith_clause ..
  | distinct => rfl
  | force => rfl

/-- **Every call keeps every `WHERE` entry a condition**: condition calls by `Scope.solid_apply`,
the others by keeping the list. -/
theorem solid_apply (b : Builder) (c : Call) (h : Entry.Solid b.scope.clause.entries) :
    Entry.Solid (c.apply b).scope.clause.entries := by
  by_cases hc : ∃ w, c = .cond w
  · obtain ⟨w, rfl⟩ := hc
    exact (Scope.solid_apply "where").1 b.scope w h
  · rw [apply_clause b (fun w hw => hc ⟨w, hw⟩)]
    exact h

theorem solid_applyAll : ∀ (calls : List Call) (b : Builder), Entry.Solid b.scope.clause.entries →
    Entry.Solid (applyAll b calls).scope.clause.entries
  | [], _, h => h
  | c :: rest, b, h => solid_applyAll rest (c.apply b) (solid_apply b c h)

end Call

namespace Builder

/-- **A builder's `WHERE` entries are all conditions**, after any chain of calls. -/
theorem solid_chain (d : Dialect) (logging : Bool) (calls : List Call) :
    Entry.Solid (Call.applyAll (Builder.new d logging) calls).scope.clause.entries :=
  Call.solid_applyAll calls _ (by simp [Entry.Solid, Builder.new])

/-- A delete the builder writes without `force` ends with `WHERE` and some text, then `;`. -/
theorem compileDelete_guarded {b : Builder} (hsolid : Entry.Solid b.scope.clause.entries)
    (hforce : b.force = false) {q : String} (h : b.compileDelete = .ok q) :
    ∃ pre p, p ≠ "" ∧ q = pre ++ " WHERE " ++ p ++ ";" := by
  unfold compileDelete at h
  split at h
  · cases h
  split at h
  · cases h
  obtain ⟨q₀, hq₀, rfl⟩ := exists_of_map_eq_ok h
  obtain ⟨hne, pre, rfl⟩ := delete_where b.dialect hforce hq₀
  exact ⟨pre, _, hsolid.conditions_ne_empty b.dialect hne, rfl⟩

/-- An update the builder writes without `force` ends with `WHERE` and some text, then `;`. -/
theorem compileUpdate_guarded {b : Builder} (hsolid : Entry.Solid b.scope.clause.entries)
    (hforce : b.force = false) {values : Row} {q : String} {b' : Builder}
    (h : b.compileUpdate values = (.ok q, b')) :
    ∃ pre p, p ≠ "" ∧ q = pre ++ " WHERE " ++ p ++ ";" := by
  unfold compileUpdate at h
  split at h
  · cases h
  split at h
  · cases h
  extract_lets sets at h
  split at h
  · cases h
  obtain ⟨q₀, hq₀, rfl⟩ := exists_of_map_eq_ok (Prod.mk.inj h).1
  obtain ⟨hne, pre, rfl⟩ := update_where b.dialect hforce hq₀
  exact ⟨pre, _, hsolid.conditions_ne_empty b.dialect hne, rfl⟩

/-- **The builder never writes an unguarded mutation**: after any chain of calls that leaves
`force` off, an update or a delete it writes ends with `WHERE` and a non-empty predicate. -/
theorem mutation_has_condition (d : Dialect) (logging : Bool) (calls : List Call)
    (hforce : (Call.applyAll (Builder.new d logging) calls).force = false) :
    (∀ q, (Call.applyAll (Builder.new d logging) calls).compileDelete = .ok q →
      ∃ pre p, p ≠ "" ∧ q = pre ++ " WHERE " ++ p ++ ";") ∧
    (∀ values q b', (Call.applyAll (Builder.new d logging) calls).compileUpdate values = (.ok q, b') →
      ∃ pre p, p ≠ "" ∧ q = pre ++ " WHERE " ++ p ++ ";") :=
  ⟨fun _ h => compileDelete_guarded (solid_chain d logging calls) hforce h,
    fun _ _ _ h => compileUpdate_guarded (solid_chain d logging calls) hforce h⟩

end Builder

/-! ## The exact condition -/

/-- **When the `WHERE` a statement writes has no condition after it.** `WHERE` is written as
nothing exactly when the list reads as no condition, and otherwise as `WHERE` and a non-empty
predicate, for every list that is not made of entries reading as nothing; for those lists only,
a delete or an update without `force` writes `WHERE` with an empty predicate; and no chain of
builder calls makes such a list. -/
theorem where_guard_exact (d : Dialect) :
    (∀ c : Clause, ((d.whereClause c = "" ↔ Entry.readingAll c.entries = []) ∧
        (d.whereClause c ≠ "" → ∃ p, p ≠ "" ∧ d.whereClause c = "WHERE " ++ p)) ↔
      ¬ (c.entries ≠ [] ∧ Entry.readingAll c.entries = [])) ∧
    (∀ (x : Delete) (q : String), x.force = false → d.delete x = .ok q →
      ∃ pre, q = pre ++ " WHERE " ++ d.conditions x.conditions.entries ∧
        (d.conditions x.conditions.entries = "" ↔ Entry.readingAll x.conditions.entries = [])) ∧
    (∀ (u : Update) (q : String), u.force = false → d.update u = .ok q →
      ∃ pre, q = pre ++ " WHERE " ++ d.conditions u.conditions.entries ∧
        (d.conditions u.conditions.entries = "" ↔ Entry.readingAll u.conditions.entries = [])) ∧
    (∀ (logging : Bool) (calls : List Call),
      let es := (Call.applyAll (Builder.new d logging) calls).scope.clause.entries
      ¬ (es ≠ [] ∧ Entry.readingAll es = [])) := by
  refine ⟨fun c => ?_, fun x q hforce h => ?_, fun u q hforce h => ?_, fun logging calls => ?_⟩
  · by_cases hnil : c.entries = []
    · have hempty : d.whereClause c = "" := (whereClause_eq_empty_iff d c).mpr hnil
      simp [hempty, hnil, Entry.readingAll]
    · rw [whereClause_of_ne_nil d hnil]
      have hwritten : "WHERE " ++ d.conditions c.entries ≠ "" := by
        simp [String.append_eq_empty_iff]
      constructor
      · rintro ⟨hiff, -⟩ ⟨-, hread⟩
        exact hwritten (hiff.mpr hread)
      · intro hsolid
        have hread : Entry.readingAll c.entries ≠ [] := fun h => hsolid ⟨hnil, h⟩
        refine ⟨⟨fun h => absurd h hwritten, fun h => absurd h hread⟩, fun _ => ?_⟩
        exact ⟨_, fun h => hread ((conditions_eq_empty_iff d _).mp h), rfl⟩
  · obtain ⟨-, pre, hq⟩ := delete_where d hforce h
    exact ⟨pre, hq, conditions_eq_empty_iff d _⟩
  · obtain ⟨-, pre, hq⟩ := update_where d hforce h
    exact ⟨pre, hq, conditions_eq_empty_iff d _⟩
  · intro es hbare
    exact (Builder.solid_chain d logging calls).readingAll_ne_nil hbare.1 hbare.2

/-- **A delete without `force` that writes `WHERE` with nothing after it**: a group that holds
only an empty group is an entry, so the guard passes, the table is named, so the delete is written,
and the group reads as no condition, so it is written as nothing. -/
theorem nested_empty_group_deletes_unguarded :
    let x : Delete := { table := .name "t", conditions := ⟨[.group [.group [] .and] .and]⟩ }
    Entry.readingAll x.conditions.entries = [] ∧ Dialect.mysql.whereClause x.conditions = "WHERE " ∧
      ∃ pre, Dialect.mysql.delete x = .ok (pre ++ " WHERE ") := by
  intro x
  have hread : Entry.readingAll x.conditions.entries = [] := by decide
  have hne : x.conditions.entries ≠ [] := by simp [x]
  refine ⟨hread, (whereClause_eq_bare_iff _ _).mpr ⟨hne, hread⟩, ?_⟩
  have hwritten : ∃ q, Dialect.mysql.delete x = .ok q := by
    have htable : x.table.isEmpty = false := by decide
    unfold Dialect.delete
    simp only [htable, Bool.false_eq_true, if_false]
    exact ⟨_, rfl⟩
  obtain ⟨q, hq⟩ := hwritten
  obtain ⟨-, pre, rfl⟩ := delete_where Dialect.mysql rfl hq
  rw [(conditions_eq_empty_iff _ _).mpr hread, String.append_empty] at hq
  exact ⟨pre, hq⟩

end QueryKit.Query
