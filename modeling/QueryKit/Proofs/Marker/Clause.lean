import QueryKit.Proofs.Marker.Slot
import QueryKit.Query.Call

/-!
# Condition lists carry exactly the slots their calls bound

A condition call binds its values into the statement's bindings and appends one entry, or none,
to its list. The entry it appends carries the markers of exactly the slots it bound, and a
group carries those of its calls. So a run of condition calls, however nested, leaves a list
whose written text is read as the slots numbered during the run, in order:

* `EntriesRead d es ns` reads a condition list entry by entry, and `EntriesRead.parts` shows the
  written entries are read so;
* `Scope.Grows d s s'` says the calls from `s` to `s'` appended entries read as the slots bound
  in between, and nothing else;
* `Scope.grows_apply` proves it of every call whose values are no raw SQL (`Cond.noRaw`), by
  induction on calls and groups, failing calls included: they bind nothing and add nothing.
-/

namespace QueryKit.Sql

/-- **A condition list read as slot names**: each comparison as its two sides around a plain
operator, each group as its own list. -/
inductive EntriesRead (d : Dialect) : List Entry → List String → Prop
  | nil : EntriesRead d [] []
  | compare {l r : Term} {op : String} {c : Conjunction} {rest : List Entry}
      {nl nr ns : List String} :
      Reads (d.term l).toList nl isBreak → (∀ x ∈ op.toList, isPlain x = true) →
      Reads (d.term r).toList nr isBreak → EntriesRead d rest ns →
      EntriesRead d (.compare l op r c :: rest) (nl ++ nr ++ ns)
  | group {inner rest : List Entry} {c : Conjunction} {ni ns : List String} :
      EntriesRead d inner ni → EntriesRead d rest ns →
      EntriesRead d (.group inner c :: rest) (ni ++ ns)

namespace EntriesRead

variable {d : Dialect}

theorem names_nil {ns : List String} (h : EntriesRead d [] ns) : ns = [] := by
  cases h; rfl

theorem append {xs ys : List Entry} {ns ms : List String} (hx : EntriesRead d xs ns)
    (hy : EntriesRead d ys ms) : EntriesRead d (xs ++ ys) (ns ++ ms) := by
  induction hx with
  | nil => simpa using hy
  | compare hl hop hr _ ih => simpa [List.append_assoc] using EntriesRead.compare hl hop hr ih
  | group hi _ _ ih => simpa [List.append_assoc] using EntriesRead.group hi ih

end EntriesRead

/-- A joiner keyword before an entry is read as nothing. -/
theorem reads_joined (c : Conjunction) {s : String} {ns : List String} (h : Reads s.toList ns isBreak) :
    Reads (c.keyword ++ " " ++ s).toList ns isBreak := by
  have hkw : ∀ x ∈ (c.keyword ++ " ").toList, isPlain x = true := by cases c <;> decide
  simpa using Reads.after_plain hkw h

/-- **A written comparison** is read as its two sides. -/
theorem reads_comparison (d : Dialect) {l r : Term} {op : String} {nl nr : List String}
    (hl : Reads (d.term l).toList nl isBreak) (hop : ∀ x ∈ op.toList, isPlain x = true)
    (hr : Reads (d.term r).toList nr isBreak) :
    Reads (d.term l ++ " " ++ op ++ " " ++ d.term r).toList (nl ++ nr) isBreak := by
  have hplain : ∀ x ∈ (op ++ " ").toList, isPlain x = true := by
    intro x hx
    rcases (by simpa using hx : x ∈ op.toList ∨ x = ' ') with hx | rfl
    · exact hop x hx
    · decide
  simpa [List.append_assoc] using hl.spaced (Reads.after_plain hplain hr)

theorem reads_parenthesize {s : String} {ns : List String} (h : Reads s.toList ns isBreak) :
    Reads (parenthesize s).toList ns isBreak := by
  have hclose : Reads [')'] [] (fun _ => true) := reads_plain (by decide)
  have hinner := h.append hclose (fun _ _ => by simp [Follows]; decide)
  have hall : Reads ('(' :: (s.toList ++ [')'])) (ns ++ []) isBreak :=
    (Reads.after_plain (p := ['(']) (by decide) hinner).mono (fun _ _ => rfl)
  simpa [parenthesize] using hall

/-- **The written entries are read as the list's names**, whichever entry is written first: a
group that writes nothing carries no slot. -/
theorem EntriesRead.parts {d : Dialect} {es : List Entry} {ns : List String}
    (h : EntriesRead d es ns) (first : Bool) :
    ReadsEach ((d.parts first es).map String.toList) ns := by
  induction h generalizing first with
  | nil => simpa [Dialect.parts] using ReadsEach.nil
  | @compare l r op c rest nl nr ns hl hop hr _ ih =>
    have hs := reads_comparison d hl hop hr
    simp only [Dialect.parts, List.map_cons]
    refine ReadsEach.cons ?_ (ih false)
    cases first
    · exact reads_joined c hs
    · exact hs
  | @group inner rest c ni ns hi _ ihi ih =>
    have htext : Reads (" ".intercalate (d.parts true inner)).toList ni isBreak := by
      simpa using Reads.intercalate (c := ' ') (t := []) rfl (by decide) (by decide) (ihi true)
    simp only [Dialect.parts]
    split
    · rename_i hempty
      have hnil : ni = [] := Reads.names_nil (by simpa [String.isEmpty_iff.mp hempty] using htext)
      simpa [hnil] using ih first
    · simp only [List.map_cons]
      refine ReadsEach.cons ?_ (ih false)
      cases first
      · exact reads_joined c (reads_parenthesize htext)
      · exact reads_parenthesize htext

/-- **A written condition list** is read as its names. -/
theorem EntriesRead.conditions {d : Dialect} {es : List Entry} {ns : List String}
    (h : EntriesRead d es ns) : Reads (d.conditions es).toList ns isBreak := by
  simpa [Dialect.conditions] using
    Reads.intercalate (c := ' ') (t := []) rfl (by decide) (by decide) (h.parts true)

/-- A term of a value that is no raw SQL is a name. -/
theorem Term.raw_of_ofValue {v : Value} {t : Term} (hv : v.rawSql? = none)
    (h : Term.ofValue v = .ok t) : t.raw = false := by
  cases v with
  | text s =>
    simp only [Term.ofValue, Term.name, Except.ok.injEq] at h
    subst h
    rfl
  | rawRef sql => cases sql <;> simp_all [Term.ofValue, Value.rawSql?]
  | _ => simp_all [Term.ofValue, Value.rawSql?]

theorem reads_term_name {d : Dialect} (hq : isQuoteChar d.quote = true) {t : Term}
    (ht : t.raw = false) : Reads (d.term t).toList [] isBreak := by
  simpa [Dialect.term, ht, Dialect.quoteName] using reads_quoteName hq t.text

theorem plain_of_checkOperator {op : String} (h : checkOperator op = .ok ()) :
    ∀ x ∈ op.toList, isPlain x = true := by
  unfold checkOperator at h
  split at h
  · rename_i hmem
    simp only [comparisonOperators, List.contains_iff_mem, List.mem_cons, List.not_mem_nil,
      or_false] at hmem
    rcases hmem with rfl | rfl | rfl | rfl | rfl | rfl <;> decide
  · cases h

end QueryKit.Sql

namespace QueryKit.Query

open Sql

/-! ## Calls that bind only values -/

mutual

/-- **A condition call whose values are all bound**: no column, value or list item is raw
SQL, in the call or in the calls of its group. -/
def Cond.noRaw : Cond → Bool
  | .compare _ c _ v => c.noRaw && v.noRaw
  | .columns _ a _ b => a.noRaw && b.noRaw
  | .like _ c _ p => c.noRaw && p.noRaw
  | .isIn _ c _ vs => c.noRaw && vs.noRaw
  | .isNull _ c _ => c.noRaw
  | .between _ c _ l h => c.noRaw && l.noRaw && h.noRaw
  | .group _ none => true
  | .group _ (some calls) => Cond.allNoRaw calls

/-- Condition calls whose values are all bound. -/
def Cond.allNoRaw : List Cond → Bool
  | [] => true
  | c :: rest => c.noRaw && Cond.allNoRaw rest

end

namespace Scope

/-! ## Scopes grown by bound slots -/

@[simp] theorem fail_bindings (s : Scope) (f : Fault) : (s.fail f).bindings = s.bindings := by
  unfold fail; split <;> rfl

@[simp] theorem fail_clause (s : Scope) (f : Fault) : (s.fail f).clause = s.clause := by
  unfold fail; split <;> rfl

/-- **A scope grown by bound slots**: from `s` to `s'` the bindings grew by numbered slots, and
the condition list by entries read as exactly those slots. -/
def Grows (d : Dialect) (s s' : Scope) : Prop :=
  Bindings.Grown s.bindings s'.bindings ∧
    ∃ added, s'.clause.entries = s.clause.entries ++ added ∧
      EntriesRead d added (slotRange s.bindings.next s'.bindings.next)

variable {d : Dialect}

theorem Grows.of_eq {s s' : Scope} (hb : s'.bindings = s.bindings) (hc : s'.clause = s.clause) :
    Grows d s s' :=
  ⟨hb ▸ Bindings.Grown.refl _, [], by simp [hc], by simpa [hb] using EntriesRead.nil⟩

theorem Grows.trans {s₁ s₂ s₃ : Scope} (h₁ : Grows d s₁ s₂) (h₂ : Grows d s₂ s₃) :
    Grows d s₁ s₃ := by
  obtain ⟨hg₁, a₁, he₁, hr₁⟩ := h₁
  obtain ⟨hg₂, a₂, he₂, hr₂⟩ := h₂
  refine ⟨hg₁.trans hg₂, a₁ ++ a₂, by simp [he₂, he₁], ?_⟩
  rw [← slotRange_append hg₁.1 hg₂.1]
  exact hr₁.append hr₂

theorem Grows.next_le {s s' : Scope} (h : Grows d s s') : s.bindings.next ≤ s'.bindings.next :=
  h.1.1

theorem grows_fail (s : Scope) (f : Fault) : Grows d s (s.fail f) :=
  Grows.of_eq (fail_bindings s f) (fail_clause s f)

/-- **A right side read as the slots it bound**: from bindings `b` it gives a term read as the
slots from `b.next` to before the next slot of its bindings. -/
def RightReads (d : Dialect) (b : Bindings) (out : Term × Bindings) : Prop :=
  Bindings.Grown b out.2 ∧ Reads (d.term out.1).toList (slotRange b.next out.2.next) isBreak

/-- **One comparison**: a column that is a name, a plain operator and a right side read as its
slots append one entry read as those slots; a refused column changes nothing. -/
theorem grows_condition (hq : isQuoteChar d.quote = true) (s : Scope) (conj : Conjunction)
    {column : Value} {op : String} {right : Bindings → Term × Bindings}
    (hcol : column.rawSql? = none) (hop : ∀ x ∈ op.toList, isPlain x = true)
    (hr : RightReads d s.bindings (right s.bindings)) :
    Grows d s (s.condition conj column op right) := by
  unfold condition
  split
  · exact grows_fail s _
  · rename_i left hleft
    rcases hrb : right s.bindings with ⟨r, b⟩
    rw [hrb] at hr
    obtain ⟨hgrown, hread⟩ := hr
    refine ⟨hgrown, [.compare left op r conj], rfl, ?_⟩
    simpa using EntriesRead.compare (reads_term_name hq (Term.raw_of_ofValue hcol hleft)) hop
      hread EntriesRead.nil

theorem rightReads_name (hq : isQuoteChar d.quote = true) {t : Term} (ht : t.raw = false)
    (b : Bindings) : RightReads d b (t, b) :=
  ⟨Bindings.Grown.refl b, by simpa using reads_term_name hq ht⟩

theorem reads_term_plain {text : String} (ht : ∀ x ∈ text.toList, isPlain x = true) :
    Reads (d.term (Term.sql text)).toList [] isBreak := by
  simpa [Dialect.term, Term.sql] using (reads_plainText ht).mono (fun _ _ => rfl)

theorem rightReads_plain {text : String} (ht : ∀ x ∈ text.toList, isPlain x = true)
    (b : Bindings) : RightReads d b (Term.sql text, b) :=
  ⟨Bindings.Grown.refl b, by simpa using reads_term_plain ht⟩

theorem rightReads_addTerm {v : Value} (hv : v.rawSql? = none) {b : Bindings} (hb : 1 ≤ b.next) :
    RightReads d b (b.addTerm v) := by
  refine ⟨Bindings.Grown.add hv hb, ?_⟩
  simp only [Bindings.addTerm, Bindings.add_of_rawSql_none hv hb]
  simpa [Dialect.term, Term.sql, slotRange] using reads_slot b.next

/-- Binding a list of values gives consecutive markers and grows the bindings by their slots. -/
theorem addAll_of_rawSql_none (items : List Value) (hv : ∀ v ∈ items, v.rawSql? = none) :
    ∀ (b : Bindings), 1 ≤ b.next →
      (addAll b items).1 = (List.range' b.next items.length).map (fun i => ":" ++ slotName i) ∧
        (addAll b items).2.next = b.next + items.length ∧ Bindings.Grown b (addAll b items).2 := by
  induction items with
  | nil => intro b _; exact ⟨rfl, rfl, Bindings.Grown.refl b⟩
  | cons v rest ih =>
    intro b hb
    have hv₀ : v.rawSql? = none := hv v (List.mem_cons_self ..)
    obtain ⟨hms, hnext, hgrown⟩ :=
      ih (fun x hx => hv x (List.mem_cons_of_mem _ hx)) (b.add v).2
        (by rw [Bindings.add_of_rawSql_none hv₀ hb]; simp)
    simp only [Bindings.add_of_rawSql_none hv₀ hb] at hms hnext hgrown
    simp only [addAll, Bindings.add_of_rawSql_none hv₀ hb, List.length_cons, List.range'_succ,
      List.map_cons]
    exact ⟨by rw [hms], by rw [hnext]; omega,
      (Bindings.add_of_rawSql_none hv₀ hb ▸ Bindings.Grown.add hv₀ hb).trans hgrown⟩

theorem rightReads_isIn {items : List Value} (hv : ∀ v ∈ items, v.rawSql? = none) {b : Bindings}
    (hb : 1 ≤ b.next) :
    RightReads d b (let (markers, b) := addAll b items
      (Term.sql ("(" ++ ", ".intercalate markers ++ ")"), b)) := by
  obtain ⟨hms, hnext, hgrown⟩ := addAll_of_rawSql_none items hv b hb
  rcases hall : addAll b items with ⟨ms, b'⟩
  simp only [hall] at hms hnext hgrown
  refine ⟨hgrown, ?_⟩
  simpa [Dialect.term, Term.sql, hms, hnext] using reads_markerList b.next items.length

theorem rightReads_between {low high : Value} (hl : low.rawSql? = none) (hh : high.rawSql? = none)
    {b : Bindings} (hb : 1 ≤ b.next) :
    RightReads d b (let (l, b) := b.add low
      let (h, b) := b.add high
      (Term.sql (l ++ " AND " ++ h), b)) := by
  have hnext : 1 ≤ (b.add low).2.next := by rw [Bindings.add_of_rawSql_none hl hb]; simp
  have hgrown := (Bindings.Grown.add hl hb).trans (Bindings.Grown.add hh hnext)
  rw [Bindings.add_of_rawSql_none hl hb] at hnext hgrown ⊢
  dsimp only at hnext hgrown ⊢
  rw [Bindings.add_of_rawSql_none hh hnext] at hgrown ⊢
  refine ⟨hgrown, ?_⟩
  simpa [Dialect.term, Term.sql, Nat.add_assoc] using reads_markerPair b.next

/-- A group adds its calls' list once the calls have run on the scope's bindings, whatever
fault they keep; an empty group binds nothing. -/
theorem grows_group (s sub : Scope) (conj : Conjunction) (op : String)
    (h : Grows d { bindings := s.bindings } sub) :
    Grows d s (s.group op conj (some (fun _ => sub))) := by
  obtain ⟨hgrown, added, hentries, hread⟩ := h
  simp only [List.nil_append] at hentries
  have hb : (s.group op conj (some (fun _ => sub))).bindings = sub.bindings := by
    simp only [group]; split <;> simp
  have hc : (s.group op conj (some (fun _ => sub))).clause =
      s.clause.addGroup sub.clause.entries conj := by
    simp only [group]; split <;> simp
  unfold Grows
  rw [hb, hc, hentries]
  unfold Clause.addGroup
  split
  · rename_i hempty
    rw [List.isEmpty_iff.mp hempty] at hread
    exact ⟨hgrown, [], by simp, hread⟩
  · refine ⟨hgrown, [.group added conj], rfl, ?_⟩
    simpa using EntriesRead.group hread EntriesRead.nil

/-- **Every condition call grows its scope by exactly the slots it bound**, from any scope
numbering from one on: by induction on calls and on the calls of groups. An empty `IN` compares
two plain numbers, and an empty `NOT IN` adds nothing. -/
theorem grows_apply (hq : isQuoteChar d.quote = true) (op : String) :
    (∀ (s : Scope) (c : Cond), c.noRaw = true → 1 ≤ s.bindings.next →
      Grows d s (c.apply op s)) ∧
    (∀ (s : Scope) (calls : List Cond), Cond.allNoRaw calls = true → 1 ≤ s.bindings.next →
      Grows d s (Cond.applyAll op s calls)) := by
  refine Cond.apply.mutual_induct op
    (fun s c => c.noRaw = true → 1 ≤ s.bindings.next → Grows d s (c.apply op s))
    (fun s calls => Cond.allNoRaw calls = true → 1 ≤ s.bindings.next →
      Grows d s (Cond.applyAll op s calls))
    ?compare ?columns ?like ?isIn ?isNull ?between ?groupNone ?group ?nil ?cons
  case compare =>
    intro s conj c o v hno hb
    simp only [Cond.noRaw, Bool.and_eq_true] at hno
    simp only [Cond.apply, compare]
    split
    · exact grows_fail s _
    · rename_i hop
      exact grows_condition hq s conj (Value.rawSql_of_noRaw hno.1) (plain_of_checkOperator hop)
        (rightReads_addTerm (Value.rawSql_of_noRaw hno.2) hb)
  case columns =>
    intro s conj a o b hno _
    simp only [Cond.noRaw, Bool.and_eq_true] at hno
    simp only [Cond.apply, columns]
    split
    · exact grows_fail s _
    · rename_i hop
      split
      · exact grows_fail s _
      · rename_i right hright
        exact grows_condition hq s conj (Value.rawSql_of_noRaw hno.1) (plain_of_checkOperator hop)
          (rightReads_name hq (Term.raw_of_ofValue (Value.rawSql_of_noRaw hno.2) hright) _)
  case like =>
    intro s conj c neg p hno hb
    simp only [Cond.noRaw, Bool.and_eq_true] at hno
    exact grows_condition hq s conj (Value.rawSql_of_noRaw hno.1) (by cases neg <;> decide)
      (rightReads_addTerm (Value.rawSql_of_noRaw hno.2) hb)
  case isIn =>
    intro s conj c neg vs hno hb
    simp only [Cond.noRaw, Bool.and_eq_true] at hno
    simp only [Cond.apply, isIn]
    by_cases hempty : vs.elements.isEmpty = true
    · cases neg
      · simp only [hempty, Bool.false_eq_true, ↓reduceIte, beq_self_eq_true]
        refine ⟨Bindings.Grown.refl _, [.compare (Term.sql "1") "=" (Term.sql "0") conj], rfl, ?_⟩
        simpa using EntriesRead.compare (reads_term_plain (d := d) (by decide)) (by decide)
          (reads_term_plain (by decide)) EntriesRead.nil
      · have hne : ("NOT IN" == "IN") = false := by decide
        simp only [hempty, ↓reduceIte, hne, Bool.false_eq_true]
        exact Grows.of_eq rfl rfl
    · simp only [hempty, Bool.false_eq_true, ↓reduceIte]
      exact grows_condition hq s conj (Value.rawSql_of_noRaw hno.1) (by cases neg <;> decide)
        (rightReads_isIn (Value.elements_rawSql_of_noRaw hno.2) hb)
  case isNull =>
    intro s conj c neg hno _
    exact grows_condition hq s conj (Value.rawSql_of_noRaw (by simpa [Cond.noRaw] using hno))
      (by decide) (rightReads_plain (by cases neg <;> decide) _)
  case between =>
    intro s conj c neg l h hno hb
    simp only [Cond.noRaw, Bool.and_eq_true] at hno
    exact grows_condition hq s conj (Value.rawSql_of_noRaw hno.1.1) (by cases neg <;> decide)
      (rightReads_between (Value.rawSql_of_noRaw hno.1.2) (Value.rawSql_of_noRaw hno.2) hb)
  case groupNone =>
    intro s conj _ _
    exact grows_fail s _
  case group =>
    intro s conj calls ih hno hb
    exact grows_group s _ conj op (ih _ (by simpa [Cond.noRaw] using hno) hb)
  case nil =>
    intro s _ _
    exact Grows.of_eq rfl rfl
  case cons =>
    intro s c rest ih₁ ih₂ hno hb
    simp only [Cond.allNoRaw, Bool.and_eq_true] at hno
    have h₁ := ih₁ hno.1 hb
    exact h₁.trans (ih₂ hno.2 (Nat.le_trans hb h₁.next_le))

end Scope
end QueryKit.Query
