import QueryKit.Proofs.Where.Reading
import QueryKit.Proofs.Marker.Clause

/-!
# The written `WHERE` means what the chain of calls says

A chain of condition calls is read item by item (`Cond.reading`): each call that states a
condition is an opaque condition, a group is its calls' reading in parentheses, and a group
that reads as nothing is dropped, as the builder drops it. An `IN` over an empty list is false
of every row, and the builder writes it as `1 = 0`. A `NOT IN` over an empty list is true of
every row; the builder adds nothing for it, so the chain is read without it.

* `Scope.ReadsAs s s' calls`: from `s` to `s'` no fault, and the entries added read as `calls`,
  condition for condition (`Cond.Writes`);
* `Scope.readsAs_apply`: every call, and every run of calls that records no fault, reads so;
* `written_where_holds_as_chain`: for every truth assignment that keeps `1 = 0` false, the
  written list holds exactly when the chain does.

Read with an empty `NOT IN` as a true condition instead, the chain can differ from what is
written: `or_empty_not_in_changes_truth`.
-/

namespace QueryKit.Query

open Sql Sql.Reading

namespace Cond

/-- The joiner of a call. -/
def conj : Cond → Conjunction
  | .compare c .. | .columns c .. | .like c .. | .isIn c .. | .isNull c .. | .between c ..
  | .group c _ => c

/-- An `IN` over an empty list: true of no row. -/
def matchesNothing : Cond → Bool
  | .isIn _ _ false values => values.elements.isEmpty
  | _ => false

/-- A `NOT IN` over an empty list: true of every row. -/
def matchesEverything : Cond → Bool
  | .isIn _ _ true values => values.elements.isEmpty
  | _ => false

mutual

/-- **The reading of a call**: a condition labelled by the call itself; a group its calls'
reading in parentheses, dropped when that reads as nothing, and a group without a function
nothing (it records a fault). An empty `NOT IN` is dropped when `dropsEmptyNotIn`, and read as
a condition otherwise. -/
def read (dropsEmptyNotIn : Bool) : Cond → List (Reading Cond)
  | .group conj (some calls) =>
    let items := reading dropsEmptyNotIn calls
    if items.isEmpty then [] else [.paren items conj]
  | .group _ none => []
  | c => if dropsEmptyNotIn && c.matchesEverything then [] else [.cond c c.conj]

/-- **The reading of a chain of calls**, one after another. -/
def reading (dropsEmptyNotIn : Bool) : List Cond → List (Reading Cond)
  | [] => []
  | c :: rest => read dropsEmptyNotIn c ++ reading dropsEmptyNotIn rest

end

/-- **The truth of a call** in the `k`-th place under the assignment `ρ`: an empty `IN` is false
and an empty `NOT IN` true whatever `ρ` says; any other call is an opaque condition. -/
def truth (ρ : Nat → Bool) (k : Nat) (c : Cond) : Bool :=
  if c.matchesNothing then false else if c.matchesEverything then true else ρ k

/-- **A written condition that stands for a call**: the call is no empty `NOT IN`, and an empty
`IN` is written as `1 = 0`. -/
def Writes (c : Cond) (w : Term × String × Term) : Prop :=
  (c.matchesNothing = true → w = oneIsZero) ∧ c.matchesEverything = false

end Cond

namespace Scope

theorem fail_fault_ne (s : Scope) (f : Fault) : (s.fail f).fault ≠ none := by
  unfold fail
  split
  · rename_i hsome
    simpa [Option.isSome_iff_ne_none] using hsome
  · simp

/-- **A step that reads as the calls**: `s` had no fault, and the entries added from `s` to
`s'` read as `calls`, condition for condition. -/
def ReadsAs (s s' : Scope) (calls : List Cond) : Prop :=
  s.fault = none ∧ ∃ added, s'.clause.entries = s.clause.entries ++ added ∧
    Matches Cond.Writes (Cond.reading true calls) (Entry.readingAll added)

theorem ReadsAs.trans {s₁ s₂ s₃ : Scope} {c : Cond} {rest : List Cond}
    (h₁ : ReadsAs s₁ s₂ [c]) (h₂ : ReadsAs s₂ s₃ rest) : ReadsAs s₁ s₃ (c :: rest) := by
  obtain ⟨hfault, added₁, hentries₁, hmatch₁⟩ := h₁
  obtain ⟨-, added₂, hentries₂, hmatch₂⟩ := h₂
  refine ⟨hfault, added₁ ++ added₂, by rw [hentries₂, hentries₁, List.append_assoc], ?_⟩
  have hcons : Cond.reading true (c :: rest) = Cond.reading true [c] ++ Cond.reading true rest := by
    simp [Cond.reading]
  rw [hcons, Entry.readingAll_append]
  exact hmatch₁.append hmatch₂

/-- **One comparison**, when it records no fault, appends one entry, which reads as the call. -/
theorem readsAs_condition (s : Scope) {conj : Conjunction} {column : Value} {op : String}
    {right : Bindings → Term × Bindings} {c : Cond}
    (hread : Cond.reading true [c] = [.cond c conj]) (hnothing : c.matchesNothing = false)
    (heverything : c.matchesEverything = false)
    (hok : (s.condition conj column op right).fault = none) :
    ReadsAs s (s.condition conj column op right) [c] := by
  unfold condition at hok ⊢
  split at hok
  · exact absurd hok (fail_fault_ne s _)
  · refine ⟨hok, [.compare _ op (right s.bindings).1 conj], rfl, ?_⟩
    rw [hread]
    simp only [Entry.readingAll]
    exact Matches.cond (R := Cond.Writes) ⟨fun h => by simp [hnothing] at h, heverything⟩ conj

/-- **A group**, when it records no fault, appends its calls' entries in parentheses, or nothing
when they are none; either way the added entries read as the group. A fault of the group's calls
would have been kept, so they record none, and a group without entries reads as nothing. -/
theorem readsAs_group (s sub : Scope) (op : String) (conj : Conjunction) (calls : List Cond)
    (hsub : sub.fault = none → ReadsAs { bindings := s.bindings } sub calls)
    (hok : (s.group op conj (some (fun _ => sub))).fault = none) :
    ReadsAs s (s.group op conj (some (fun _ => sub))) [.group conj (some calls)] := by
  have hsubok : sub.fault = none := by
    cases hf : sub.fault with
    | none => rfl
    | some e =>
      simp only [group, hf] at hok
      exact absurd hok (fail_fault_ne _ e)
  obtain ⟨-, added, hentries, hmatch⟩ := hsub hsubok
  simp only [List.nil_append] at hentries
  subst hentries
  simp only [group, hsubok] at hok ⊢
  refine ⟨hok, ?_⟩
  unfold Clause.addGroup
  by_cases hempty : sub.clause.entries.isEmpty
  · have hnil : Cond.reading true calls = [] := by
      rw [List.isEmpty_iff.mp hempty] at hmatch
      simp only [Entry.readingAll] at hmatch
      exact hmatch.eq_nil
    refine ⟨[], by simp [hempty], ?_⟩
    simp [Cond.reading, Cond.read, hnil, Entry.readingAll, Matches.nil]
  · refine ⟨[.group sub.clause.entries conj], by simp [hempty], ?_⟩
    simpa [Cond.reading, Cond.read, Entry.readingAll, Entry.read] using hmatch.group conj

/-- **Every call reads as itself**: a call, or a run of calls, that records no fault started
from a scope without one, and appended entries that read as the calls. An empty `IN` is written
as `1 = 0`, and an empty `NOT IN` adds nothing and is read as nothing. -/
theorem readsAs_apply (op : String) :
    (∀ (s : Scope) (c : Cond), (c.apply op s).fault = none → ReadsAs s (c.apply op s) [c]) ∧
    (∀ (s : Scope) (calls : List Cond), (Cond.applyAll op s calls).fault = none →
      ReadsAs s (Cond.applyAll op s calls) calls) := by
  refine Cond.apply.mutual_induct op
    (fun s c => (c.apply op s).fault = none → ReadsAs s (c.apply op s) [c])
    (fun s calls => (Cond.applyAll op s calls).fault = none →
      ReadsAs s (Cond.applyAll op s calls) calls)
    ?compare ?columns ?like ?isIn ?isNull ?between ?groupNone ?group ?nil ?cons
  case compare =>
    intro s conj c o v
    simp only [Cond.apply, compare]
    split
    · exact fun hok => absurd hok (fail_fault_ne s _)
    · exact readsAs_condition s rfl rfl rfl
  case columns =>
    intro s conj a o b
    simp only [Cond.apply, columns]
    split
    · exact fun hok => absurd hok (fail_fault_ne s _)
    · split
      · exact fun hok => absurd hok (fail_fault_ne s _)
      · exact readsAs_condition s rfl rfl rfl
  case like =>
    intro s conj c neg p
    exact readsAs_condition s rfl rfl rfl
  case isIn =>
    intro s conj c neg vs hok
    simp only [Cond.apply, isIn] at hok ⊢
    by_cases hempty : vs.elements.isEmpty = true
    · cases neg
      · simp only [hempty, Bool.false_eq_true, ↓reduceIte, beq_self_eq_true] at hok ⊢
        refine ⟨hok, [.compare (Term.sql "1") "=" (Term.sql "0") conj], rfl, ?_⟩
        have hread : Cond.reading true [.isIn conj c false vs] = [.cond (.isIn conj c false vs) conj] :=
          by simp [Cond.reading, Cond.read, Cond.matchesEverything, Cond.conj]
        rw [hread]
        exact Matches.cond ⟨fun _ => rfl, rfl⟩ conj
      · have hne : ("NOT IN" == "IN") = false := by decide
        simp only [hempty, ↓reduceIte, hne, Bool.false_eq_true] at hok ⊢
        refine ⟨hok, [], by simp, ?_⟩
        simp [Cond.reading, Cond.read, Cond.matchesEverything, hempty, Entry.readingAll, Matches.nil]
    · simp only [hempty, Bool.false_eq_true, ↓reduceIte] at hok ⊢
      have hnothing : (Cond.isIn conj c neg vs).matchesNothing = false := by
        cases neg <;> simp [Cond.matchesNothing, hempty]
      have heverything : (Cond.isIn conj c neg vs).matchesEverything = false := by
        cases neg <;> simp [Cond.matchesEverything, hempty]
      exact readsAs_condition s (by simp [Cond.reading, Cond.read, heverything, Cond.conj])
        hnothing heverything hok
  case isNull =>
    intro s conj c neg
    exact readsAs_condition s rfl rfl rfl
  case between =>
    intro s conj c neg l h
    exact readsAs_condition s rfl rfl rfl
  case groupNone =>
    intro s conj hok
    exact absurd hok (fail_fault_ne s _)
  case group =>
    intro s conj calls ih
    exact readsAs_group s _ op conj calls (ih _)
  case nil =>
    intro s hok
    exact ⟨hok, [], by simp [Cond.applyAll], Matches.nil⟩
  case cons =>
    intro s c rest ih₁ ih₂ hok
    have hrest := ih₂ hok
    exact (ih₁ hrest.1).trans hrest

end Scope

/-! ## What the written list means -/

/-- **The written `WHERE` holds exactly when the chain does.** For a chain of condition calls
run from a new scope without recording a fault, and every truth assignment `ρ` to the
conditions by place that keeps the written `1 = 0` false: the written entries, each condition
opaque, hold exactly when the chain holds, read with an empty `IN` false, an empty `NOT IN`
dropped, and a group that reads as nothing dropped: each written condition takes the truth of the
call it stands for. -/
theorem written_where_holds_as_chain (op : String) (b : Bindings) (calls : List Cond)
    (hok : (Cond.applyAll op { bindings := b } calls).fault = none) (ρ : Nat → Bool)
    (hρ : Entry.KeepsOneIsZero ρ
      (Entry.readingAll (Cond.applyAll op { bindings := b } calls).clause.entries)) :
    holds (fun k _ => ρ k) (Entry.readingAll (Cond.applyAll op { bindings := b } calls).clause.entries) =
      holds (Cond.truth ρ) (Cond.reading true calls) := by
  obtain ⟨-, added, hentries, hmatch⟩ := (Scope.readsAs_apply op).2 _ calls hok
  rw [show ({ bindings := b } : Scope).clause.entries = [] from rfl, List.nil_append] at hentries
  rw [hentries] at hρ ⊢
  refine (holds_eq_of_matches hmatch ?_).symm
  intro k c w hw ⟨hnothing, heverything⟩
  unfold Cond.truth
  by_cases hc : c.matchesNothing = true
  · have hzero : (Reading.leavesAll (Entry.readingAll added))[k]? = some oneIsZero := by
      rw [← hnothing hc]
      exact hw
    rw [if_pos hc, hρ k hzero]
  · simp [hc, heverything]

/-- The adults, or the users of an empty list: the written list holds as the chain does, since only
the second written condition is `1 = 0` and the assignment makes it false. -/
theorem adults_or_nobody_hold_as_chain :
    let calls := [Cond.compare .and (.text "age") ">" (.int 18), .isIn .or (.text "id") false (.list [])]
    let s := Cond.applyAll "where" { bindings := {} } calls
    s.fault = none ∧ Entry.KeepsOneIsZero (fun k => k == 0) (Entry.readingAll s.clause.entries) ∧
      holds (fun k _ => k == 0) (Entry.readingAll s.clause.entries) =
        holds (Cond.truth fun k => k == 0) (Cond.reading true calls) := by
  intro calls s
  have hkeep : Entry.KeepsOneIsZero (fun k => k == 0) (Entry.readingAll s.clause.entries) := by
    intro k hk
    cases k with
    | zero => exact absurd hk (by decide)
    | succ k => rfl
  exact ⟨rfl, hkeep, written_where_holds_as_chain "where" {} calls rfl (fun k => k == 0) hkeep⟩

/-- **An empty `NOT IN` after `OR` is not read as true**: after `a = 1` it adds nothing, so the
written list fails for a row where `a = 1` fails, while the chain read with the empty `NOT IN`
as a true condition holds of every row. -/
theorem or_empty_not_in_changes_truth :
    let calls := [Cond.compare .and (.text "a") "=" (.int 1), .isIn .or (.text "b") true (.list [])]
    let s := Cond.applyAll "where" { bindings := {} } calls
    s.fault = none ∧ Entry.KeepsOneIsZero (fun _ => false) (Entry.readingAll s.clause.entries) ∧
      holds (fun _ _ => false) (Entry.readingAll s.clause.entries) = false ∧
      holds (Cond.truth fun _ => false) (Cond.reading false calls) = true :=
  ⟨rfl, fun _ _ => rfl, by decide, by decide⟩

end QueryKit.Query
