import QueryKit.Proofs.Marker.Scan
import Mathlib.Data.List.Forall2

/-!
# Readying a statement passes the bound values in marker order

Each dialect readies a statement its own way: named markers stay and their values go by name,
numbered markers become `$k` once per distinct name, positional markers become `?` each. When no
marker name occurs twice the three agree: the order of names behind the placeholders is the order
of the markers in the text. So a statement whose marker names are distinct and all bound is
readied without fault, and its arguments are the bound values, marker by marker:

* `distinctNames_of_nodup` and `substitute_order`: the name orders of the three styles;
* `bindFor_ok`: readying succeeds, the `k`-th argument carrying the value bound under the
  `k`-th marker's name.
-/

namespace QueryKit.Sql

/-! ## The order of names -/

theorem foldl_distinct_of_nodup : ∀ (names acc : List String), (acc ++ names).Nodup →
    names.foldl (fun acc n => if acc.contains n then acc else acc ++ [n]) acc = acc ++ names
  | [], acc, _ => by simp
  | n :: rest, acc, h => by
    have hn : n ∉ acc := fun hmem => (List.nodup_append.mp h).2.2 n hmem n (by simp) rfl
    have hrest : (acc ++ [n] ++ rest).Nodup := by simpa using h
    have hstep : (if acc.contains n then acc else acc ++ [n]) = acc ++ [n] := by simp [hn]
    rw [List.foldl_cons, hstep, foldl_distinct_of_nodup rest (acc ++ [n]) hrest]
    simp

/-- Names that are already distinct stay as they are. -/
theorem distinctNames_of_nodup {names : List String} (h : names.Nodup) :
    distinctNames names = names := by
  rw [distinctNames, foldl_distinct_of_nodup names [] (by simpa using h), List.nil_append]

/-- A fold over markers that appends each new name to the order gives every name in turn. -/
theorem foldl_order (f : String × List String × Nat → Marker → String × List String × Nat)
    (hf : ∀ acc m, m.name ∉ acc.2.1 → (f acc m).2.1 = acc.2.1 ++ [m.name]) :
    ∀ (ms : List Marker) (acc : String × List String × Nat), (acc.2.1 ++ ms.map (·.name)).Nodup →
      (ms.foldl f acc).2.1 = acc.2.1 ++ ms.map (·.name)
  | [], acc, _ => by simp
  | m :: ms, acc, h => by
    have hm : m.name ∉ acc.2.1 := fun hmem => (List.nodup_append.mp h).2.2 _ hmem _ (by simp) rfl
    have hstep := hf acc m hm
    rw [List.foldl_cons, foldl_order f hf ms (f acc m) (by rw [hstep]; simpa using h), hstep]
    simp

/-- **The order behind the placeholders** is the order of the markers, whether each distinct name
gets one position or each marker does, when no name occurs twice: each step appends the marker's
name when it is new. -/
theorem substitute_order (query : String) (placeholder : Nat → String) (reuse : Bool)
    (h : ((markers query).map (·.name)).Nodup) :
    (substitute query placeholder reuse).2 = (markers query).map (·.name) := by
  unfold substitute
  by_cases hempty : (markers query).isEmpty = true
  · simp [List.isEmpty_iff.mp hempty]
  · simp only [hempty, Bool.false_eq_true, ↓reduceIte]
    refine (foldl_order _ ?_ (markers query) ("", [], 0) (by simpa using h)).trans (by simp)
    rintro ⟨out, order, last⟩ m hm
    cases reuse
    · simp
    · have hnone : order.findIdx? (· == m.name) = none := by
        rw [List.findIdx?_eq_none_iff]
        intro x hx
        simp only [beq_eq_false_iff_ne, ne_eq]
        rintro rfl
        exact hm hx
      simp [hnone]

/-! ## Readying -/

/-- **The arguments of bound names**: one per name, in order, each the name's value, named by it
exactly in the named style. -/
theorem bindFor_args_bound (d : Dialect) (lookup : String → Option Value) :
    ∀ names : List String, (∀ n ∈ names, (lookup n).isSome) →
      ∃ args, bindFor.args d lookup names = .ok args ∧
        List.Forall₂ (fun a n => a.name = (if d.bindStyle == .named then some n else none) ∧
          lookup n = some a.value) args names
  | [], _ => ⟨[], rfl, .nil⟩
  | n :: rest, h => by
    obtain ⟨v, hv⟩ := Option.isSome_iff_exists.mp (h n (List.mem_cons_self ..))
    obtain ⟨more, hmore, hall⟩ := bindFor_args_bound d lookup rest
      (fun x hx => h x (List.mem_cons_of_mem _ hx))
    refine ⟨⟨if d.bindStyle == .named then some n else none, v⟩ :: more, ?_, .cons ⟨rfl, hv⟩ hall⟩
    simp [bindFor.args, hv, hmore]

theorem bindFor_args_ok (d : Dialect) (lookup : String → Option Value) (names : List String)
    (h : ∀ n ∈ names, (lookup n).isSome) :
    ∃ args, bindFor.args d lookup names = .ok args ∧
      List.Forall₂ (fun a n => lookup n = some a.value) args names := by
  obtain ⟨args, hargs, hall⟩ := bindFor_args_bound d lookup names h
  exact ⟨args, hargs, hall.imp (fun _ _ h => h.2)⟩

/-- **Readying a statement** whose marker names are distinct and all bound never fails, and
passes for each marker, in order, the value bound under its name. All three styles put the names
behind the placeholders in marker order. -/
theorem bindFor_ok (d : Dialect) (query : String) (lookup : String → Option Value)
    (hnodup : ((markers query).map (·.name)).Nodup)
    (hbound : ∀ m ∈ markers query, (lookup m.name).isSome) :
    ∃ text args, bindFor d query lookup = .ok (text, args) ∧
      List.Forall₂ (fun a m => lookup m.name = some a.value) args (markers query) := by
  obtain ⟨args, hargs, hall⟩ := bindFor_args_ok d lookup ((markers query).map (·.name))
    (by simpa using hbound)
  have hpairs : List.Forall₂ (fun a m => lookup m.name = some a.value) args (markers query) :=
    List.forall₂_map_right_iff.mp hall
  unfold bindFor
  split
  rename_i text names hstyle
  have horder : names = (markers query).map (·.name) := by
    rw [show names = (text, names).2 from rfl, ← hstyle]
    split
    · exact distinctNames_of_nodup hnodup
    · exact substitute_order query _ true hnodup
    · exact substitute_order query _ false hnodup
  rw [horder, hargs]
  exact ⟨text, args, rfl, hpairs⟩

end QueryKit.Sql
