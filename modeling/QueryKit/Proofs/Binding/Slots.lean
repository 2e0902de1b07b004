import QueryKit.Proofs.Marker.Rows

/-!
# Slots of a run of binding operations

A statement's bindings are built by a run of operations: adding a value, for its marker or as a
term, binding a value under an explicit name, and clearing every slot. The bindings are meant to
name each slot once, with a map view that holds every binding. Adding numbers its slot from a
counter and never looks at the names already there; binding looks names up and never touches the
counter. An explicit name that is a numbered slot the counter has still to reach breaks this: the
value added when the counter gets there takes the name a second time, and the map view keeps one
of the two.

* `Op.run` and `runAll`: one operation and a run of them; `allocated ops` counts the slots taken
  since the last clearing, and `runAll_next` says the counter stands one past them;
* `Distinct`: no slot name twice, and no numbered name at or past the counter. Adding keeps it,
  and so does binding under a name behind the counter (`distinct_runAll`);
* `nodup_run_add`: adding keeps the names apart exactly when no explicit name took the counter's
  slot;
* `asMap_perm`: with distinct names the map view holds every binding, one key each;
* `numbered_slots_in_order_and_apart`: for runs from fresh bindings, slots numbered in order, kept
  apart while explicit names stay behind the counter, and taken twice where one ran ahead;
  `bound_name_ahead_taken_twice` is the shortest such run.
-/

namespace QueryKit

/-! ## Maps of members with distinct keys -/

theorem insertByKey_perm {α : Type} (k : String) (v : α) :
    ∀ l : List (String × α), (insertByKey k v l).Perm ((k, v) :: l)
  | [] => List.Perm.refl _
  | (k', v') :: rest => by
    unfold insertByKey
    split
    · exact List.Perm.refl _
    · exact ((insertByKey_perm k v rest).cons (k', v')).trans (List.Perm.swap _ _ _)

theorem sortByKey_perm {α : Type} : ∀ l : List (String × α), (sortByKey l).Perm l
  | [] => List.Perm.refl _
  | (k, v) :: rest => by
    have hstep : sortByKey ((k, v) :: rest) = insertByKey k v (sortByKey rest) := rfl
    rw [hstep]
    exact (insertByKey_perm k v _).trans ((sortByKey_perm rest).cons _)

/-- A fold that puts each member in front of the kept ones, once no kept member has its key,
reverses members of distinct keys. -/
theorem foldl_prepend_of_fresh {α : Type}
    {f : List (String × α) → String × α → List (String × α)}
    (hf : ∀ acc p, p.1 ∉ acc.map Prod.fst → f acc p = p :: acc) :
    ∀ (l acc : List (String × α)), (l.map Prod.fst).Nodup →
      (∀ p ∈ l, p.1 ∉ acc.map Prod.fst) → l.foldl f acc = l.reverse ++ acc
  | [], _, _, _ => rfl
  | p :: rest, acc, hnodup, hfresh => by
    obtain ⟨hp, hrest⟩ := List.nodup_cons.mp hnodup
    have hfresh' : ∀ q ∈ rest, q.1 ∉ (p :: acc).map Prod.fst := by
      intro q hq hmem
      rw [List.map_cons, List.mem_cons] at hmem
      rcases hmem with heq | hacc
      · exact hp (by rw [← heq]; exact List.mem_map_of_mem hq)
      · exact hfresh q (List.mem_cons_of_mem _ hq) hacc
    rw [List.foldl_cons, hf acc p (hfresh p List.mem_cons_self),
      foldl_prepend_of_fresh hf rest (p :: acc) hrest hfresh']
    simp

/-- **The map view of members of distinct keys** holds each of them: each step of the fold keeps
every member of another key, which is all of them. -/
theorem mapMembers_perm {α : Type} {members : List (String × α)}
    (h : (members.map Prod.fst).Nodup) : (mapMembers members).Perm members := by
  unfold mapMembers
  dsimp only
  rw [foldl_prepend_of_fresh ?_ members [] h (by simp), List.append_nil, List.reverse_reverse]
  · exact sortByKey_perm members
  · rintro acc ⟨k, v⟩ hk
    have hk' : k ∉ acc.map Prod.fst := hk
    have hkeep : acc.filter (fun p => p.1 != k) = acc :=
      List.filter_eq_self.mpr fun p hp =>
        bne_iff_ne.mpr fun hpk => hk' (hpk ▸ (List.mem_map_of_mem hp : p.1 ∈ acc.map Prod.fst))
    simp only [hkeep]

end QueryKit

namespace QueryKit.Sql.Bindings

/-! ## One operation -/

/-- The slot names, in slot order. -/
def names (b : Bindings) : List String := b.entries.map (·.name)

theorem add_raw {b : Bindings} {v : Value} {sql : String} (h : v.rawSql? = some sql) :
    b.add v = (sql, b) := by
  simp only [add, h]

theorem replace_names {name : String} {v : Value} :
    ∀ {es es' : List Binding}, replace name v es = some es' → es'.map (·.name) = es.map (·.name)
  | [], _, h => by simp [replace] at h
  | e :: rest, es', h => by
    unfold replace at h
    split at h
    · rename_i he
      cases h
      simp only [beq_iff_eq] at he
      simp [he]
    · obtain ⟨rest', hrest, rfl⟩ := Option.map_eq_some_iff.mp h
      simp [replace_names hrest]

theorem replace_eq_none_iff {name : String} {v : Value} :
    ∀ {es : List Binding}, replace name v es = none ↔ name ∉ es.map (·.name)
  | [] => by simp [replace]
  | e :: rest => by
    unfold replace
    split
    · rename_i he
      simp only [beq_iff_eq] at he
      simp [he]
    · rename_i he
      simp only [beq_iff_eq] at he
      simp only [Option.map_eq_none_iff, replace_eq_none_iff, List.map_cons, List.mem_cons,
        not_or]
      exact ⟨fun h => ⟨fun heq => he heq.symm, h⟩, fun h => h.2⟩

/-- **Binding under a name** gives its marker and keeps the counter; a name already there keeps
its place, and a new one is added at the end. -/
theorem bind_cases (b : Bindings) (name : String) (v : Value) :
    (b.bind name v).1 = ":" ++ name ∧ (b.bind name v).2.next = b.next ∧
    ((name ∈ b.names ∧ (b.bind name v).2.names = b.names) ∨
      (name ∉ b.names ∧ (b.bind name v).2.names = b.names ++ [name])) := by
  unfold bind
  split
  · rename_i es hes
    refine ⟨rfl, rfl, Or.inl ⟨?_, replace_names hes⟩⟩
    by_contra hnot
    rw [names, ← replace_eq_none_iff (v := v)] at hnot
    rw [hnot] at hes
    cases hes
  · rename_i hnone
    exact ⟨rfl, rfl, Or.inr ⟨replace_eq_none_iff.mp hnone, by simp [names]⟩⟩

/-- **An operation on bindings.** -/
inductive Op where
  /-- Adding a value, for its marker. -/
  | add (v : Value)
  /-- Adding a value, as a raw term. -/
  | addTerm (v : Value)
  /-- Binding a value under a name. -/
  | bind (name : String) (v : Value)
  /-- Clearing every slot, numbering from one again. -/
  | reset
  deriving Repr, Inhabited

namespace Op

/-- The text an operation gives to write (none for a clearing), and the bindings after it. -/
def run (b : Bindings) : Op → Option String × Bindings
  | add v => (some (b.add v).1, (b.add v).2)
  | addTerm v => (some (b.addTerm v).1.text, (b.addTerm v).2)
  | bind name v => (some (b.bind name v).1, (b.bind name v).2)
  | reset => (none, empty)

/-- The slots taken since the last clearing, `n` before the operation. -/
def tally (n : Nat) : Op → Nat
  | add v | addTerm v => if v.rawSql?.isNone then n + 1 else n
  | bind _ _ => n
  | reset => 0

/-- Adding as a term writes what adding for a marker writes. -/
theorem run_addTerm (b : Bindings) (v : Value) : (addTerm v).run b = (add v).run b :=
  rfl

theorem run_add_numbered {b : Bindings} {v : Value} (hv : v.rawSql? = none) :
    (add v).run b = (some (":" ++ slotName (max b.next 1)),
      { next := max b.next 1 + 1, entries := b.entries ++ [⟨slotName (max b.next 1), v⟩] }) := by
  simp only [run, add_numbered hv]

theorem run_add_raw {b : Bindings} {v : Value} {sql : String} (hv : v.rawSql? = some sql) :
    (add v).run b = (some sql, b) := by
  simp only [run, add_raw hv]

/-- **One operation moves the counter with the tally**: one past the slots taken since the last
clearing, zero counting as one. -/
theorem run_next {b : Bindings} {n : Nat} (h : max b.next 1 = n + 1) (op : Op) :
    max (op.run b).2.next 1 = op.tally n + 1 := by
  have hadd : ∀ v, max ((add v).run b).2.next 1 = (add v).tally n + 1 := by
    intro v
    cases hv : v.rawSql? with
    | none =>
      rw [run_add_numbered hv]
      simp [tally, hv, h]
    | some sql =>
      rw [run_add_raw hv]
      simp [tally, hv, h]
  cases op with
  | add v => exact hadd v
  | addTerm v =>
    rw [run_addTerm]
    exact hadd v
  | bind name v =>
    show max (b.bind name v).2.next 1 = n + 1
    rw [(bind_cases b name v).2.1]
    exact h
  | reset => rfl

end Op

/-! ## Runs -/

/-- **A run of operations** from given bindings. -/
def runAll (b : Bindings) (ops : List Op) : Bindings := ops.foldl (fun b op => (op.run b).2) b

/-- The slots taken since the last clearing in a run. -/
def allocated (ops : List Op) : Nat := ops.foldl Op.tally 0

/-- **The counter stands one past the slots taken since the last clearing.** -/
theorem runAll_next : ∀ (ops : List Op) {b : Bindings} {n : Nat}, max b.next 1 = n + 1 →
    max (runAll b ops).next 1 = ops.foldl Op.tally n + 1
  | [], _, _, h => h
  | op :: rest, _, _, h => runAll_next rest (Op.run_next h op)

/-! ## Slot names kept apart -/

/-- **Slot names kept apart**: no name twice, and no numbered name at or past the counter. -/
structure Distinct (b : Bindings) : Prop where
  nodup : b.names.Nodup
  behind : ∀ k, slotName k ∈ b.names → k < max b.next 1

theorem Distinct.of_entries_nil {b : Bindings} (h : b.entries = []) : Distinct b where
  nodup := by simp [names, h]
  behind := fun _ hk => by simp [names, h] at hk

/-- Bindings with the same names and counter keep them apart alike. -/
theorem Distinct.of_names_eq {b b' : Bindings} (h : Distinct b) (hnames : b'.names = b.names)
    (hnext : b'.next = b.next) : Distinct b' where
  nodup := hnames ▸ h.nodup
  behind := fun k hk => hnext ▸ h.behind k (hnames ▸ hk)

/-- A fresh name added at the end keeps the names apart, if it is behind the new counter. -/
theorem Distinct.append {b b' : Bindings} (h : Distinct b) {name : String}
    (hfresh : name ∉ b.names) (hnames : b'.names = b.names ++ [name])
    (hnext : max b.next 1 ≤ max b'.next 1) (hname : ∀ k, name = slotName k → k < max b'.next 1) :
    Distinct b' where
  nodup := by
    rw [hnames, ← List.concat_eq_append]
    exact List.Nodup.concat hfresh h.nodup
  behind := by
    intro k hk
    rw [hnames, List.mem_append, List.mem_singleton] at hk
    rcases hk with hold | hnew
    · exact Nat.lt_of_lt_of_le (h.behind k hold) hnext
    · exact hname k hnew.symm

/-- **One operation keeps the slot names apart**, so long as it binds under no numbered name at
or past the counter. Adding takes the slot at the counter, which no name there has reached. -/
theorem Distinct.run {b : Bindings} (h : Distinct b) (op : Op)
    (hop : ∀ name v k, op = .bind name v → name = slotName k → k < max b.next 1) :
    Distinct (op.run b).2 := by
  have hadd : ∀ v, Distinct ((Op.add v).run b).2 := by
    intro v
    cases hv : v.rawSql? with
    | none =>
      rw [Op.run_add_numbered hv]
      refine h.append (fun hmem => Nat.lt_irrefl _ (h.behind _ hmem)) (by simp [names])
        (by dsimp only; omega) ?_
      intro k hk
      have hkm : k = max b.next 1 := slotName_injective hk.symm
      dsimp only
      omega
    | some sql =>
      rw [Op.run_add_raw hv]
      exact h
  cases op with
  | add v => exact hadd v
  | addTerm v =>
    rw [Op.run_addTerm]
    exact hadd v
  | bind name v =>
    show Distinct (b.bind name v).2
    obtain ⟨-, hnext, hkept | hadded⟩ := bind_cases b name v
    · exact h.of_names_eq hkept.2 hnext
    · exact h.append hadded.1 hadded.2 (Nat.le_of_eq (by rw [hnext])) (hnext ▸ hop name v · rfl)
  | reset => exact of_entries_nil rfl

/-- **Explicit names stay behind the counter**: no operation of the run binds under the name of a
numbered slot past the `n` slots taken since the last clearing. -/
def BindsBehind : Nat → List Op → Prop
  | _, [] => True
  | n, op :: rest =>
    (∀ name v k, op = .bind name v → name = slotName k → k ≤ n) ∧ BindsBehind (op.tally n) rest

/-- **A run keeps the slot names apart** when its explicit names stay behind the counter. -/
theorem distinct_runAll : ∀ (ops : List Op) {b : Bindings} {n : Nat}, max b.next 1 = n + 1 →
    Distinct b → BindsBehind n ops → Distinct (runAll b ops)
  | [], _, _, _, h, _ => h
  | op :: rest, _, _, hn, h, hbinds =>
    have hstep := h.run op fun name v k hop hk => by
      have := hbinds.1 name v k hop hk
      omega
    distinct_runAll rest (Op.run_next hn op) hstep hbinds.2

/-- **With distinct names the map view holds every binding**, one key each. -/
theorem asMap_perm {b : Bindings} (h : b.names.Nodup) :
    b.asMap.Perm (b.entries.map fun e => (e.name, e.value)) :=
  mapMembers_perm (by simpa [names, Function.comp_def] using h)

/-- **Adding takes the counter's slot without looking at the names bound**: names apart before
stay apart exactly when no explicit name took that slot. -/
theorem nodup_run_add {b : Bindings} {v : Value} (hv : v.rawSql? = none) (h : b.names.Nodup) :
    ((Op.add v).run b).2.names.Nodup ↔ slotName (max b.next 1) ∉ b.names := by
  rw [Op.run_add_numbered hv]
  simp only [names, List.map_append, List.map_cons, List.map_nil]
  rw [← List.concat_eq_append, List.nodup_concat]
  exact and_iff_left h

/-! ## Runs from fresh bindings -/

/-- **Slots are numbered in order and kept apart.** From fresh bindings (numbering from one, or
the zero value), whatever the run: the next value added takes the slot after those added since
the last clearing, as a marker or as a term; raw SQL is given back and takes no slot; the values
are those of the bindings in slot order; and when no explicit name runs ahead of the counter, no
slot name occurs twice and the map view holds every binding, one key each. Adding never looks at
the names bound: names apart stay apart after a value is added exactly when no explicit name took
the slot it is given, so a name bound ahead of the counter is taken a second time once the counter
reaches it. -/
theorem numbered_slots_in_order_and_apart {start : Bindings} (hentries : start.entries = [])
    (hnext : start.next ≤ 1) (ops : List Op) :
    (∀ v, v.rawSql? = none →
      (Op.add v).run (runAll start ops) = (some (":" ++ slotName (allocated ops + 1)),
        { next := allocated ops + 2,
          entries := (runAll start ops).entries ++ [⟨slotName (allocated ops + 1), v⟩] }) ∧
      (Op.addTerm v).run (runAll start ops) = (Op.add v).run (runAll start ops)) ∧
    (∀ v sql, v.rawSql? = some sql →
      (Op.add v).run (runAll start ops) = (some sql, runAll start ops) ∧
      (Op.addTerm v).run (runAll start ops) = (some sql, runAll start ops)) ∧
    (runAll start ops).values = (runAll start ops).entries.map (·.value) ∧
    (BindsBehind 0 ops →
      (runAll start ops).names.Nodup ∧
      (runAll start ops).asMap.Perm ((runAll start ops).entries.map fun e => (e.name, e.value)) ∧
      (runAll start ops).asMap.length = (runAll start ops).size) ∧
    (∀ v, v.rawSql? = none → (runAll start ops).names.Nodup →
      (((Op.add v).run (runAll start ops)).2.names.Nodup ↔
        slotName (allocated ops + 1) ∉ (runAll start ops).names)) := by
  have hstart : max start.next 1 = 0 + 1 := by omega
  have hcount : max (runAll start ops).next 1 = allocated ops + 1 := runAll_next ops hstart
  refine ⟨fun v hv => ⟨?_, Op.run_addTerm _ v⟩, fun v sql hv => ⟨Op.run_add_raw hv, ?_⟩, rfl,
    fun hbinds => ?_, fun v hv hnodup => ?_⟩
  · rw [Op.run_add_numbered hv, hcount]
  · rw [Op.run_addTerm, Op.run_add_raw hv]
  · have hdistinct := distinct_runAll ops hstart (Distinct.of_entries_nil hentries) hbinds
    have hperm := asMap_perm hdistinct.nodup
    refine ⟨hdistinct.nodup, hperm, ?_⟩
    rw [hperm.length_eq, List.length_map]
    rfl
  · rw [← hcount]
    exact nodup_run_add hv hnodup

/-- From the zero value: a value, its slot bound again by name, a clearing and a term; the next
value added takes `v2`, and no name occurs twice: the one explicit name is the slot already
taken. -/
theorem zero_value_slots_after_clearing :
    ({ next := 0 } : Bindings).entries = [] ∧ ({ next := 0 } : Bindings).next ≤ 1 ∧
      BindsBehind 0 [.add (.int 7), .bind "v1" (.text "a"), .reset, .addTerm (.text "b")] ∧
      ((Op.add (.text "c")).run (runAll { next := 0 }
        [.add (.int 7), .bind "v1" (.text "a"), .reset, .addTerm (.text "b")])).1 = some ":v2" ∧
      (runAll { next := 0 }
        [.add (.int 7), .bind "v1" (.text "a"), .reset, .addTerm (.text "b")]).names.Nodup := by
  have hbehind : BindsBehind 0
      [.add (.int 7), .bind "v1" (.text "a"), .reset, .addTerm (.text "b")] := by
    simp [BindsBehind, Op.tally, Value.rawSql?]
    rintro name v k rfl - hk
    have hone : slotName 1 = slotName k := by rw [← hk]; decide
    have := slotName_injective hone
    omega
  have h := @numbered_slots_in_order_and_apart { next := 0 } rfl (by decide)
    [.add (.int 7), .bind "v1" (.text "a"), .reset, .addTerm (.text "b")]
  refine ⟨rfl, by decide, hbehind, ?_, (h.2.2.2.1 hbehind).1⟩
  rw [(h.1 (.text "c") rfl).1]
  rfl

/-- **A name bound ahead of the counter is taken again** by the next value added: two slots of
one name, which the map view holds once. -/
theorem bound_name_ahead_taken_twice :
    (runAll empty [.bind "v1" (.text "x"), .add (.text "y")]).names = ["v1", "v1"] ∧
    (runAll empty [.bind "v1" (.text "x"), .add (.text "y")]).size = 2 ∧
    (runAll empty [.bind "v1" (.text "x"), .add (.text "y")]).asMap.length = 1 := by
  decide

end QueryKit.Sql.Bindings
