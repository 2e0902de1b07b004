import QueryKit.Proofs.Marker.Bind

/-!
# Readying a statement replaces exactly its markers

`splice` writes a statement with the span of each marker, from its colon to its end, replaced by
a text of choice. The spans the scanner reports are exact: putting every marker's own text back
gives the statement again (`splice_markers_self`). Readying a statement for a dialect is a splice
of its markers, and nothing else changes:

* numbered placeholders: each marker becomes `$k`, `k` one more than the place of its name among
  the marker names, and the values go in the order of those names (`substitute_reuse`);
* positional placeholders: every marker becomes the same placeholder, and the values go marker
  by marker (`substitute_each`);
* named placeholders: the text stays, and each name's value goes under its name;
* a statement is refused, as invalid input, exactly when some marker's name has no value
  (`bindFor_refused_iff`).
-/

namespace QueryKit.Sql

/-! ## Bytes -/

/-- The number of bytes of characters in UTF-8. -/
def byteLength : List Char → Nat
  | [] => 0
  | c :: cs => c.utf8Size + byteLength cs

@[simp] theorem byteLength_nil : byteLength [] = 0 := rfl

@[simp] theorem byteLength_cons (c : Char) (cs : List Char) :
    byteLength (c :: cs) = c.utf8Size + byteLength cs := rfl

@[simp] theorem byteLength_append (a b : List Char) :
    byteLength (a ++ b) = byteLength a + byteLength b := by
  induction a with
  | nil => simp
  | cons c a ih => simp [ih, Nat.add_assoc]

theorem size_utf8Encode : ∀ cs : List Char, cs.utf8Encode.size = byteLength cs
  | [] => by simp
  | c :: cs => by
    rw [List.utf8Encode_cons, ByteArray.size_append, List.utf8Encode_singleton,
      List.size_toByteArray, String.length_utf8EncodeChar, size_utf8Encode cs, byteLength_cons]

theorem fromUTF8_utf8Encode (cs : List Char) : String.fromUTF8! cs.utf8Encode = String.ofList cs := by
  rw [String.fromUTF8!, dif_pos ByteArray.isValidUTF8_utf8Encode, ← String.toByteArray_inj]
  simp [String.fromUTF8]

theorem utf8ByteSize_eq_byteLength (query : String) : query.utf8ByteSize = byteLength query.toList := by
  rw [← String.size_toByteArray, ← String.utf8Encode_toList, size_utf8Encode]

/-- **The bytes of a statement between two offsets**, at the offsets where a middle part starts
and ends, are that part. -/
theorem byteSlice_middle {query : String} {a b c : List Char} (h : query.toList = a ++ b ++ c) :
    byteSlice query (byteLength a) (byteLength a + byteLength b) = String.ofList b := by
  have hq : query.toUTF8 = a.utf8Encode ++ (b.utf8Encode ++ c.utf8Encode) := by
    rw [String.toUTF8_eq_toByteArray, ← String.utf8Encode_toList, h]
    simp
  have hb : (a.utf8Encode ++ (b.utf8Encode ++ c.utf8Encode)).extract (byteLength a)
      (byteLength a + byteLength b) = b.utf8Encode := by
    have hshift := ByteArray.extract_append_size_add (a := a.utf8Encode)
      (b := b.utf8Encode ++ c.utf8Encode) (i := 0) (j := b.utf8Encode.size)
    rw [Nat.add_zero] at hshift
    rw [← size_utf8Encode a, ← size_utf8Encode b, hshift]
    exact ByteArray.extract_append_eq_left rfl
  rw [byteSlice, hq, hb, fromUTF8_utf8Encode]

/-- A statement is the bytes from its start to its end. -/
theorem byteSlice_whole (query : String) : byteSlice query 0 query.utf8ByteSize = query := by
  have h := byteSlice_middle (a := []) (c := []) (show query.toList = [] ++ query.toList ++ [] by simp)
  rw [byteLength_nil, Nat.zero_add, ← utf8ByteSize_eq_byteLength, String.ofList_toList] at h
  exact h

/-- Name characters are ASCII, one byte each. -/
theorem nameChar_utf8Size {first : Bool} {c : Char} (h : nameChar first c = true) : c.utf8Size = 1 := by
  have hlt : c.toNat < 128 := by
    by_cases hc : c.toNat < 128
    · exact hc
    · have hu : c = '_' := by simpa [nameChar, hc] using h
      subst hu
      decide
  rw [Char.utf8Size_eq_one_iff, UInt32.le_iff_toNat_le]
  exact Nat.le_of_lt_succ hlt

theorem byteLength_of_nameChars {first : Bool} {cs : List Char} (h : ∀ c ∈ cs, nameChar first c = true) :
    byteLength cs = cs.length := by
  induction cs with
  | nil => rfl
  | cons c cs ih =>
    rw [byteLength_cons, nameChar_utf8Size (h c (by simp)), ih (fun x hx => h x (by simp [hx]))]
    simp [Nat.add_comm]

theorem isQuoteChar_utf8Size {q : Char} (hq : isQuoteChar q = true) : q.utf8Size = 1 := by
  simp only [isQuoteChar, Bool.or_eq_true, beq_iff_eq] at hq
  rcases hq with (rfl | rfl) | rfl <;> rfl

/-! ## Splicing -/

/-- **A statement with its marker spans replaced**: from offset `last` on, the text up to each
marker's colon, then what `put` gives for the marker, and after the last marker the rest. -/
def splice (query : String) (put : Marker → String) : Nat → List Marker → String
  | last, [] => byteSlice query last query.utf8ByteSize
  | last, m :: ms => byteSlice query last m.start ++ put m ++ splice query put m.stop ms

/-! ## The scanner, one step at a time -/

section

variable {f pos : Nat}

/-- Skipping a quoted text passes a part of the text and counts its bytes. -/
theorem skipQuoted_some {q : Char} (hq : q.utf8Size = 1) {cs after : List Char} {n used : Nat}
    (h : skipQuoted q cs n = some (after, used)) :
    ∃ body, cs = body ++ after ∧ used = n + byteLength body := by
  fun_induction skipQuoted q cs n generalizing after used with
  | case1 n => cases h
  | case2 c n hc =>
    obtain ⟨rfl, rfl⟩ := Prod.mk.inj (Option.some.inj h)
    simp only [beq_iff_eq] at hc
    exact ⟨[c], by simp, by simp [hc, hq]⟩
  | case3 c n hc => cases h
  | case4 c c' rest n hc hc' ih =>
    obtain ⟨body, rfl, rfl⟩ := ih h
    simp only [beq_iff_eq] at hc hc'
    exact ⟨c :: c' :: body, by simp, by simp [hc, hc', hq]; omega⟩
  | case5 c c' rest n hc hc' =>
    obtain ⟨rfl, rfl⟩ := Prod.mk.inj (Option.some.inj h)
    simp only [beq_iff_eq] at hc
    exact ⟨[c], by simp, by simp [hc, hq]⟩
  | case6 c c' rest n hc ih =>
    obtain ⟨body, hbody, rfl⟩ := ih h
    exact ⟨c :: body, by simp [hbody], by simp; omega⟩

theorem scan_quote_none {c : Char} (hc : isQuoteChar c = true) {rest : List Char}
    (h : skipQuoted c rest 0 = none) : scan (f + 1) (c :: rest) pos = [] := by
  have hquote : (c == '\'' || c == '"' || c == '\x60') = true := hc
  simp only [scan, hquote, ↓reduceIte, h]

theorem scan_quote_some {c : Char} (hc : isQuoteChar c = true) {rest after : List Char} {used : Nat}
    (h : skipQuoted c rest 0 = some (after, used)) :
    scan (f + 1) (c :: rest) pos = scan f after (pos + 1 + used) := by
  have hquote : (c == '\'' || c == '"' || c == '\x60') = true := hc
  simp only [scan, hquote, ↓reduceIte, h]

theorem colon_not_quote : ¬((':' == '\'' || ':' == '"' || ':' == '\x60') = true) := by decide

/-- A double colon is skipped whole. -/
theorem scan_cast (more : List Char) : scan (f + 1) (':' :: ':' :: more) pos = scan f more (pos + 2) := by
  simp only [scan, if_neg colon_not_quote, beq_self_eq_true, ↓reduceIte]

/-- A colon before no name is passed. -/
theorem scan_colon_bare {rest : List Char} (hcast : rest.head? ≠ some ':')
    (hname : ∀ d ∈ rest.head?, nameChar true d = false) :
    scan (f + 1) (':' :: rest) pos = scan f rest (pos + 1) := by
  simp only [scan, if_neg colon_not_quote, beq_self_eq_true, ↓reduceIte]
  split
  · simp at hcast
  · cases rest with
    | nil => rfl
    | cons d more => simp [hname d rfl]

/-- A colon before a name is a marker, up to the first character that cannot be in a name. -/
theorem scan_colon_name {d : Char} {more : List Char} (hd : nameChar true d = true) :
    scan (f + 1) (':' :: d :: more) pos =
      ⟨String.ofList (d :: more.takeWhile (nameChar false)), pos,
        pos + 1 + ((more.takeWhile (nameChar false)).length + 1)⟩ ::
        scan f (more.dropWhile (nameChar false)) (pos + 1 + ((more.takeWhile (nameChar false)).length + 1)) := by
  have hsplit : d :: more = d :: more.takeWhile (nameChar false) ++ more.dropWhile (nameChar false) := by
    simp
  have hfollow : Follows (fun c => !nameChar false c) (more.dropWhile (nameChar false)) := by
    cases hdw : more.dropWhile (nameChar false) with
    | nil => trivial
    | cons x xs =>
      have := List.head_dropWhile_not (nameChar false) (l := more) (by simp [hdw])
      simpa [hdw, Follows] using this
  rw [hsplit]
  exact scan_marker hd (List.all_eq_true.mp List.all_takeWhile) hfollow f pos

end

/-! ## The spans are exact -/

/-- **Putting the markers back**: scanning the rest `cs` of a statement `pre ++ mid ++ cs`, with
the text from the end of `pre` not yet written, and writing every marker found as its own text,
gives `mid ++ cs`. The induction on the fuel follows the scanner: a quoted text is passed whole,
and one never closed ends the scan; a cast and any other character are passed; a marker's span
is its own text, and the scan goes on after it. -/
theorem splice_scan_self (query : String) : ∀ (fuel : Nat) (pre mid cs : List Char),
    query.toList = pre ++ mid ++ cs → cs.length < fuel →
    splice query (fun m => ":" ++ m.name) (byteLength pre)
      (scan fuel cs (byteLength pre + byteLength mid)) = String.ofList (mid ++ cs) := by
  intro fuel
  induction fuel with
  | zero => intro _ _ _ _ hlen; omega
  | succ f ih =>
    intro pre mid cs hq hlen
    have htail : ∀ mid', query.toList = pre ++ mid' ++ [] →
        splice query (fun m => ":" ++ m.name) (byteLength pre) [] = String.ofList mid' := by
      intro mid' h'
      have hsize : query.utf8ByteSize = byteLength pre + byteLength mid' := by
        rw [utf8ByteSize_eq_byteLength, h']
        simp
      rw [splice, hsize, byteSlice_middle h']
    cases cs with
    | nil =>
      simp only [List.append_nil] at hq ⊢
      rw [show scan (f + 1) [] _ = [] from rfl]
      exact htail mid (by simpa using hq)
    | cons c rest =>
      have hrest : rest.length < f := by simp at hlen; omega
      by_cases hquote : isQuoteChar c = true
      · cases hs : skipQuoted c rest 0 with
        | none =>
          rw [scan_quote_none hquote hs]
          exact htail (mid ++ c :: rest) (by simpa using hq)
        | some p =>
          obtain ⟨after, used⟩ := p
          obtain ⟨body, rfl, rfl⟩ := skipQuoted_some (isQuoteChar_utf8Size hquote) hs
          have hpos : byteLength pre + byteLength mid + 1 + (0 + byteLength body) =
              byteLength pre + byteLength (mid ++ c :: body) := by
            simp [isQuoteChar_utf8Size hquote]
            omega
          rw [scan_quote_some hquote hs, hpos,
            ih pre (mid ++ c :: body) after (by simpa using hq) (by simp at hrest; omega)]
          simp
      by_cases hcolon : c = ':'
      · subst hcolon
        have hsize : (':').utf8Size = 1 := rfl
        cases rest with
        | nil =>
          rw [scan_colon_bare (by simp) (by simp)]
          have hpos : byteLength pre + byteLength mid + 1 = byteLength pre + byteLength (mid ++ [':']) := by
            simp [hsize]
            omega
          rw [hpos, ih pre (mid ++ [':']) [] (by simpa using hq) (by simp; omega)]
          simp
        | cons d more =>
          by_cases hd : d = ':'
          · subst hd
            have hpos : byteLength pre + byteLength mid + 2 =
                byteLength pre + byteLength (mid ++ [':', ':']) := by
              simp [hsize]
              omega
            rw [scan_cast, hpos, ih pre (mid ++ [':', ':']) more (by simpa using hq) (by simp at hrest; omega)]
            simp
          by_cases hn : nameChar true d = true
          · rw [scan_colon_name hn, splice]
            have htw : ∀ x ∈ more.takeWhile (nameChar false), nameChar false x = true :=
              List.all_eq_true.mp List.all_takeWhile
            have hmore : more = more.takeWhile (nameChar false) ++ more.dropWhile (nameChar false) :=
              List.takeWhile_append_dropWhile.symm
            generalize more.takeWhile (nameChar false) = tw at htw hmore ⊢
            generalize more.dropWhile (nameChar false) = dw at hmore ⊢
            subst hmore
            have hstop : byteLength (pre ++ mid ++ ':' :: d :: tw) =
                byteLength pre + byteLength mid + 1 + (tw.length + 1) := by
              simp [hsize, byteLength_of_nameChars htw, nameChar_utf8Size hn]
              omega
            have hih := ih (pre ++ mid ++ ':' :: d :: tw) [] dw (by simp [hq])
              (by simp at hrest; omega)
            rw [byteLength_nil, Nat.add_zero, hstop] at hih
            rw [hih, byteSlice_middle hq]
            apply String.ext
            simp
          · rw [scan_colon_bare (by simp [hd]) (by simp [hn])]
            have hpos : byteLength pre + byteLength mid + 1 = byteLength pre + byteLength (mid ++ [':']) := by
              simp [hsize]
              omega
            rw [hpos, ih pre (mid ++ [':']) (d :: more) (by simpa using hq) (by simp at hrest ⊢; omega)]
            simp
      · have hplain : isPlain c = true := isPlain_iff.mpr ⟨hcolon, by simpa using hquote⟩
        have hpos : byteLength pre + byteLength mid + c.utf8Size = byteLength pre + byteLength (mid ++ [c]) := by
          simp
          omega
        rw [scan_plain hplain, hpos, ih pre (mid ++ [c]) rest (by simpa using hq) hrest]
        simp

/-- **The spans of the markers are exact**: writing every marker as its own text, at the span
the scanner reports, gives the statement. -/
theorem splice_markers_self (query : String) :
    splice query (fun m => ":" ++ m.name) 0 (markers query) = query := by
  have h := splice_scan_self query (query.length + 1) [] [] query.toList (by simp)
    (by simp [String.length_toList])
  simpa [markers, String.ofList_toList] using h

/-! ## Placeholders for markers -/

/-- A name added to an order of names, unless it is there already. -/
def noteName (order : List String) (n : String) : List String :=
  if order.contains n then order else order ++ [n]

theorem distinctNames_eq_foldl (names : List String) :
    distinctNames names = names.foldl noteName [] := rfl

theorem mem_noteName_self (order : List String) (n : String) : n ∈ noteName order n := by
  unfold noteName
  split <;> simp_all

/-- Noting names only ever adds to the end. -/
theorem prefix_foldl_noteName : ∀ (names order : List String), order <+: names.foldl noteName order
  | [], order => List.prefix_refl order
  | n :: names, order => by
    refine List.IsPrefix.trans ?_ (prefix_foldl_noteName names (noteName order n))
    unfold noteName
    split
    · exact List.prefix_refl _
    · exact List.prefix_append _ _

theorem idxOf_of_prefix {l₁ l₂ : List String} {a : String} (h : l₁ <+: l₂) (ha : a ∈ l₁) :
    l₂.idxOf a = l₁.idxOf a := by
  obtain ⟨t, rfl⟩ := h
  rw [List.idxOf_append, if_pos ha]

theorem foldl_snoc : ∀ (names order : List String),
    names.foldl (fun order n => order ++ [n]) order = order ++ names
  | [], order => by simp
  | n :: names, order => by
    rw [List.foldl_cons, foldl_snoc names (order ++ [n])]
    simp

/-- **A fold that writes the text up to each marker and then something for it** writes a splice
of the markers: what it writes for each marker depends on the order of names it has reached,
and the splice puts there what `put` gives, given that the two agree at every marker. -/
theorem foldl_splice (query : String) (emit : List String → Marker → String)
    (next : List String → String → List String)
    (f : String × List String × Nat → Marker → String × List String × Nat)
    (hf : ∀ acc m, f acc m =
      (acc.1 ++ byteSlice query acc.2.2 m.start ++ emit acc.2.1 m, next acc.2.1 m.name, m.stop))
    (put : Marker → String) :
    ∀ (ms : List Marker) (out : String) (order : List String) (last : Nat),
      (∀ pre m post, ms = pre ++ m :: post → emit ((pre.map (·.name)).foldl next order) m = put m) →
      ((ms.foldl f (out, order, last)).1 ++
          byteSlice query (ms.foldl f (out, order, last)).2.2 query.utf8ByteSize,
        (ms.foldl f (out, order, last)).2.1) =
      (out ++ splice query put last ms, (ms.map (·.name)).foldl next order)
  | [], out, order, last, _ => rfl
  | m :: ms, out, order, last, hemit => by
    have hm : emit order m = put m := hemit [] m ms rfl
    rw [List.foldl_cons, hf, foldl_splice query emit next f hf put ms _ (next order m.name) m.stop
      (fun pre m' post hms => by simpa using hemit (m :: pre) m' post (by simp [hms]))]
    simp only [hm, splice, String.append_assoc, List.map_cons, List.foldl_cons]

/-- **Numbered placeholders**, one per distinct name: each marker is replaced by the placeholder
numbered one more than the place of its name among the marker names, and those names give the
order of the values. A name seen before keeps its number and a new one takes the next, so the
number of a name, once noted, is its place among all the marker names. -/
theorem substitute_reuse (query : String) (placeholder : Nat → String) :
    substitute query placeholder true =
      (splice query (fun m => placeholder ((markerNames query).idxOf m.name + 1)) 0 (markers query),
        markerNames query) := by
  unfold substitute
  by_cases hempty : (markers query).isEmpty = true
  · have hnil : markers query = [] := List.isEmpty_iff.mp hempty
    simp [hnil, splice, markerNames, distinctNames, byteSlice_whole]
  · simp only [hempty, Bool.false_eq_true, ↓reduceIte]
    refine (foldl_splice query (fun order m => placeholder ((noteName order m.name).idxOf m.name + 1))
      noteName _ ?_ (fun m => placeholder ((markerNames query).idxOf m.name + 1)) (markers query)
      "" [] 0 ?_).trans ?_
    · rintro ⟨out, order, last⟩ m
      dsimp only
      split
      · rename_i i hi
        obtain ⟨hlt, hidx⟩ := List.findIdx?_eq_some_iff_findIdx_eq.mp hi
        have hidx' : order.idxOf m.name = i := hidx
        have hmem : m.name ∈ order := List.idxOf_lt_length_iff.mp (hidx' ▸ hlt)
        have hnote : noteName order m.name = order := by simp [noteName, hmem]
        rw [hnote, hidx']
      · rename_i hnone
        have hmem : m.name ∉ order := by
          intro hmem
          exact absurd (List.findIdx?_eq_none_iff.mp hnone m.name hmem) (by simp)
        have hnote : noteName order m.name = order ++ [m.name] := by simp [noteName, hmem]
        rw [hnote, List.idxOf_append, if_neg hmem]
        simp
    · intro pre m post hms
      have hall : markerNames query =
          (post.map (·.name)).foldl noteName (noteName ((pre.map (·.name)).foldl noteName []) m.name) := by
        rw [markerNames, distinctNames_eq_foldl, hms]
        simp
      rw [hall, idxOf_of_prefix (prefix_foldl_noteName _ _) (mem_noteName_self _ _)]
    · rw [String.empty_append, markerNames, distinctNames_eq_foldl]

/-- **Positional placeholders**, one per marker: every marker is replaced by the same
placeholder, and the markers' names, repeats included, give the order of the values. -/
theorem substitute_each (query : String) (placeholder : Nat → String) (p : String)
    (hp : ∀ n, placeholder n = p) :
    substitute query placeholder false =
      (splice query (fun _ => p) 0 (markers query), (markers query).map (·.name)) := by
  unfold substitute
  by_cases hempty : (markers query).isEmpty = true
  · have hnil : markers query = [] := List.isEmpty_iff.mp hempty
    simp [hnil, splice, byteSlice_whole]
  · simp only [hempty, Bool.false_eq_true, ↓reduceIte]
    refine (foldl_splice query (fun order _ => placeholder (order.length + 1))
      (fun order n => order ++ [n]) _ (fun _ _ => rfl) (fun _ => p) (markers query) "" [] 0
      (fun _ _ _ _ => hp _)).trans ?_
    rw [String.empty_append, foldl_snoc, List.nil_append]

/-! ## Readying -/

section

variable {d : Dialect} (query : String) (lookup : String → Option Value)

/-- Readying passes the values of the names the style puts behind its placeholders. -/
theorem bindFor_named (h : d.bindStyle = .named) :
    bindFor d query lookup = (bindFor.args d lookup (markerNames query)).map (fun a => (query, a)) := by
  simp only [bindFor, h]

theorem bindFor_numbered (h : d.bindStyle = .numbered) :
    bindFor d query lookup =
      (bindFor.args d lookup (substitute query (fun n => d.placeholder n) true).2).map
        (fun a => ((substitute query (fun n => d.placeholder n) true).1, a)) := by
  simp only [bindFor, h]

theorem bindFor_positional (h : d.bindStyle = .positional) :
    bindFor d query lookup =
      (bindFor.args d lookup (substitute query (fun n => d.placeholder n) false).2).map
        (fun a => ((substitute query (fun n => d.placeholder n) false).1, a)) := by
  simp only [bindFor, h]

end

/-- **A list of names is refused**, as invalid input, exactly when one of them has no value. -/
theorem bindFor_args_refused (d : Dialect) (lookup : String → Option Value) :
    ∀ names : List String, (∃ f, bindFor.args d lookup names = .error f ∧ f.kind = .invalidInput) ↔
      ∃ n ∈ names, lookup n = none
  | [] => by simp [bindFor.args]
  | n :: rest => by
    cases hn : lookup n with
    | none =>
      refine ⟨fun _ => ⟨n, List.mem_cons_self .., hn⟩, fun _ => ?_⟩
      exact ⟨Fault.invalid "bind" ("no value bound for parameter :" ++ n),
        by simp [bindFor.args, hn], rfl⟩
    | some v =>
      have ih := bindFor_args_refused d lookup rest
      cases hrest : bindFor.args d lookup rest with
      | error e => simp_all [bindFor.args]
      | ok more => simp_all [bindFor.args]

theorem mem_foldl_noteName {n : String} :
    ∀ (names order : List String), n ∈ names.foldl noteName order ↔ n ∈ order ∨ n ∈ names
  | [], order => by simp
  | x :: names, order => by
    rw [List.foldl_cons, mem_foldl_noteName names (noteName order x)]
    unfold noteName
    split
    · rename_i hx
      have hx' : x ∈ order := by simpa using hx
      by_cases hnx : n = x
      · subst hnx
        simp [hx']
      · simp [hnx]
    · simp [or_assoc]

theorem mem_distinctNames {names : List String} {n : String} :
    n ∈ distinctNames names ↔ n ∈ names := by
  simp [distinctNames_eq_foldl, mem_foldl_noteName]

/-- Readying for a dialect is refused exactly when the names behind its placeholders are, when
those are the marker names in some order and number. -/
theorem bindFor_refused_of_names {d : Dialect} {query : String} {lookup : String → Option Value}
    {text : String} {names : List String}
    (hbind : bindFor d query lookup = (bindFor.args d lookup names).map (fun a => (text, a)))
    (hnames : ∀ n, n ∈ names ↔ ∃ m ∈ markers query, m.name = n) :
    (∃ f, bindFor d query lookup = .error f ∧ f.kind = .invalidInput) ↔
      ∃ m ∈ markers query, lookup m.name = none := by
  have hmap : ∀ f, bindFor d query lookup = .error f ↔ bindFor.args d lookup names = .error f := by
    intro f
    rw [hbind]
    cases bindFor.args d lookup names <;> simp [Except.map]
  simp only [hmap, bindFor_args_refused, hnames]
  constructor
  · rintro ⟨n, ⟨m, hm, rfl⟩, hn⟩
    exact ⟨m, hm, hn⟩
  · rintro ⟨m, hm, hn⟩
    exact ⟨m.name, ⟨m, hm, rfl⟩, hn⟩

/-! ## The three dialects -/

theorem postgres_placeholder (n : Nat) : Dialect.postgres.placeholder n = "$" ++ toString n := rfl

theorem mysql_placeholder (n : Nat) : Dialect.mysql.placeholder n = "?" := rfl

section

variable (query : String) (lookup : String → Option Value)

theorem bindFor_postgres : bindFor .postgres query lookup =
    (bindFor.args .postgres lookup (markerNames query)).map (fun a =>
      (splice query (fun m => "$" ++ toString ((markerNames query).idxOf m.name + 1)) 0 (markers query), a)) := by
  simp only [bindFor_numbered query lookup (d := .postgres) rfl, substitute_reuse, postgres_placeholder]

theorem bindFor_mysql : bindFor .mysql query lookup =
    (bindFor.args .mysql lookup ((markers query).map (·.name))).map (fun a =>
      (splice query (fun _ => "?") 0 (markers query), a)) := by
  rw [bindFor_positional query lookup (d := .mysql) rfl,
    substitute_each query _ "?" mysql_placeholder]

theorem bindFor_sqlite : bindFor .sqlite query lookup =
    (bindFor.args .sqlite lookup (markerNames query)).map (fun a => (query, a)) :=
  bindFor_named query lookup rfl

theorem mem_markerNames {n : String} : n ∈ markerNames query ↔ ∃ m ∈ markers query, m.name = n := by
  simp [markerNames, mem_distinctNames]

end

/-- **Readying a statement rewrites exactly its markers.** Writing every marker's own text at the
span the scanner reports gives the statement back; each dialect refuses the statement, as invalid
input, exactly when some marker's name has no value; and when every name has one, PostgreSQL
replaces a marker by `$k`, `k` one more than the place of its name among the marker names, and
passes the values of those names in order, MySQL replaces every marker by `?` and passes the
values marker by marker, repeats included, and SQLite keeps the text and passes each marker
name's value under that name. -/
theorem readying_rewrites_exactly_the_markers (query : String) (lookup : String → Option Value) :
    splice query (fun m => ":" ++ m.name) 0 (markers query) = query ∧
    (∀ d ∈ [Dialect.mysql, Dialect.postgres, Dialect.sqlite],
      (∃ f, bindFor d query lookup = .error f ∧ f.kind = .invalidInput) ↔
        ∃ m ∈ markers query, lookup m.name = none) ∧
    ((∀ m ∈ markers query, (lookup m.name).isSome) →
      (∃ args, bindFor .postgres query lookup =
          .ok (splice query (fun m => "$" ++ toString ((markerNames query).idxOf m.name + 1)) 0
            (markers query), args) ∧
        List.Forall₂ (fun a n => a.name = none ∧ lookup n = some a.value) args (markerNames query)) ∧
      (∃ args, bindFor .mysql query lookup = .ok (splice query (fun _ => "?") 0 (markers query), args) ∧
        List.Forall₂ (fun a m => a.name = none ∧ lookup m.name = some a.value) args (markers query)) ∧
      (∃ args, bindFor .sqlite query lookup = .ok (query, args) ∧
        List.Forall₂ (fun a n => a.name = some n ∧ lookup n = some a.value) args
          (markerNames query))) := by
  refine ⟨splice_markers_self query, ?_, ?_⟩
  · intro d hd
    simp only [List.mem_cons, List.not_mem_nil, or_false] at hd
    rcases hd with rfl | rfl | rfl
    · exact bindFor_refused_of_names (bindFor_mysql query lookup) (fun n => by simp)
    · exact bindFor_refused_of_names (bindFor_postgres query lookup) (fun n => mem_markerNames query)
    · exact bindFor_refused_of_names (bindFor_sqlite query lookup) (fun n => mem_markerNames query)
  · intro hall
    have hnames : ∀ n ∈ markerNames query, (lookup n).isSome := by
      intro n hn
      obtain ⟨m, hm, rfl⟩ := (mem_markerNames query).mp hn
      exact hall m hm
    obtain ⟨pgArgs, hpg, hpgAll⟩ := bindFor_args_bound .postgres lookup _ hnames
    obtain ⟨myArgs, hmy, hmyAll⟩ := bindFor_args_bound .mysql lookup ((markers query).map (·.name))
      (by simpa using hall)
    obtain ⟨sqArgs, hsq, hsqAll⟩ := bindFor_args_bound .sqlite lookup _ hnames
    have hmyMarkers : List.Forall₂ (fun a n => a.name = none ∧ lookup n = some a.value) myArgs
        ((markers query).map (·.name)) := hmyAll.imp (fun _ _ h => ⟨h.1, h.2⟩)
    refine ⟨⟨pgArgs, ?_, hpgAll.imp (fun _ _ h => ⟨h.1, h.2⟩)⟩,
      ⟨myArgs, ?_, List.forall₂_map_right_iff.mp hmyMarkers⟩,
      ⟨sqArgs, ?_, hsqAll.imp (fun _ _ h => ⟨h.1, h.2⟩)⟩⟩
    · rw [bindFor_postgres, hpg]
      rfl
    · rw [bindFor_mysql, hmy]
      rfl
    · rw [bindFor_sqlite, hsq]
      rfl

end QueryKit.Sql
