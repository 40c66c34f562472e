import SearchQuery.Proofs.Text.Normal

/-! Texts put together from pieces, with blanks around them and between them. Trimming takes off the
blanks at either end, and lower case goes piece by piece, since only a capital sigma looks at what
stands beside it. Main statements: `trimChars_of_spaced`, `lowerChars_append`, `normal_spaced`. -/
namespace SearchQuery.Text

/-! ### Blanks -/

/-- Nothing but blanks. -/
def Blank (cs : List Char) : Prop := ∀ c ∈ cs, isBlank c = true

theorem Blank.append {xs ys : List Char} (hx : Blank xs) (hy : Blank ys) : Blank (xs ++ ys) :=
  List.forall_mem_append.mpr ⟨hx, hy⟩

theorem Blank.reverse {cs : List Char} (h : Blank cs) : Blank cs.reverse :=
  fun c hc => h c (List.mem_reverse.mp hc)

/-- What trimming takes off is blank. -/
theorem eq_blank_append_trimChars (cs : List Char) :
    ∃ before after, Blank before ∧ Blank after ∧ cs = before ++ trimChars cs ++ after := by
  have hbefore : Blank (cs.takeWhile isBlank) := fun c hc => List.mem_takeWhile_imp hc
  have hafter : Blank ((cs.dropWhile isBlank).reverse.takeWhile isBlank).reverse :=
    Blank.reverse fun c hc => List.mem_takeWhile_imp hc
  refine ⟨_, _, hbefore, hafter, ?_⟩
  rw [trimChars, List.append_assoc, ← List.reverse_append, List.takeWhile_append_dropWhile,
    List.reverse_reverse, List.takeWhile_append_dropWhile]

theorem trimChars_of_spaced {before cs after : List Char} (hbefore : Blank before)
    (hafter : Blank after) (h : Trimmed cs) (hne : cs ≠ []) :
    trimChars (before ++ cs ++ after) = cs := by
  have hfirst : (before ++ cs ++ after).dropWhile isBlank = cs ++ after := by
    rw [List.append_assoc, List.dropWhile_append_of_pos hbefore]
    refine dropWhile_eq_self fun c hc => h.1 c ?_
    rwa [List.head?_append_of_ne_nil _ hne] at hc
  have hlast : (cs ++ after).reverse.dropWhile isBlank = cs.reverse := by
    rw [List.reverse_append, List.dropWhile_append_of_pos hafter.reverse]
    exact dropWhile_eq_self fun c hc => h.2 c (by rwa [List.head?_reverse] at hc)
  rw [trimChars, hfirst, hlast, List.reverse_reverse]

theorem trimChars_eq_nil_iff {cs : List Char} : trimChars cs = [] ↔ Blank cs := by
  constructor
  · intro h
    obtain ⟨before, after, hbefore, hafter, hcs⟩ := eq_blank_append_trimChars cs
    rw [hcs, h, List.append_nil]
    exact hbefore.append hafter
  · intro h
    rw [trimChars, List.dropWhile_eq_nil_iff.mpr h]
    rfl

/-- Whatever stands between two trimmed pieces. -/
theorem Trimmed.append {xs ys : List Char} (hx : Trimmed xs) (hy : Trimmed ys) (hxs : xs ≠ [])
    (hys : ys ≠ []) (between : List Char) : Trimmed (xs ++ between ++ ys) := by
  constructor
  · intro c hc
    rw [List.append_assoc, List.head?_append_of_ne_nil _ hxs] at hc
    exact hx.1 c hc
  · intro c hc
    rw [List.getLast?_append_of_ne_nil _ hys] at hc
    exact hy.2 c hc

/-! ### Lower case of pieces -/

/-- The lower case of a character that is no capital sigma, wherever it stands. -/
def lowerAlone (c : Char) : List Char := if c = 'İ' then ['i', '\u0307'] else [lowerChar c]

theorem lowerFrom_eq_flatMap (before : List Char) {cs : List Char} (h : 'Σ' ∉ cs) :
    lowerFrom before cs = cs.flatMap lowerAlone := by
  induction cs generalizing before with
  | nil => rfl
  | cons c rest ih =>
    obtain ⟨hc, hrest⟩ := not_or.mp (List.mem_cons.not.mp h)
    rw [lowerFrom, if_neg (Ne.symm hc), ih _ hrest, List.flatMap_cons]
    rfl

theorem lowerChars_append {xs ys : List Char} (hx : 'Σ' ∉ xs) (hy : 'Σ' ∉ ys) :
    lowerChars (xs ++ ys) = lowerChars xs ++ lowerChars ys := by
  have hxy : 'Σ' ∉ xs ++ ys := fun h => (List.mem_append.mp h).elim hx hy
  rw [lowerChars, lowerChars, lowerChars, lowerFrom_eq_flatMap [] hxy, lowerFrom_eq_flatMap [] hx,
    lowerFrom_eq_flatMap [] hy, List.flatMap_append]

/-- A capital sigma shows in lower case. -/
theorem sigma_mem_lowerFrom (before : List Char) {cs : List Char} (h : 'Σ' ∈ cs) :
    'σ' ∈ lowerFrom before cs ∨ 'ς' ∈ lowerFrom before cs := by
  induction cs generalizing before with
  | nil => cases h
  | cons c rest ih =>
    rw [lowerFrom]
    obtain rfl | hrest := List.mem_cons.mp h
    · rw [if_pos rfl, lowerSigma]
      split
      · exact .inr (List.mem_cons_self ..)
      · exact .inl (List.mem_cons_self ..)
    · exact (ih (c :: before) hrest).imp (List.mem_append_right _) (List.mem_append_right _)

theorem capitals_apart_blanks :
    (blankRanges.all fun (first, last) => capitals.all (Run.apart ⟨first, last, 1⟩)) = true := by
  decide +kernel

theorem isLower_of_isBlank {c : Char} (h : isBlank c = true) : IsLower c := by
  obtain ⟨range, hrange, hc⟩ := List.any_eq_true.mp h
  have hhas : (⟨range.1, range.2, 1⟩ : Run).has c.toNat = true := by
    simpa [Run.has, Nat.mod_one] using hc
  constructor
  · rintro rfl
    exact absurd h (by decide)
  · intro run hrun
    have hapart := List.all_eq_true.mp (List.all_eq_true.mp capitals_apart_blanks range hrange)
    exact Run.not_has_of_apart (hapart run hrun) hhas

theorem lowerChars_of_blank {cs : List Char} (h : Blank cs) : lowerChars cs = cs :=
  lowerFrom_eq_self [] fun c hc => isLower_of_isBlank (h c hc)

theorem sigma_notMem_of_blank {cs : List Char} (h : Blank cs) : 'Σ' ∉ cs :=
  fun hmem => absurd (h _ hmem) (by decide)

/-- A piece is trimmed once its lower case is. -/
theorem trimmed_of_lowerChars {cs : List Char} (hsigma : 'Σ' ∉ cs)
    (h : Trimmed (lowerChars cs)) : Trimmed cs := by
  have hkept {c : Char} (hc : isBlank c ≠ false) : Blank [c] := fun d hd => by
    rw [List.mem_singleton.mp hd]
    exact eq_true_of_ne_false hc
  constructor
  · intro c hc
    by_contra hblank
    obtain ⟨rest, rfl⟩ := List.head?_eq_some_iff.mp hc
    have hrest : 'Σ' ∉ rest := fun hmem => hsigma (List.mem_cons_of_mem c hmem)
    have hlower : lowerChars ([c] ++ rest) = [c] ++ lowerChars rest := by
      rw [lowerChars_append (sigma_notMem_of_blank (hkept hblank)) hrest,
        lowerChars_of_blank (hkept hblank)]
    exact hblank (h.1 c (congrArg List.head? hlower))
  · intro c hc
    by_contra hblank
    obtain ⟨init, rfl⟩ := List.getLast?_eq_some_iff.mp hc
    have hinit : 'Σ' ∉ init := fun hmem => hsigma (List.mem_append_left _ hmem)
    have hlower : lowerChars (init ++ [c]) = lowerChars init ++ [c] := by
      rw [lowerChars_append hinit (sigma_notMem_of_blank (hkept hblank)),
        lowerChars_of_blank (hkept hblank)]
    refine hblank (h.2 c ?_)
    rw [hlower, List.getLast?_concat]
    rfl

/-! ### Texts -/

theorem toList_lower (s : String) : (lower s).toList = lowerChars s.toList := by
  rw [lower, String.toList_ofList]

theorem toList_trim (s : String) : (trim s).toList = trimChars s.toList := by
  rw [trim, String.toList_ofList]

theorem isEmpty_trim_iff {s : String} : (trim s).isEmpty = true ↔ Blank s.toList := by
  rw [String.isEmpty_iff, ← String.toList_eq_nil_iff, toList_trim, trimChars_eq_nil_iff]

theorem trim_of_spaced {before : List Char} {s : String} (hbefore : Blank before)
    (h : Trimmed s.toList) (hne : s.toList ≠ []) :
    trim (String.ofList (before ++ s.toList)) = s := by
  have hnil : Blank [] := fun c hc => nomatch hc
  have hspaced := trimChars_of_spaced hbefore hnil h hne
  rw [List.append_nil] at hspaced
  rw [trim, String.toList_ofList, hspaced, String.ofList_toList]

theorem sigma_notMem_of_lower {s : String} (h : 'σ' ∉ (lower s).toList)
    (hfinal : 'ς' ∉ (lower s).toList) : 'Σ' ∉ s.toList := by
  rw [toList_lower] at h hfinal
  exact fun hmem => (sigma_mem_lowerFrom [] hmem).elim h hfinal

theorem toList_ne_nil_of_lower {s : String} (h : lower s ≠ "") : s.toList ≠ [] := by
  intro hnil
  rw [lower, hnil] at h
  exact h rfl

/-- The normal form of a text put together from two pieces: theirs, with the blanks that stand
between them. -/
theorem normal_spaced {before first between second after : String} (hbefore : Blank before.toList)
    (hbetween : Blank between.toList) (hafter : Blank after.toList) (hfirst : Trimmed first.toList)
    (hne : first.toList ≠ []) (hsigma : 'Σ' ∉ first.toList)
    (hne' : (trim second).toList ≠ []) (hsigma' : 'Σ' ∉ (trim second).toList) :
    ∃ gap, Blank gap ∧ (normal (before ++ first ++ between ++ second ++ after)).toList =
      (lower first).toList ++ gap ++ (normal second).toList := by
  rw [toList_trim] at hne' hsigma'
  obtain ⟨l, r, hl, hr, hsecond⟩ := eq_blank_append_trimChars second.toList
  have hgap : Blank (between.toList ++ l) := hbetween.append hl
  have hgap' : 'Σ' ∉ between.toList ++ l := sigma_notMem_of_blank hgap
  have hfront : 'Σ' ∉ first.toList ++ (between.toList ++ l) :=
    fun h => (List.mem_append.mp h).elim hsigma hgap'
  have hpieces : (before ++ first ++ between ++ second ++ after).toList =
      before.toList ++ (first.toList ++ (between.toList ++ l) ++ trimChars second.toList) ++
        (r ++ after.toList) := by
    simp only [String.toList_append]
    conv_lhs => rw [hsecond]
    simp only [List.append_assoc]
  have htrimmed : Trimmed (first.toList ++ (between.toList ++ l) ++ trimChars second.toList) :=
    hfirst.append (trimmed_trimChars _) hne hne' _
  refine ⟨between.toList ++ l, hgap, ?_⟩
  rw [normal, normal, toList_lower, toList_lower, toList_lower, toList_trim, toList_trim, hpieces,
    trimChars_of_spaced hbefore (hr.append hafter) htrimmed (by simp [hne]),
    lowerChars_append hfront hsigma', lowerChars_append hsigma hgap', lowerChars_of_blank hgap]

end SearchQuery.Text
