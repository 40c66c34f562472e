import Mathlib.Data.List.DropRight
import SearchQuery.Text.Normal

/-! Texts in their normal form stay as they are. Trimming leaves no blank at either end, and lower
case leaves no capital and brings in no blank, so a normal text is trimmed, and what is cut out of it
is still in lower case. Main statements: `trim_trim`, `trim_normal`, `isLower_normal`,
`lower_eq_self`. -/
namespace SearchQuery.Text

/-! ### Trimming -/

/-- No blank stands at either end. -/
def Trimmed (cs : List Char) : Prop :=
  (∀ c ∈ cs.head?, isBlank c = false) ∧ ∀ c ∈ cs.getLast?, isBlank c = false

theorem trimChars_infix (cs : List Char) : trimChars cs <:+: cs :=
  (List.rdropWhile_prefix isBlank _).isInfix.trans (List.dropWhile_suffix isBlank).isInfix

theorem dropWhile_eq_self {cs : List Char} (h : ∀ c ∈ cs.head?, isBlank c = false) :
    cs.dropWhile isBlank = cs := by
  cases cs with
  | nil => rfl
  | cons c rest => rw [List.dropWhile_cons_of_neg]; simpa using h c rfl

theorem trimChars_eq_self {cs : List Char} (h : Trimmed cs) : trimChars cs = cs := by
  have hlast : cs.reverse.dropWhile isBlank = cs.reverse :=
    dropWhile_eq_self fun c hc => h.2 c (by rwa [List.head?_reverse] at hc)
  rw [trimChars, dropWhile_eq_self h.1, hlast, List.reverse_reverse]

theorem head?_dropWhile (cs : List Char) {c : Char} (h : c ∈ (cs.dropWhile isBlank).head?) :
    isBlank c = false := by
  have hnot := List.head?_dropWhile_not isBlank cs
  rwa [Option.mem_def.mp h] at hnot

theorem trimmed_trimChars (cs : List Char) : Trimmed (trimChars cs) := by
  constructor
  · intro c hc
    -- what is cut off at the end does not touch the first character, unless nothing is left
    obtain ⟨cut, hcut⟩ : trimChars cs <+: cs.dropWhile isBlank := List.rdropWhile_prefix isBlank _
    refine head?_dropWhile cs ?_
    rw [← hcut, List.head?_append, Option.mem_def.mp hc]
    rfl
  · intro c hc
    rw [trimChars, List.getLast?_reverse] at hc
    exact head?_dropWhile _ hc

theorem trim_trim (s : String) : trim (trim s) = trim s := by
  rw [trim, trim, String.toList_ofList, trimChars_eq_self (trimmed_trimChars _)]

/-! ### Lower case -/

/-- Every so many code points from the first one to the last. -/
structure Run where
  first : Nat
  last : Nat
  step : Nat

def Run.has (run : Run) (n : Nat) : Bool :=
  run.first ≤ n && n ≤ run.last && (n - run.first) % run.step == 0

/-- All members are even, or all are odd. -/
def Run.alternates (run : Run) : Bool := run.step == 2 || run.first == run.last

/-- The runs do not overlap, or one has even members only and the other odd ones. -/
def Run.apart (a b : Run) : Bool :=
  a.last < b.first || b.last < a.first ||
    (a.alternates && b.alternates && (a.first + b.first) % 2 == 1)

theorem Run.not_has_of_apart {a b : Run} (h : a.apart b = true) {n : Nat} (ha : a.has n = true) :
    b.has n = false := by
  rw [Bool.eq_false_iff]
  intro hb
  simp only [has, Bool.and_eq_true, decide_eq_true_eq, beq_iff_eq] at ha hb
  obtain ⟨⟨ha₁, ha₂⟩, ha₃⟩ := ha
  obtain ⟨⟨hb₁, hb₂⟩, hb₃⟩ := hb
  simp only [apart, alternates, Bool.or_eq_true, Bool.and_eq_true, decide_eq_true_eq,
    beq_iff_eq] at h
  obtain (h | h) | ⟨⟨ha₄ | ha₄, hb₄ | hb₄⟩, h⟩ := h
  · omega
  · omega
  · rw [ha₄] at ha₃
    rw [hb₄] at hb₃
    omega
  · rw [ha₄] at ha₃
    omega
  · rw [hb₄] at hb₃
    omega
  · omega

/-- The characters that lower case changes one by one. -/
def capitals : List Run := lowerRuns.map fun (first, last, step, _) => ⟨first, last, step⟩

/-- What it changes them to. -/
def smalls : List Run :=
  lowerRuns.map fun (first, last, step, distance) =>
    ⟨(first + distance).toNat, (last + distance).toNat, step⟩

/-- Capitals, the dotted capital I among them, blanks, and code points of no character. -/
def unreached : List Run :=
  capitals ++ blankRanges.map (fun (first, last) => ⟨first, last, 1⟩) ++
    [⟨0x130, 0x130, 1⟩, ⟨0xD800, 0xDFFF, 1⟩]

theorem distance_nonneg :
    (lowerRuns.all fun (first, _, _, distance) => 0 ≤ first + distance) = true := by
  decide +kernel

theorem smalls_apart :
    (smalls.all fun small => small.last < 0x110000 && unreached.all small.apart) = true := by
  decide +kernel

theorem not_has_of_small {small : Run} (hs : small ∈ smalls) {n : Nat} (hn : small.has n = true) :
    n < 0x110000 ∧ ∀ run ∈ unreached, run.has n = false := by
  have hchecked := List.all_eq_true.mp smalls_apart small hs
  rw [Bool.and_eq_true, List.all_eq_true, decide_eq_true_eq] at hchecked
  obtain ⟨hlast, hapart⟩ := hchecked
  refine ⟨?_, fun run hrun => Run.not_has_of_apart (hapart run hrun) hn⟩
  simp only [Run.has, Bool.and_eq_true, decide_eq_true_eq] at hn
  omega

theorem toNat_ofNat_of_small {small : Run} (hs : small ∈ smalls) {n : Nat}
    (hn : small.has n = true) : (Char.ofNat n).toNat = n := by
  obtain ⟨hlt, hnot⟩ := not_has_of_small hs hn
  have hsurrogate := hnot ⟨0xD800, 0xDFFF, 1⟩ (by simp [unreached])
  simp only [Run.has, Nat.mod_one, beq_self_eq_true, Bool.and_true, Bool.and_eq_false_iff,
    decide_eq_false_iff_not] at hsurrogate
  have hvalid : n.isValidChar := by
    unfold Nat.isValidChar
    omega
  rw [Char.ofNat, dif_pos hvalid]
  rfl

/-- A character that is in no run stays, and any other one moves with its run. -/
theorem lowerChar_stays_or_moves (c : Char) :
    (lowerChar c = c ∧ ∀ run ∈ capitals, run.has c.toNat = false) ∨
      ∃ first last step distance, (first, last, step, distance) ∈ lowerRuns ∧
        Run.has ⟨first, last, step⟩ c.toNat = true ∧
        Run.has ⟨(first + distance).toNat, (last + distance).toNat, step⟩
          (lowerChar c).toNat = true := by
  rw [lowerChar]
  split
  · next first last step distance hfind =>
    right
    have hmem := List.mem_of_find?_eq_some hfind
    have hfound := List.find?_some hfind
    have hnonneg := List.all_eq_true.mp distance_nonneg _ hmem
    have hrun := hfound
    simp only [Bool.and_eq_true, decide_eq_true_eq, beq_iff_eq] at hrun hnonneg
    obtain ⟨⟨hfirst, hlast⟩, hstep⟩ := hrun
    have hsmall : ⟨(first + distance).toNat, (last + distance).toNat, step⟩ ∈ smalls :=
      List.mem_map_of_mem hmem
    have hsub : (c.toNat + distance).toNat - (first + distance).toNat = c.toNat - first := by
      omega
    have hhas : Run.has ⟨(first + distance).toNat, (last + distance).toNat, step⟩
        (c.toNat + distance).toNat = true := by
      simp only [Run.has, Bool.and_eq_true, decide_eq_true_eq, beq_iff_eq, hsub]
      refine ⟨⟨?_, ?_⟩, hstep⟩ <;> omega
    exact ⟨_, _, _, _, hmem, hfound, by rwa [toNat_ofNat_of_small hsmall hhas]⟩
  · next hfind =>
    left
    refine ⟨rfl, fun run hrun => ?_⟩
    obtain ⟨⟨first, last, step, distance⟩, hmem, rfl⟩ := List.mem_map.mp hrun
    simpa [Run.has] using List.find?_eq_none.mp hfind _ hmem

/-- A character that is in no run stays, and any other one goes to a small one. -/
theorem lowerChar_cases (c : Char) :
    (lowerChar c = c ∧ ∀ run ∈ capitals, run.has c.toNat = false) ∨
      ∃ small ∈ smalls, small.has (lowerChar c).toNat = true := by
  refine (lowerChar_stays_or_moves c).imp id ?_
  rintro ⟨first, last, step, distance, hmem, _, hhas⟩
  exact ⟨_, List.mem_map_of_mem hmem, hhas⟩

/-- A character that lower case leaves as it is. -/
def IsLower (c : Char) : Prop := c ≠ 'İ' ∧ ∀ run ∈ capitals, run.has c.toNat = false

instance (c : Char) : Decidable (IsLower c) :=
  decidable_of_iff (c ≠ 'İ' ∧ (capitals.all fun run => !run.has c.toNat) = true)
    (by simp only [IsLower, List.all_eq_true, Bool.not_eq_true'])

theorem isLower_of_small {small : Run} (hs : small ∈ smalls) {c : Char}
    (hc : small.has c.toNat = true) : IsLower c := by
  obtain ⟨_, hnot⟩ := not_has_of_small hs hc
  constructor
  · rintro rfl
    exact absurd (hnot ⟨0x130, 0x130, 1⟩ (by simp [unreached])) (by decide)
  · exact fun run hrun => hnot run (by simp [unreached, hrun])

theorem isLower_lowerChar {c : Char} (h : c ≠ 'İ') : IsLower (lowerChar c) := by
  obtain ⟨hsame, hnot⟩ | ⟨small, hs, hhas⟩ := lowerChar_cases c
  · rw [hsame]
    exact ⟨h, hnot⟩
  · exact isLower_of_small hs hhas

theorem IsLower.lowerChar_eq {c : Char} (h : IsLower c) : lowerChar c = c := by
  rw [lowerChar]
  split
  · next first last step distance hfind =>
    have hrun := List.find?_some hfind
    have hcapital : (⟨first, last, step⟩ : Run) ∈ capitals :=
      List.mem_map_of_mem (List.mem_of_find?_eq_some hfind)
    exact absurd hrun (Bool.eq_false_iff.mp (h.2 _ hcapital))
  · rfl

theorem IsLower.ne_sigma {c : Char} (h : IsLower c) : c ≠ 'Σ' := by
  rintro rfl
  exact absurd h.lowerChar_eq (by decide)

theorem isBlank_lowerChar {c : Char} (h : isBlank c = false) : isBlank (lowerChar c) = false := by
  obtain ⟨hsame, _⟩ | ⟨small, hs, hhas⟩ := lowerChar_cases c
  · rwa [hsame]
  · refine List.any_eq_false.mpr fun range hrange => ?_
    have hrun : (⟨range.1, range.2, 1⟩ : Run) ∈ unreached := by
      simp only [unreached, List.mem_append, List.mem_map]
      exact .inl (.inr ⟨range, hrange, rfl⟩)
    simpa [Run.has, Nat.mod_one] using (not_has_of_small hs hhas).2 _ hrun

theorem isLower_lowerSigma (before after : List Char) : IsLower (lowerSigma before after) := by
  unfold lowerSigma
  split <;> decide +kernel

theorem isBlank_lowerSigma (before after : List Char) :
    isBlank (lowerSigma before after) = false := by
  unfold lowerSigma
  split <;> rfl

/-- The lower case of one character in its place. -/
theorem lowerFrom_cons (before : List Char) (c : Char) (rest : List Char) :
    ∃ lowered, lowerFrom before (c :: rest) = lowered ++ lowerFrom (c :: before) rest ∧
      lowered ≠ [] ∧ (∀ l ∈ lowered, IsLower l) ∧
      (isBlank c = false → ∀ l ∈ lowered, isBlank l = false) := by
  rw [lowerFrom]
  refine ⟨_, rfl, ?_⟩
  split
  · simp only [List.mem_singleton, forall_eq]
    exact ⟨List.cons_ne_nil _ _, isLower_lowerSigma _ _, fun _ => isBlank_lowerSigma _ _⟩
  · split
    · simp only [List.forall_mem_cons, List.mem_singleton, forall_eq]
      exact ⟨List.cons_ne_nil _ _, ⟨by decide +kernel, by decide +kernel⟩, fun _ => ⟨rfl, rfl⟩⟩
    · next h =>
      simp only [List.mem_singleton, forall_eq]
      exact ⟨List.cons_ne_nil _ _, isLower_lowerChar h, isBlank_lowerChar⟩

theorem isLower_lowerFrom (before cs : List Char) : ∀ l ∈ lowerFrom before cs, IsLower l := by
  induction cs generalizing before with
  | nil => simp [lowerFrom]
  | cons c rest ih =>
    obtain ⟨lowered, heq, _, hlower, _⟩ := lowerFrom_cons before c rest
    intro l hl
    rw [heq, List.mem_append] at hl
    exact hl.elim (hlower l) (ih _ l)

theorem lowerFrom_eq_self (before : List Char) {cs : List Char} (h : ∀ c ∈ cs, IsLower c) :
    lowerFrom before cs = cs := by
  induction cs generalizing before with
  | nil => rfl
  | cons c rest ih =>
    obtain ⟨hc, hrest⟩ := List.forall_mem_cons.mp h
    rw [lowerFrom, if_neg hc.ne_sigma, if_neg hc.1, hc.lowerChar_eq, ih _ hrest]
    rfl

theorem lowerFrom_ne_nil (before : List Char) {cs : List Char} (h : cs ≠ []) :
    lowerFrom before cs ≠ [] := by
  obtain ⟨c, rest, rfl⟩ := List.exists_cons_of_ne_nil h
  obtain ⟨lowered, heq, hne, _⟩ := lowerFrom_cons before c rest
  rw [heq]
  exact List.append_ne_nil_of_left_ne_nil hne _

theorem trimmed_lowerFrom (before : List Char) {cs : List Char} (h : Trimmed cs) :
    Trimmed (lowerFrom before cs) := by
  obtain ⟨hhead, hlast⟩ := h
  constructor
  · cases cs with
    | nil => simp [lowerFrom]
    | cons c rest =>
      obtain ⟨lowered, heq, hne, _, hblank⟩ := lowerFrom_cons before c rest
      intro l hl
      rw [heq, List.head?_append_of_ne_nil _ hne] at hl
      exact hblank (hhead c rfl) l (List.mem_of_mem_head? hl)
  · clear hhead
    induction cs generalizing before with
    | nil => simp [lowerFrom]
    | cons c rest ih =>
      obtain ⟨lowered, heq, hne, _, hblank⟩ := lowerFrom_cons before c rest
      intro l hl
      rw [heq] at hl
      by_cases hrest : rest = []
      · subst hrest
        rw [lowerFrom, List.append_nil] at hl
        exact hblank (hlast c rfl) l (List.mem_of_getLast? hl)
      · rw [List.getLast?_append_of_ne_nil _ (lowerFrom_ne_nil _ hrest)] at hl
        refine ih (c :: before) (fun d hd => hlast d ?_) l hl
        rwa [List.getLast?_cons_of_ne_nil hrest]

/-! ### Normal texts -/

theorem isLower_normal (s : String) : ∀ c ∈ (normal s).toList, IsLower c := by
  rw [normal, lower, String.toList_ofList]
  exact isLower_lowerFrom [] _

theorem lower_eq_self {s : String} (h : ∀ c ∈ s.toList, IsLower c) : lower s = s := by
  rw [lower, lowerChars, lowerFrom_eq_self [] h, String.ofList_toList]

theorem trimmed_normal (s : String) : Trimmed (normal s).toList := by
  rw [normal, lower, trim, String.toList_ofList, String.toList_ofList]
  exact trimmed_lowerFrom [] (trimmed_trimChars _)

theorem trim_normal (s : String) : trim (normal s) = normal s := by
  rw [trim, trimChars_eq_self (trimmed_normal s), String.ofList_toList]

end SearchQuery.Text
