import SearchQuery.Proofs.Text.Spaced

/-! Names spelled in either case, with blanks around them. These are the texts whose normal form is
the name, since lower case makes a letter from a to z of the letter and its capital only, whatever
the script. The one letter left out is k, which is also the lower case of the kelvin sign. Main
statements: `lowerChars_eq_iff`, `normal_eq_iff_spells`. -/
namespace SearchQuery.Text

/-- A small letter from a to z that only its own capital becomes, so not k. -/
def Plain (c : Char) : Prop := 0x61 ≤ c.toNat ∧ c.toNat ≤ 0x7A ∧ c.toNat ≠ 0x6B

instance (c : Char) : Decidable (Plain c) := inferInstanceAs (Decidable (_ ∧ _ ∧ _))

/-- The letters of a name, each in either case, with nothing but blanks around them. -/
def Spells (text name : String) : Prop :=
  ∃ before letters after, text.toList = before ++ letters ++ after ∧ Blank before ∧ Blank after ∧
    letters.map Char.toLower = name.toList

/-! ### Letters -/

/-- What is checked code point by code point holds of the first 128 characters. -/
theorem forall_ascii {P : Char → Prop} (h : ∀ n < 128, P (Char.ofNat n)) {c : Char}
    (hc : c.toNat < 128) : P c := by
  have hchar := h c.toNat hc
  rwa [Char.ofNat_toNat] at hchar

/-- Among the first 128 characters, lower case is that of the letters from A to Z. -/
theorem lowerChar_eq_toLower {c : Char} (h : c.toNat < 128) : lowerChar c = c.toLower :=
  forall_ascii (P := fun c => lowerChar c = c.toLower) (by decide +kernel) h

theorem runs_apart_plain :
    (lowerRuns.all fun (first, last, _, distance) =>
      last < 128 || last + distance < 0x61 || 0x7A < first + distance ||
        first + distance == 0x6B && last + distance == 0x6B) = true := by
  decide +kernel

theorem ascii_of_plain_lowerChar {c : Char} (h : Plain (lowerChar c)) : c.toNat < 128 := by
  obtain ⟨hlow, hhigh, hk⟩ := h
  obtain ⟨hsame, _⟩ | ⟨first, last, step, distance, hmem, hrun, hsmall⟩ :=
    lowerChar_stays_or_moves c
  · rw [hsame] at hhigh
    omega
  · have hapart := List.all_eq_true.mp runs_apart_plain _ hmem
    simp only [Run.has, Bool.and_eq_true, decide_eq_true_eq] at hrun hsmall
    obtain ⟨⟨hfirst, hlast⟩, _⟩ := hrun
    obtain ⟨⟨hfirst', hlast'⟩, _⟩ := hsmall
    simp only [Bool.or_eq_true, Bool.and_eq_true, decide_eq_true_eq, beq_iff_eq] at hapart
    obtain ((hascii | hbelow) | habove) | ⟨hkelvin, hkelvin'⟩ := hapart
    · omega
    · omega
    · omega
    · omega

theorem ascii_of_plain_toLower {c : Char} (h : Plain c.toLower) : c.toNat < 128 := by
  by_cases hupper : c.val ≥ 'A'.val ∧ c.val ≤ 'Z'.val
  · exact Nat.lt_of_le_of_lt (UInt32.le_iff_toNat_le.mp hupper.2) (by decide)
  · have hsame : c.toLower = c := dif_neg hupper
    rw [hsame] at h
    obtain ⟨_, hhigh, _⟩ := h
    omega

/-! ### Names -/

theorem lowerChars_eq_map {cs : List Char} (h : ∀ c ∈ cs, c.toNat < 128) :
    lowerChars cs = cs.map Char.toLower := by
  have hsigma : 'Σ' ∉ cs := fun hmem => absurd (h _ hmem) (by decide)
  have halone : ∀ c ∈ cs, lowerAlone c = [c.toLower] := by
    intro c hc
    have hdotted : c ≠ 'İ' := by
      rintro rfl
      exact absurd (h _ hc) (by decide)
    rw [lowerAlone, if_neg hdotted, lowerChar_eq_toLower (h c hc)]
  rw [lowerChars, lowerFrom_eq_flatMap [] hsigma, List.flatMap_congr halone, List.map_eq_flatMap]

theorem ascii_of_plain_lowerChars {cs : List Char} (h : ∀ l ∈ lowerChars cs, Plain l) :
    ∀ c ∈ cs, c.toNat < 128 := by
  have hsigma : 'Σ' ∉ cs := by
    intro hmem
    obtain hsmall | hfinal := sigma_mem_lowerFrom [] hmem
    · exact absurd (h _ hsmall) (by decide)
    · exact absurd (h _ hfinal) (by decide)
  intro c hc
  have halone : ∀ l ∈ lowerAlone c, Plain l := by
    intro l hl
    refine h l ?_
    rw [lowerChars, lowerFrom_eq_flatMap [] hsigma]
    exact List.mem_flatMap.mpr ⟨c, hc, hl⟩
  rw [lowerAlone] at halone
  split at halone
  · -- the dotted capital I leaves its dot behind
    exact absurd (halone '\u0307' (by simp)) (by decide)
  · exact ascii_of_plain_lowerChar (halone _ (List.mem_singleton_self _))

/-- A name in plain letters is the lower case of its spellings and of no other text. -/
theorem lowerChars_eq_iff {cs name : List Char} (h : ∀ c ∈ name, Plain c) :
    lowerChars cs = name ↔ cs.map Char.toLower = name := by
  constructor
  · rintro rfl
    exact (lowerChars_eq_map (ascii_of_plain_lowerChars h)).symm
  · rintro rfl
    exact lowerChars_eq_map fun c hc => ascii_of_plain_toLower (h _ (List.mem_map_of_mem hc))

theorem isBlank_of_plain_toLower {c : Char} (h : Plain c.toLower) : isBlank c = false :=
  forall_ascii (P := fun c => Plain c.toLower → isBlank c = false) (by decide +kernel)
    (ascii_of_plain_toLower h) h

/-- A text has a name in plain letters as its normal form exactly if it spells the name. -/
theorem normal_eq_iff_spells {text name : String} (h : ∀ c ∈ name.toList, Plain c)
    (hne : name ≠ "") : normal text = name ↔ Spells text name := by
  rw [← String.toList_inj, normal, toList_lower, toList_trim, lowerChars_eq_iff h]
  constructor
  · intro hname
    obtain ⟨before, after, hbefore, hafter, htext⟩ := eq_blank_append_trimChars text.toList
    exact ⟨before, _, after, htext, hbefore, hafter, hname⟩
  · rintro ⟨before, letters, after, htext, hbefore, hafter, hname⟩
    have hvisible {c : Char} (hc : c ∈ letters) : isBlank c = false :=
      isBlank_of_plain_toLower (h _ (hname ▸ List.mem_map_of_mem hc))
    have htrimmed : Trimmed letters :=
      ⟨fun c hc => hvisible (List.mem_of_mem_head? hc),
        fun c hc => hvisible (List.mem_of_getLast? hc)⟩
    have hletters : letters ≠ [] := by
      rintro rfl
      exact hne (String.toList_inj.mp hname.symm)
    rw [htext, trimChars_of_spaced hbefore hafter htrimmed hletters, hname]

end SearchQuery.Text
