import SearchQuery.Text.Scan

/-! What all results of a reader have in common. A property of results passes from the parts of a
reader to the whole. Main statements: `Yields.bind`, `Yields.many`, `Yields.sepBy`, `Yields.all?`. -/
namespace SearchQuery.Scan

variable {α β : Type} {P : α → Prop} {Q : β → Prop}

/-- Whatever a reader takes, its result has a property. -/
def Yields (P : α → Prop) (scan : Scan α) : Prop :=
  ∀ cs a rest, scan cs = some (a, rest) → P a

theorem yields_any (scan : Scan α) : scan.Yields fun _ => True := fun _ _ _ _ => trivial

theorem yields_pure {a : α} (h : P a) : Yields P (pure a : Scan α) := by
  intro cs b rest hb
  cases hb
  exact h

theorem Yields.bind {scan : Scan α} {next : α → Scan β} (h : scan.Yields P)
    (hnext : ∀ a, P a → (next a).Yields Q) : (scan >>= next).Yields Q := by
  intro cs b rest hb
  obtain ⟨⟨a, middle⟩, ha, hrest⟩ := Option.bind_eq_some_iff.mp hb
  exact hnext a (h cs a middle ha) middle b rest hrest

/-- A step whose result does not matter. -/
theorem Yields.after {next : α → Scan β} (scan : Scan α) (hnext : ∀ a, (next a).Yields Q) :
    (scan >>= next).Yields Q :=
  (yields_any scan).bind fun a _ => hnext a

theorem Yields.map {scan : Scan α} {f : α → β} (h : scan.Yields P) (hf : ∀ a, P a → Q (f a)) :
    (f <$> scan).Yields Q :=
  h.bind fun a ha => yields_pure (hf a ha)

theorem orElse_apply (scan other : Scan α) (cs : List Char) :
    (scan <|> other) cs = (scan cs).or (other cs) := by
  simp only [HOrElse.hOrElse, OrElse.orElse, Alternative.orElse, StateT.orElse]
  cases scan cs <;> rfl

theorem Yields.orElse {scan other : Scan α} (h : scan.Yields P) (hother : other.Yields P) :
    (scan <|> other).Yields P := by
  intro cs a rest ha
  rw [orElse_apply, Option.or_eq_some_iff] at ha
  rcases ha with hfirst | ⟨_, hsecond⟩
  · exact h cs a rest hfirst
  · exact hother cs a rest hsecond

theorem forall_mem_manyWithin {scan : Scan α} (h : scan.Yields P) (bound cs : List Char) :
    ∀ a ∈ (manyWithin scan bound cs).1, P a := by
  induction bound generalizing cs with
  | nil => exact List.forall_mem_nil P
  | cons _ bound ih =>
    rw [manyWithin]
    cases hscan : scan cs with
    | none => exact List.forall_mem_nil P
    | some result => exact List.forall_mem_cons.mpr ⟨h cs _ _ hscan, ih result.2⟩

theorem Yields.many {scan : Scan α} (h : scan.Yields P) : (many scan).Yields (∀ a ∈ ·, P a) := by
  intro cs as rest has
  have heq : (manyWithin scan cs cs).1 = as := congrArg Prod.fst (Option.some.inj has)
  rw [← heq]
  exact forall_mem_manyWithin h cs cs

theorem Yields.sepBy {scan : Scan α} (h : scan.Yields P) (separator : Scan β) :
    (sepBy scan separator).Yields (∀ a ∈ ·, P a) := by
  have hone : (sepBy1 scan separator).Yields (∀ a ∈ ·, P a) := by
    refine h.bind fun first hfirst => ?_
    have hmany : (Scan.many (do discard separator; scan)).Yields (∀ a ∈ ·, P a) :=
      Yields.many (Yields.after _ fun _ => h)
    exact hmany.bind fun rest hrest => yields_pure (List.forall_mem_cons.mpr ⟨hfirst, hrest⟩)
  exact hone.orElse (yields_pure (List.forall_mem_nil P))

theorem Yields.all? {scan : Scan α} (h : scan.Yields P) {s : String} {a : α}
    (ha : all? scan s = some a) : P a := by
  obtain ⟨⟨b, rest⟩, hb, rfl⟩ := Option.map_eq_some_iff.mp ha
  have hall : (do let a ← scan; finish; return a : Scan α).Yields P :=
    h.bind fun a ha => Yields.after _ fun _ => yields_pure ha
  exact hall _ _ _ hb

end SearchQuery.Scan
