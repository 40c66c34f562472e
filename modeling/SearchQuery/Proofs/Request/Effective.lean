import SearchQuery.Proofs.Condition.Reachable
import SearchQuery.Proofs.Request.Assembly
import SearchQuery.Proofs.Request.Body

/-! The options that a request to search shows. Two requests with the same conditions are the same
exactly when the options agree in what has an effect: without a page size there is no offset, and a
grouped search has no identifier. Main statement: `request_equalIff`. -/
namespace SearchQuery

open Json (SameAs)

theorem Direction.name_injective {d e : Direction} (h : d.name = e.name) : d = e := by
  cases d <;> cases e <;> first | rfl | exact absurd h (by decide)

/-- One request, or two that compare as the same. -/
def Request.SameAs (x y : Request) : Prop := x = y ∨ x.same y = true

theorem Request.SameAs.parts {x y : Request} (h : Request.SameAs x y) :
    x.index = y.index ∧ x.docType = y.docType ∧ x.id = y.id ∧
      ∀ body other, x.body = some body → y.body = some other → Json.SameAs body other := by
  obtain rfl | h := h
  · refine ⟨rfl, rfl, rfl, fun body other hbody hother => ?_⟩
    exact .inl (Option.some.inj (hbody.symm.trans hother))
  · simp only [same, Bool.and_eq_true, beq_iff_eq] at h
    obtain ⟨⟨⟨hindex, hdocType⟩, hid⟩, hsame⟩ := h
    refine ⟨hindex, hdocType, hid, fun body other hbody hother => ?_⟩
    rw [hbody, hother] at hsame
    exact .inr hsame

namespace Json.SameAs

/-- Values that are there under a condition are there together. -/
theorem of_rel_ite {p q : Bool} {x y : Json}
    (h : Option.Rel SameAs (if p then some x else none) (if q then some y else none)) :
    p = q ∧ (p = true → SameAs x y) := by
  cases p <;> cases q
  · exact ⟨rfl, nofun⟩
  · cases h
  · cases h
  · obtain ⟨hxy⟩ := h
    exact ⟨rfl, fun _ => hxy⟩

theorem list_eq_of_rel {α : Type} {f : List α → Json} {xs ys : List α}
    (hf : SameAs (f xs) (f ys) → xs = ys)
    (h : Option.Rel SameAs (if !xs.isEmpty then some (f xs) else none)
      (if !ys.isEmpty then some (f ys) else none)) : xs = ys := by
  obtain ⟨hempty, hsame⟩ := of_rel_ite h
  cases xs with
  | nil =>
    cases ys with
    | nil => rfl
    | cons y ys => cases hempty
  | cons x xs => exact hf (hsame rfl)

theorem rel_of_rel_map {α : Type} {f : α → Json} {R : α → α → Prop}
    (hf : ∀ x y, SameAs (f x) (f y) → R x y) {x y : Option α}
    (h : Option.Rel SameAs (x.map f) (y.map f)) : Option.Rel R x y := by
  cases x <;> cases y
  · exact .none
  · cases h
  · cases h
  · obtain ⟨hxy⟩ := h
    exact .some (hf _ _ hxy)

theorem option_eq_of_rel {α : Type} {f : α → Json} (hf : ∀ x y, SameAs (f x) (f y) → x = y)
    {x y : Option α} (h : Option.Rel SameAs (x.map f) (y.map f)) : x = y := by
  cases rel_of_rel_map hf h with
  | some hxy => rw [hxy]
  | none => rfl

end Json.SameAs

namespace Options

/-- Agreement in all that a plain search shows. -/
structure PlainAlike (a b : Options) : Prop where
  index : a.index = b.index
  docType : a.docType = b.docType
  id : a.id = b.id
  size : a.size = b.size
  sort : a.sort = b.sort
  source : a.source = b.source
  collapse : a.collapse = b.collapse
  offset : 0 < a.size → a.offset = b.offset

/-- Agreement in all that a grouped search shows. -/
structure GroupedAlike (a b : Options) : Prop where
  index : a.index = b.index
  docType : a.docType = b.docType
  groupBy : a.groupBy = b.groupBy
  sort : a.sort = b.sort
  size : a.size = b.size
  source : a.source = b.source

variable {a b : Options} {query : Json}

/-! ### From options to bodies -/

theorem PlainAlike.plainBody_eq (h : PlainAlike a b) (query : Json) :
    a.plainBody query = b.plainBody query := by
  by_cases hpos : 0 < a.size
  · simp only [plainBody, sortClause, h.size, h.sort, h.source, h.collapse, h.offset hpos]
  · -- neither writes a page, whatever the offsets
    have hzero : b.size = 0 := by
      have := h.size
      omega
    simp only [plainBody, sortClause, h.size, h.sort, h.source, h.collapse, hzero, memberIf,
      bne_self_eq_false, Bool.false_eq_true, if_false]

theorem GroupedAlike.groupBody_eq (h : GroupedAlike a b) (field : String) (query : Json) :
    a.groupBody field query = b.groupBody field query := by
  simp only [groupBody, topHits, sortClause, h.sort, h.size, h.source]

/-! ### From bodies to options -/

theorem size_eq_of_rel (h : Option.Rel SameAs a.sizeValue? b.sizeValue?) : a.size = b.size := by
  obtain ⟨hzero, hsame⟩ := SameAs.of_rel_ite h
  by_cases ha : a.size = 0
  · have hb : b.size = 0 := by simpa [ha] using hzero
    exact ha.trans hb.symm
  · exact (hsame (by simpa using ha)).ofNat_inj

theorem offset_eq_of_rel (h : Option.Rel SameAs a.fromValue? b.fromValue?) (hpos : 0 < a.size) :
    a.offset = b.offset := by
  have hne : (a.size != 0) = true := by simpa using Nat.ne_of_gt hpos
  exact ((SameAs.of_rel_ite h).2 hne).ofNat_inj

theorem sort_eq_of_rel (h : Option.Rel SameAs a.sortValue? b.sortValue?) : a.sort = b.sort := by
  -- the clause reads no other option, so it is a function of the keys
  let clause (sort : List SortKey) : Json := sortClause { a with sort := sort }
  refine SameAs.list_eq_of_rel (f := clause) (fun hsame => ?_) h
  refine SameAs.arr_map_inj (fun x y hxy => ?_) hsame
  obtain ⟨hfield, horder⟩ := hxy.single_inj
  have hname := horder.single_inj.2.str_inj
  cases x
  cases y
  rw [SortKey.mk.injEq]
  exact ⟨hfield, Direction.name_injective hname⟩

theorem source_eq_of_rel (h : Option.Rel SameAs a.sourceValue? b.sourceValue?) :
    a.source = b.source :=
  SameAs.list_eq_of_rel (f := Json.ofStrings) SameAs.ofStrings_inj h

theorem alike_of_plainBody (h : SameAs (a.plainBody query) (b.plainBody query)) :
    a.size = b.size ∧ (0 < a.size → a.offset = b.offset) ∧ a.sort = b.sort ∧
      a.source = b.source ∧ a.collapse = b.collapse := by
  have hrel := h.rel_get? (a.nodup_keys_plainBody query)
  obtain ⟨hsize, hfrom, hsort, _, hsource, hcollapse, _⟩ := a.get?_plainBody query
  obtain ⟨hsize', hfrom', hsort', _, hsource', hcollapse', _⟩ := b.get?_plainBody query
  exact ⟨size_eq_of_rel (hsize ▸ hsize' ▸ hrel "size"),
    offset_eq_of_rel (hfrom ▸ hfrom' ▸ hrel "from"),
    sort_eq_of_rel (hsort ▸ hsort' ▸ hrel "sort"),
    source_eq_of_rel (hsource ▸ hsource' ▸ hrel "_source"),
    SameAs.option_eq_of_rel (fun _ _ hsame => hsame.single_inj.2.str_inj)
      (hcollapse ▸ hcollapse' ▸ hrel "collapse")⟩

theorem alike_of_topHits (h : SameAs a.topHits b.topHits) :
    a.sort = b.sort ∧ a.size = b.size ∧ a.source = b.source := by
  have hrel := h.rel_get? (a.keys_topHits_sublist.nodup (by decide))
  obtain ⟨hsort, hsize, hsource⟩ := a.get?_topHits
  obtain ⟨hsort', hsize', hsource'⟩ := b.get?_topHits
  exact ⟨sort_eq_of_rel (hsort ▸ hsort' ▸ hrel "sort"),
    size_eq_of_rel (hsize ▸ hsize' ▸ hrel "size"),
    source_eq_of_rel (SameAs.rel_of_rel_map (fun _ _ hsame => hsame.single_inj.2)
      (hsource ▸ hsource' ▸ hrel "_source"))⟩

theorem alike_of_groupBody {field other : String}
    (h : SameAs (a.groupBody field query) (b.groupBody other query)) :
    field = other ∧ a.sort = b.sort ∧ a.size = b.size ∧ a.source = b.source := by
  obtain ⟨haggs⟩ := h.rel_get? (a.nodup_keys_groupBody query field) "aggs"
  have hgroups := haggs.single_inj.2
  have hkeys : ["terms", "aggs"].Nodup := by decide
  obtain ⟨hterms⟩ := hgroups.rel_get? hkeys "terms"
  obtain ⟨hlist⟩ := hgroups.rel_get? hkeys "aggs"
  exact ⟨hterms.single_inj.2.str_inj, alike_of_topHits hlist.single_inj.2.single_inj.2⟩

/-- The aggregations of the two modes have no key in common. -/
theorem not_sameAs_groupBody (a b : Options) (query : Json) (field : String) :
    ¬ SameAs (a.plainBody query) (b.groupBody field query) := by
  intro h
  have haggs := h.rel_get? (a.nodup_keys_plainBody query) "aggs"
  obtain ⟨_, _, _, _, _, _, hplain⟩ := a.get?_plainBody query
  rw [hplain] at haggs
  cases hcollapse : a.collapse with
  | none =>
    rw [hcollapse] at haggs
    cases haggs
  | some collapse =>
    rw [hcollapse] at haggs
    obtain ⟨hsame⟩ := haggs
    exact absurd hsame.single_inj.1 (by decide)

/-! ### Requests -/

/-- Both make a request with the conditions. If they agree, it is one and the same, and if not, the
two do not even compare as the same. -/
def EqualIff (a b : Options) (conditions : ConditionSet) (agree : Prop) : Prop :=
  ∃ x y, (a.request conditions).value = .ok x ∧ (b.request conditions).value = .ok y ∧
    (agree → x = y) ∧ (Request.SameAs x y → agree)

theorem request_plainBody (index : a.index ≠ "") (hgroup : a.groupBy = none)
    (hbody : a.body = none) (conditions : ConditionSet) :
    (a.request conditions).value =
      .ok ⟨a.index, a.docType, a.id, some (a.plainBody conditions.query.value)⟩ := by
  rw [request_plain index hgroup, searchBody, hbody]

/-- With the same conditions and without a body of their own, plain searches are equal exactly when
they agree in what a plain search shows, grouped ones when they agree in what a grouped search
shows, and a plain one never equals a grouped one. -/
theorem request_equalIff (conditions : ConditionSet) (ha : a.index ≠ "") (hb : b.index ≠ "")
    (hbody : a.body = none) (hbody' : b.body = none) :
    (a.groupBy = none → b.groupBy = none → EqualIff a b conditions (PlainAlike a b)) ∧
    (∀ field other, a.collapse = none → b.collapse = none → a.groupBy = some field →
      b.groupBy = some other → EqualIff a b conditions (GroupedAlike a b)) ∧
    ∀ field, a.groupBy = none → b.collapse = none → b.groupBy = some field →
      EqualIff a b conditions False := by
  refine ⟨fun hplain hplain' => ?_, fun field other hcollapse hcollapse' hgroup hgroup' => ?_,
    fun field hplain hcollapse hgroup => ?_⟩
  · refine ⟨_, _, request_plainBody ha hplain hbody conditions,
      request_plainBody hb hplain' hbody' conditions, fun h => ?_, fun h => ?_⟩
    · rw [h.index, h.docType, h.id, h.plainBody_eq]
    · obtain ⟨hindex, hdocType, hid, hsame⟩ := h.parts
      obtain ⟨hsize, hoffset, hsort, hsource, hcollapse⟩ := alike_of_plainBody (hsame _ _ rfl rfl)
      exact ⟨hindex, hdocType, hid, hsize, hsort, hsource, hcollapse, hoffset⟩
  · refine ⟨_, _, request_grouped ha hcollapse hgroup conditions,
      request_grouped hb hcollapse' hgroup' conditions, fun h => ?_, fun h => ?_⟩
    · have hfield : field = other := Option.some.inj (hgroup ▸ hgroup' ▸ h.groupBy)
      rw [h.index, h.docType, h.groupBody_eq, hfield]
    · obtain ⟨hindex, hdocType, _, hsame⟩ := h.parts
      obtain ⟨hfield, hsort, hsize, hsource⟩ := alike_of_groupBody (hsame _ _ rfl rfl)
      exact ⟨hindex, hdocType, by rw [hgroup, hgroup', hfield], hsort, hsize, hsource⟩
  · refine ⟨_, _, request_plainBody ha hplain hbody conditions,
      request_grouped hb hcollapse hgroup conditions, False.elim, fun h => ?_⟩
    obtain ⟨_, _, _, hsame⟩ := h.parts
    exact not_sameAs_groupBody _ _ _ _ (hsame _ _ rfl rfl)

/-- A search of users from the fortieth on, in pages of a given size. -/
def usersFrom40 (size : Nat) : Options :=
  { index := "users", docType := "_doc", offset := 40, size := size }

theorem request_equalIff_usersFrom40 :
    ((usersFrom40 0).request .romans).value =
      ({ usersFrom40 0 with offset := 0 }.request .romans).value ∧
    ((usersFrom40 20).request .romans).value ≠
      ({ usersFrom40 20 with offset := 0 }.request .romans).value ∧
    ((usersFrom40 20).request .romans).value ≠
      ({ usersFrom40 20 with groupBy := some "city" }.request .romans).value := by
  have hindex : "users" ≠ "" := by decide
  refine ⟨?_, ?_, ?_⟩
  · obtain ⟨hplain, _⟩ := request_equalIff (a := usersFrom40 0)
      (b := { usersFrom40 0 with offset := 0 }) .romans hindex hindex rfl rfl
    obtain ⟨x, y, hx, hy, heq, _⟩ := hplain rfl rfl
    rw [hx, hy, heq ⟨rfl, rfl, rfl, rfl, rfl, rfl, rfl, fun hpos => absurd hpos (by decide)⟩]
  · obtain ⟨hplain, _⟩ := request_equalIff (a := usersFrom40 20)
      (b := { usersFrom40 20 with offset := 0 }) .romans hindex hindex rfl rfl
    obtain ⟨x, y, hx, hy, _, hsame⟩ := hplain rfl rfl
    rw [hx, hy]
    intro heq
    exact absurd ((hsame (.inl (Except.ok.inj heq))).offset (by decide)) (by decide)
  · obtain ⟨_, _, hmodes⟩ := request_equalIff (a := usersFrom40 20)
      (b := { usersFrom40 20 with groupBy := some "city" }) .romans hindex hindex rfl rfl
    obtain ⟨x, y, hx, hy, _, hsame⟩ := hmodes "city" rfl rfl rfl
    rw [hx, hy]
    intro heq
    exact hsame (.inl (Except.ok.inj heq))

end Options

end SearchQuery
