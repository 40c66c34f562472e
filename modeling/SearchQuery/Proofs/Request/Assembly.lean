import SearchQuery.Request.Assembly

/-! What options come to as a request, once for all that is proved of searches and of writes. A
search is refused without an index or in both modes at once, and is grouped or plain otherwise; a
request with a given body is refused without an index only. Main statements: `requestWith_named`,
`request_cases`. -/
namespace SearchQuery.Options

variable {options : Options} {conditions : ConditionSet} {request : Request}

/-! ### Requests with a given body -/

theorem requestWith_indexMissing (h : options.index = "") (body : Body) :
    (options.requestWith body).value = .error .indexMissing := by
  rw [requestWith, if_pos (String.isEmpty_iff.mpr h)]
  rfl

theorem requestWith_named (h : options.index ≠ "") (body : Body) :
    (options.requestWith body).value =
      .ok ⟨options.index, options.docType, options.id, body.sent?⟩ := by
  rw [requestWith, if_neg (mt String.isEmpty_iff.mp h)]
  rfl

/-! ### Requests to search -/

/-- The body of a plain search: the options' own, or else the one that they make of a query. -/
def searchBody (options : Options) (query : Json) : Option Json :=
  match options.body with
  | some body => body.sent?
  | none => some (options.plainBody query)

theorem request_indexMissing (h : options.index = "") (conditions : ConditionSet) :
    (options.request conditions).value = .error .indexMissing := by
  rw [Options.request, if_pos (String.isEmpty_iff.mpr h)]
  rfl

theorem request_conflict (h : options.index ≠ "") {collapse groupBy : String}
    (hcollapse : options.collapse = some collapse) (hgroup : options.groupBy = some groupBy)
    (conditions : ConditionSet) :
    (options.request conditions).value = .error (.modesConflict collapse groupBy) := by
  rw [Options.request, if_neg (mt String.isEmpty_iff.mp h), hcollapse, hgroup]
  rfl

theorem request_grouped (h : options.index ≠ "") {field : String}
    (hcollapse : options.collapse = none) (hgroup : options.groupBy = some field)
    (conditions : ConditionSet) :
    (options.request conditions).value =
      .ok ⟨options.index, options.docType, none,
        some (options.groupBody field conditions.query.value)⟩ := by
  rw [Options.request, if_neg (mt String.isEmpty_iff.mp h), hcollapse, hgroup]
  rfl

theorem request_plain (h : options.index ≠ "") (hgroup : options.groupBy = none)
    (conditions : ConditionSet) :
    (options.request conditions).value =
      .ok ⟨options.index, options.docType, options.id,
        options.searchBody conditions.query.value⟩ := by
  rw [Options.request, if_neg (mt String.isEmpty_iff.mp h), hgroup, searchBody]
  -- without groups, a field to collapse on does not change the mode
  cases options.collapse <;> cases options.body <;> rfl

/-- The four things that a search can come to, in the order in which they are tried. -/
theorem request_cases (options : Options) (conditions : ConditionSet) :
    (options.index = "" ∧ (options.request conditions).value = .error .indexMissing) ∨
    (∃ collapse groupBy, options.index ≠ "" ∧ options.collapse = some collapse ∧
      options.groupBy = some groupBy ∧
      (options.request conditions).value = .error (.modesConflict collapse groupBy)) ∨
    (∃ field, options.index ≠ "" ∧ options.collapse = none ∧ options.groupBy = some field ∧
      (options.request conditions).value =
        .ok ⟨options.index, options.docType, none,
          some (options.groupBody field conditions.query.value)⟩) ∨
    (options.index ≠ "" ∧ options.groupBy = none ∧
      (options.request conditions).value =
        .ok ⟨options.index, options.docType, options.id,
          options.searchBody conditions.query.value⟩) := by
  by_cases h : options.index = ""
  · exact .inl ⟨h, request_indexMissing h conditions⟩
  right
  cases hgroup : options.groupBy with
  | none => exact .inr (.inr ⟨h, rfl, request_plain h hgroup conditions⟩)
  | some field =>
    cases hcollapse : options.collapse with
    | some collapse =>
      exact .inl ⟨collapse, field, h, rfl, rfl, request_conflict h hcollapse hgroup conditions⟩
    | none =>
      exact .inr (.inl ⟨field, h, rfl, rfl, request_grouped h hcollapse hgroup conditions⟩)

theorem index_of_request (h : (options.request conditions).value = .ok request) :
    request.index = options.index ∧ options.index ≠ "" := by
  obtain ⟨_, heq⟩ | ⟨_, _, _, _, _, heq⟩ | ⟨_, hindex, _, _, heq⟩ | ⟨hindex, _, heq⟩ :=
    options.request_cases conditions
  · rw [heq] at h
    cases h
  · rw [heq] at h
    cases h
  · rw [heq] at h
    cases h
    exact ⟨rfl, hindex⟩
  · rw [heq] at h
    cases h
    exact ⟨rfl, hindex⟩

end SearchQuery.Options
