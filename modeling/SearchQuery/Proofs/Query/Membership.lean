import SearchQuery.Proofs.Condition.Calls
import SearchQuery.Proofs.Query.Boost
import SearchQuery.Proofs.Query.Log

/-! Equality with a value and membership in a list. Whichever call records a condition on one field,
a list is looked up by a terms clause and, under equality, any other value by a term clause; the
clause stands in the query of every set that holds the condition, at whatever depth. Membership in a
value that is no list gives a terms clause all the same, so a terms clause carries a list if no call
asks for that. Main statements: `mem_leafClauses_query_iff`, `records_clause`. -/
namespace SearchQuery

/-! ### Clauses of a query -/

/-- But for the clause that every document matches, the clauses of a query are those of the
conditions on fields. -/
theorem ConditionSet.mem_leafClauses_query_iff {set : ConditionSet} (h : set.Reachable)
    {clause : Json} (own : clause.isMatchAll = false) :
    clause ∈ set.query.value.leafClauses ↔ ∃ c ∈ set.fieldConditions, c.clause? = some clause := by
  have hown : ∀ clauses, clause ∈ ownLeaves clauses ↔ clause ∈ clauses := fun clauses => by
    simp [ownLeaves, own]
  have hclause : ∀ c : Condition, c.ownClause? = some clause ↔ c.clause? = some clause :=
    fun c => by simp [Condition.ownClause?, Option.filter_eq_some_iff, own]
  have hleaves : set.query.value.leafClauses = set.leavesOrAll := leafClauses_query h
  rw [hleaves, ← hown, ownLeaves_leavesOrAll, ownLeaves_eq_filterMap h, List.mem_filterMap]
  simp only [hclause]

/-- A clause about the value of a field holds the value itself or, beside a boost, under a key. -/
def valueClause (kind field : String) (value : Json) (boost : Float) : Json :=
  .single kind (.single field
    (if 0.0 < boost then .obj [("value", value), ("boost", .ofFloat boost)] else value))

namespace Condition

variable {c : Condition}

theorem fieldClause?_value {field kind : String} (about : c.subject = .field field)
    (valued : c.value.isEmpty = false) :
    c.fieldClause? kind (c.boostedValue "value") =
      if field = "" then none else some (valueClause kind field c.value c.boost) := by
  rw [fieldClause?, valued, if_neg Bool.false_ne_true, field?, about, boostedValue_eq]
  by_cases hfield : field = ""
  · simp [hfield]
  · simp [hfield, valueClause]

theorem of_fieldClause?_value {kind : String} {clause : Json}
    (h : c.fieldClause? kind (c.boostedValue "value") = some clause) :
    ∃ field, clause = valueClause kind field c.value c.boost := by
  unfold fieldClause? at h
  split at h
  · cases h
  · obtain ⟨field, _, rfl⟩ := Option.map_eq_some_iff.mp h
    exact ⟨field, by rw [valueClause, boostedValue_eq]⟩

theorem clause?_of_keyed {field : String} (about : c.subject = .field field)
    (valued : c.value.isEmpty = false) (keyed : c.operator ∈ [.term, .terms]) :
    c.clause? = if field = "" then none else some (valueClause
      (if c.value.isArray = true ∨ c.operator = .terms then "terms" else "term") field c.value
      c.boost) := by
  obtain ho | ho := by simpa using keyed
  · simp only [clause?, ho, fieldClause?_value about valued, reduceCtorEq, or_false]
  · simp only [clause?, ho, fieldClause?_value about valued, or_true, if_true]

/-- Only membership has a terms clause, for equality stands beside no list. -/
theorem eq_terms_of_kind (canonical : c.Canonical) (h : c.kind = "terms") :
    c.operator = .terms := by
  unfold kind at h
  split at h
  · next ho =>
    rw [canonical.value_term ho] at h
    exact absurd h (by decide)
  · next ho => exact ho
  · split at h <;> exact absurd h (by decide)
  all_goals exact absurd h (by decide)

theorem of_terms_clause {body : Json} (canonical : c.Canonical)
    (h : c.clause? = some (.single "terms" body)) :
    c.operator = .terms ∧
      ∃ field, .single "terms" body = valueClause "terms" field c.value c.boost := by
  obtain ⟨_, hclause⟩ := clause?_eq_single h
  have hkind : "terms" = c.kind := by
    simp only [Json.single, Json.obj.injEq, List.cons.injEq, Prod.mk.injEq] at hclause
    exact hclause.1.1
  have ho : c.operator = .terms := eq_terms_of_kind canonical hkind.symm
  rw [clause?, ho] at h
  exact ⟨ho, of_fieldClause?_value h⟩

end Condition

/-! ### Calls -/

/-- The operator that a call asks for, whatever its value. -/
def Draft.asked {σ : Type} (occur : Occur) (draft : Draft σ) : Operator :=
  .ofText (Condition.operatorText occur draft.operator)

namespace Condition

variable {occur : Occur} {draft : Draft Subject}

/-- Membership is asked for, or equality with a list. -/
theorem operator_onFields_eq_terms_iff :
    (onFields occur draft).operator = .terms ↔
      draft.asked occur = .terms ∨ draft.asked occur = .term ∧ draft.value.isArray = true := by
  rw [operator_onFields, Operator.forValue_eq, Draft.asked]
  split
  · next h => simp [h]
  · next h => simp [h]

theorem operator_onFields_keyed (keyed : draft.asked occur ∈ [.term, .terms]) :
    (onFields occur draft).operator ∈ [.term, .terms] := by
  rw [operator_onFields, Operator.forValue_eq]
  split
  · simp
  · exact keyed

theorem clause?_onFields_of_keyed {field : String} (about : draft.subject = .field field)
    (valued : draft.value.isEmpty = false) (keyed : draft.asked occur ∈ [.term, .terms]) :
    (onFields occur draft).clause? = if field = "" then none else some (valueClause
      (if draft.value.isArray = true ∨ draft.asked occur = .terms then "terms" else "term") field
      draft.value draft.boost) := by
  have hkind : draft.value.isArray = true ∨ (onFields occur draft).operator = .terms ↔
      draft.value.isArray = true ∨ draft.asked occur = .terms := by
    rw [operator_onFields_eq_terms_iff]
    by_cases hlist : draft.value.isArray = true
    · simp [hlist]
    · simp [hlist]
  have hclause := clause?_of_keyed about valued (operator_onFields_keyed keyed)
  rw [hclause]
  simp only [value_onFields, boost_onFields, hkind]

end Condition

namespace ConditionSet

/-- A set that calls build, none of which asks for membership in a value that is no list. -/
inductive Listed : ConditionSet → Prop
  | empty : Listed .empty
  | fields {set next : ConditionSet} {occur : Occur} {draft : Draft Subject} (built : Listed set)
      (call : set.Records occur draft (.ok next))
      (fields : ∀ child, draft.subject ≠ .nested child)
      (list : draft.asked occur = .terms → draft.value.isArray = true) : Listed next
  | nest {set child : ConditionSet} (occur : Occur) (built : Listed set) (nested : Listed child) :
      Listed (set.push (.nest occur child))

variable {set : ConditionSet} {occur : Occur} {draft : Draft Subject}
  {result : Except Error ConditionSet}

theorem Records.eq_push_fields (call : set.Records occur draft result)
    (fields : ∀ child, draft.subject ≠ .nested child) :
    result = .ok (set.push (.onFields occur draft)) := by
  rw [call.eq_push (Draft.occurName?_of_fields fields), Condition.ofDraft_fields fields]

theorem mem_fieldConditions_push {c d : Condition} :
    d ∈ (set.push c).fieldConditions ↔ d ∈ set.fieldConditions ∨ d ∈ c.fieldConditions := by
  simp only [fieldConditions_eq, List.mem_flatMap, push, Groups.mem_values_file, or_and_right,
    exists_or, exists_eq_left]

theorem Listed.reachable (h : set.Listed) : set.Reachable := by
  induction h with
  | empty => exact .empty
  | fields _ call fields _ ih =>
    rw [Except.ok.inj (call.eq_push_fields fields)]
    exact ih.push_onFields _ fields
  | nest occur _ _ ih ihchild => exact .nest occur ih ihchild

/-- Membership stands beside lists only, at whatever depth. -/
theorem Listed.isArray (h : set.Listed) :
    ∀ c ∈ set.fieldConditions, c.operator = .terms → c.value.isArray = true := by
  induction h with
  | empty => exact fun c hc => nomatch hc
  | @fields set next occur draft _ call fields list ih =>
    intro c hc ho
    rw [Except.ok.inj (call.eq_push_fields fields), mem_fieldConditions_push,
      Condition.fieldConditions_of_fields fields, List.mem_singleton] at hc
    obtain hc | rfl := hc
    · exact ih c hc ho
    · obtain hasked | ⟨_, hlist⟩ := Condition.operator_onFields_eq_terms_iff.mp ho
      · exact list hasked
      · exact hlist
  | nest occur _ _ ih ihchild =>
    intro c hc ho
    rw [mem_fieldConditions_push, Condition.fieldConditions_of_nested rfl] at hc
    obtain hc | hc := hc
    · exact ih c hc ho
    · exact ihchild c hc ho

/-- The terms clauses of a query carry lists if no call asks for membership in anything else. -/
theorem Listed.terms_clause (h : set.Listed) {body : Json}
    (hbody : .single "terms" body ∈ set.query.value.leafClauses) :
    ∃ field values boost, .single "terms" body = valueClause "terms" field (.arr values) boost := by
  obtain ⟨c, hc, hclause⟩ := (mem_leafClauses_query_iff h.reachable rfl).mp hbody
  have canonical := (h.reachable.canonical_fieldConditions c hc).1
  obtain ⟨ho, field, heq⟩ := Condition.of_terms_clause canonical hclause
  have hlist : c.value.isArray = true := h.isArray c hc ho
  cases hv : c.value with
  | arr values => exact ⟨field, values, c.boost, hv ▸ heq⟩
  | _ => rw [hv] at hlist; cases hlist

theorem mem_fieldConditions_push_self {c : Condition}
    (fields : ∀ child, c.subject ≠ .nested child) : c ∈ (set.push c).fieldConditions := by
  rw [mem_fieldConditions_push, Condition.fieldConditions_of_fields fields]
  exact .inr (List.mem_singleton_self c)

theorem mem_leafClauses_of_keyed {c : Condition} {clause : Json} (h : set.Reachable)
    (keyed : c.operator ∈ [.term, .terms]) (hc : c ∈ set.fieldConditions)
    (hclause : c.clause? = some clause) : clause ∈ set.query.value.leafClauses := by
  have known : ∀ text, c.operator ≠ .other text := fun text ho => by
    rw [ho] at keyed
    exact absurd keyed (by simp)
  exact (mem_leafClauses_query_iff h (Condition.isMatchAll_of_known known hclause)).mpr
    ⟨c, hc, hclause⟩

/-- A call that asks for equality or membership of one field records a condition whose clause,
unless the field has no name, is a terms clause if the value is a list and otherwise a term clause
under equality and a terms clause under membership. The clause stands in the query of every set that
holds the condition, at whatever depth, and the terms clauses of a query all carry lists if no call
asks for membership in anything else. -/
theorem records_clause {field : String} (call : set.Records occur draft result)
    (about : draft.subject = .field field) (valued : draft.value.isEmpty = false)
    (keyed : draft.asked occur ∈ [.term, .terms]) :
    ∃ c, result = .ok (set.push c) ∧ c ∈ (set.push c).fieldConditions ∧
      (c.translate.value =
        if field = "" then none
        else
          some (valueClause
            (if draft.value.isArray = true ∨ draft.asked occur = .terms then "terms" else "term")
            field draft.value draft.boost)) ∧
      (∀ whole : ConditionSet, whole.Reachable → c ∈ whole.fieldConditions →
        ∀ clause, c.translate.value = some clause → clause ∈ whole.query.value.leafClauses) ∧
      ∀ whole : ConditionSet, whole.Listed → ∀ body,
        .single "terms" body ∈ whole.query.value.leafClauses →
          ∃ field values boost,
            .single "terms" body = valueClause "terms" field (.arr values) boost := by
  have fields : ∀ child, draft.subject ≠ .nested child := fun child h => by
    rw [about] at h
    cases h
  have hkeyed := Condition.operator_onFields_keyed keyed
  refine ⟨.onFields occur draft, call.eq_push_fields fields,
    mem_fieldConditions_push_self fields, ?_, ?_, fun whole h body => h.terms_clause⟩
  · rw [Condition.translate_value, Condition.clause?_onFields_of_keyed about valued keyed]
  · intro whole h hc clause htranslate
    rw [Condition.translate_value] at htranslate
    exact mem_leafClauses_of_keyed h hkeyed hc htranslate

/-- What has none of the tags in a list, with a boost. -/
def untagged : Draft Subject :=
  ⟨.field "tags", "! Terms", .arr [.str "spam", .str "ad"], 2.0⟩

theorem records_clause_untagged :
    romans.Records .must untagged (romans.add " Must" untagged) ∧
      untagged.subject = .field "tags" ∧ untagged.value.isEmpty = false ∧
      untagged.asked .must ∈ [.term, .terms] ∧
      ∃ next clause, romans.add " Must" untagged = .ok next ∧
        clause = valueClause "terms" "tags" (.arr [.str "spam", .str "ad"]) 2.0 ∧
        clause ∈ (empty.push (.nest .should next)).query.value.leafClauses := by
  have call : romans.Records .must untagged (romans.add " Must" untagged) := .add rfl
  have fields : ∀ child, untagged.subject ≠ .nested child := nofun
  have keyed : untagged.asked .must ∈ [.term, .terms] := by decide +kernel
  obtain ⟨c, hnext, hc, hclause, hquery, _⟩ := records_clause call rfl rfl keyed
  have reachable : (empty.push (.nest .should (romans.push c))).Reachable :=
    .nest .should .empty (.add reachable_romans (fun child h => absurd h (fields child)) hnext)
  have hwhole : c ∈ (empty.push (.nest .should (romans.push c))).fieldConditions := by
    rw [mem_fieldConditions_push, Condition.fieldConditions_of_nested rfl]
    exact .inr hc
  exact ⟨call, rfl, rfl, keyed, _, _, hnext, rfl, hquery _ reachable hwhole _ hclause⟩

/-- A single tag in place of a list. -/
def singleTag : Arguments Subject := .ofValue (.field "tags") (.str "spam")

theorem singleTag_mem_leafClauses (verb : Verb)
    (keyed : (singleTag.draft verb).asked verb.occur ∈ [.term, .terms]) :
    valueClause (if (singleTag.draft verb).asked verb.occur = .terms then "terms" else "term")
        "tags" (.str "spam") 0.0 ∈
      (empty.record verb singleTag).value.query.value.leafClauses := by
  have fields : ∀ child, singleTag.subject ≠ .nested child := nofun
  have reachable : (empty.record verb singleTag).value.Reachable :=
    .record .empty fun child h => absurd h (fields child)
  have hvalue : (singleTag.draft verb).value.isArray = false := rfl
  refine mem_leafClauses_of_keyed reachable (Condition.operator_onFields_keyed keyed)
    (mem_fieldConditions_push_self fields) ?_
  rw [Condition.clause?_onFields_of_keyed rfl rfl keyed]
  simp only [hvalue, Bool.false_eq_true, false_or]
  rfl

/-- The verb for what is not in a list then leaves a terms clause that carries no list, and the verb
for what is in one a term clause. -/
theorem singleTag_unlisted :
    empty.Records .mustNot (singleTag.draft .whereNotIn)
        (.ok (empty.record .whereNotIn singleTag).value) ∧
      (singleTag.draft .whereNotIn).asked .mustNot = .terms ∧
      (singleTag.draft .whereNotIn).value.isArray = false ∧
      valueClause "terms" "tags" (.str "spam") 0.0 ∈
        (empty.record .whereNotIn singleTag).value.query.value.leafClauses ∧
      valueClause "term" "tags" (.str "spam") 0.0 ∈
        (empty.record .whereIn singleTag).value.query.value.leafClauses := by
  have hnotIn : (singleTag.draft .whereNotIn).asked .mustNot = .terms := by decide +kernel
  have hin : (singleTag.draft .whereIn).asked .must = .term := by decide +kernel
  have hterms := singleTag_mem_leafClauses .whereNotIn (by simp [hnotIn, Verb.occur])
  have hterm := singleTag_mem_leafClauses .whereIn (by simp [hin, Verb.occur])
  simp only [Verb.occur, hnotIn, hin, if_true, reduceCtorEq, if_false] at hterms hterm
  exact ⟨.record rfl rfl, hnotIn, rfl, hterms, hterm⟩

end ConditionSet

end SearchQuery
