import SearchQuery.Proofs.Json.Same
import SearchQuery.Proofs.Query.Tree

/-! Boosts in clauses. A clause keeps its boost in its body or one level deeper, under its field,
beside what stands there anyway or beside the value, which then moves under a key. What a clause says
apart from its boost is what it says without one, whatever names and values stand around it. Main
statements: `not_zero_lt_iff`, `rel_clause?`, `translate_withBoost`. -/
namespace SearchQuery

open Float.Model (UnpackedFloat)

/-! ### Doubles that are no boost -/

theorem unpack_zero : (0.0 : Float).toModel.unpack = .zero .positive := rfl

theorem float_lt_iff (x y : Float) :
    x < y ↔ UnpackedFloat.lt x.toModel.unpack y.toModel.unpack = true :=
  decide_eq_true_iff

/-- A double that is not greater than zero is not a number, is one of the two zeros, or lies below
them. -/
theorem not_zero_lt_iff (x : Float) :
    ¬0.0 < x ↔ x.isNaN = true ∨ (x == 0.0) = true ∨ x < 0.0 := by
  have hnan : x.isNaN = x.toModel.unpack.isNaN := rfl
  have hzero : (x == 0.0) = UnpackedFloat.beq x.toModel.unpack (.zero .positive) := by
    rw [← unpack_zero]
    rfl
  rw [float_lt_iff, float_lt_iff, unpack_zero, hnan, hzero]
  -- comparing with a zero looks at the kind and the sign only
  cases x.toModel.unpack with
  | notANumber => decide
  | infinity sign => cases sign <;> decide
  | zero sign => exact iff_of_true Bool.false_ne_true (.inr (.inl rfl))
  | finite sign mantissa exponent positive =>
    cases sign with
    | negative => exact iff_of_true Bool.false_ne_true (.inr (.inr rfl))
    | positive =>
      refine iff_of_false (not_not_intro rfl) ?_
      rintro (h | h | h)
      all_goals exact Bool.false_ne_true h

/-! ### Reading a boost and taking it out -/

theorem Entries.remove_concat {α : Type} {key : String} {entries : Entries α}
    (h : key ∉ keys entries) (value : α) : remove key (entries ++ [(key, value)]) = entries := by
  induction entries with
  | nil => simp [remove]
  | cons entry rest ih =>
    obtain ⟨k, v⟩ := entry
    rw [keys_cons, List.mem_cons, not_or] at h
    obtain ⟨hne, hrest⟩ := h
    rw [List.cons_append, remove, if_neg (Ne.symm hne), ih hrest]

/-- The kinds of clause that keep a boost in their body. All others keep it under their field. -/
def boostedInBody : List String := ["multi_match", "exists", "missing"]

/-- The key for the value beside a boost, in a clause whose value stands by itself without one. -/
def valueKey? : String → Option String
  | "term" | "terms" => some "value"
  | "match" => some "query"
  | _ => none

namespace Json

def withoutBoost : Json → Json
  | .obj members => .obj (Entries.remove "boost" members)
  | json => json

/-- The boost under the only field of a body. -/
def fieldBoost? : Json → Option Json
  | .obj [(_, inner)] => inner.get? "boost"
  | _ => none

/-- A body without the boost under its only field. A value that was moved under a key comes back. -/
def unboostedField (kind : String) : Json → Json
  | .obj [(field, inner)] =>
    .single field <|
      match valueKey? kind with
      | some key => (inner.get? key).getD inner
      | none => inner.withoutBoost
  | body => body

/-- The boost that a clause carries. -/
def carriedBoost? : Json → Option Json
  | .obj [(kind, body)] => if kind ∈ boostedInBody then body.get? "boost" else body.fieldBoost?
  | _ => none

/-- A clause with its boost taken out. -/
def unboosted : Json → Json
  | .obj [(kind, body)] =>
    .single kind (if kind ∈ boostedInBody then body.withoutBoost else body.unboostedField kind)
  | json => json

/-- A clause with a boost, beside the clause without one. -/
structure BoostedAs (boost : Float) (clause plain : Json) : Prop where
  keys : clause.keys = plain.keys
  carried : clause.carriedBoost? = some (.ofFloat boost)
  undone : clause.unboosted = plain

theorem get?_boost_concat {members : Entries Json} (h : "boost" ∉ Entries.keys members)
    (value : Json) : (obj (members ++ [("boost", value)])).get? "boost" = some value := by
  rw [get?, ← Entries.insert_of_notMem h, Entries.get?_insert, if_pos rfl]

theorem withoutBoost_concat {members : Entries Json} (h : "boost" ∉ Entries.keys members)
    (value : Json) : (obj (members ++ [("boost", value)])).withoutBoost = .obj members := by
  rw [withoutBoost, Entries.remove_concat h]

variable {boost : Float} {kind : String}

theorem BoostedAs.inBody (h : kind ∈ boostedInBody) {members : Entries Json}
    (hmembers : "boost" ∉ Entries.keys members) :
    BoostedAs boost (.single kind (.obj (members ++ [("boost", .ofFloat boost)])))
      (.single kind (.obj members)) where
  keys := rfl
  carried := by rw [single, carriedBoost?, if_pos h, get?_boost_concat hmembers]
  undone := by rw [single, unboosted, if_pos h, withoutBoost_concat hmembers]

theorem BoostedAs.underField {boosted plain : Json} (h : kind ∉ boostedInBody)
    (carried : boosted.fieldBoost? = some (.ofFloat boost))
    (undone : boosted.unboostedField kind = plain) :
    BoostedAs boost (.single kind boosted) (.single kind plain) where
  keys := rfl
  carried := by rw [single, carriedBoost?, if_neg h, carried]
  undone := by rw [single, unboosted, if_neg h, undone]

theorem keys_of_rel {clause? plain? : Option Json}
    (h : Option.Rel (BoostedAs boost) clause? plain?) : clause?.map keys = plain?.map keys := by
  cases h with
  | none => rfl
  | some decorated => exact congrArg some decorated.keys

theorem of_rel {clause : Json} {plain? : Option Json}
    (h : Option.Rel (BoostedAs boost) (some clause) plain?) :
    clause.carriedBoost? = some (.ofFloat boost) ∧ plain? = some clause.unboosted := by
  cases h with
  | some decorated => exact ⟨decorated.carried, congrArg some decorated.undone.symm⟩

end Json

/-! ### Conditions with and without a boost -/

namespace Condition

variable {c : Condition} {boost : Float}

def withBoost (c : Condition) (boost : Float) : Condition := { c with boost := boost }

theorem subject_withBoost (c : Condition) (boost : Float) :
    (c.withBoost boost).subject = c.subject := rfl

theorem operator_withBoost (c : Condition) (boost : Float) :
    (c.withBoost boost).operator = c.operator := rfl

theorem value_withBoost (c : Condition) (boost : Float) : (c.withBoost boost).value = c.value := rfl

theorem field?_withBoost (c : Condition) (boost : Float) :
    (c.withBoost boost).field? = c.field? := rfl

theorem boostMember_eq (c : Condition) :
    c.boostMember = if 0.0 < c.boost then [("boost", .ofFloat c.boost)] else [] := by
  unfold boostMember boost?
  split <;> rfl

theorem boostedValue_eq (c : Condition) (key : String) :
    c.boostedValue key =
      if 0.0 < c.boost then .obj [(key, c.value), ("boost", .ofFloat c.boost)] else c.value := by
  unfold boostedValue boostMember boost?
  split <;> simp_all

theorem boostMember_of_pos (h : 0.0 < boost) :
    (c.withBoost boost).boostMember = [("boost", .ofFloat boost)] := by
  rw [boostMember_eq]
  exact if_pos h

theorem boostMember_of_not_pos (h : ¬0.0 < boost) : (c.withBoost boost).boostMember = [] := by
  rw [boostMember_eq]
  exact if_neg h

theorem boostedValue_of_pos (h : 0.0 < boost) (key : String) :
    (c.withBoost boost).boostedValue key = .obj [(key, c.value), ("boost", .ofFloat boost)] := by
  rw [boostedValue_eq]
  exact if_pos h

theorem boostedValue_of_not_pos (h : ¬0.0 < boost) (key : String) :
    (c.withBoost boost).boostedValue key = c.value := by
  rw [boostedValue_eq]
  exact if_neg h

theorem not_zero_lt_zero : ¬(0.0 : Float) < 0.0 := by decide

/-- A condition whose boost is none has the clause of a condition without one. -/
theorem clause?_of_not_pos (h : ¬0.0 < boost) :
    (c.withBoost boost).clause? = (c.withBoost 0.0).clause? := by
  simp only [clause?, fullTextClause?, presenceClause?, boostedValue_of_not_pos h,
    boostedValue_of_not_pos not_zero_lt_zero, boostMember_of_not_pos h,
    boostMember_of_not_pos not_zero_lt_zero]
  rfl

theorem rel_fieldClause? {kind : String} {boosted plain : Json} (h : kind ∉ boostedInBody)
    (carried : boosted.get? "boost" = some (.ofFloat boost))
    (undone : ∀ field, Json.unboostedField kind (.single field boosted) = .single field plain) :
    Option.Rel (Json.BoostedAs boost) ((c.withBoost boost).fieldClause? kind boosted)
      ((c.withBoost 0.0).fieldClause? kind plain) := by
  rw [fieldClause?, fieldClause?, value_withBoost, value_withBoost, field?_withBoost,
    field?_withBoost]
  cases c.value.isEmpty with
  | true => exact .none
  | false =>
    cases c.field? with
    | none => exact .none
    | some field => exact .some (.underField h carried (undone field))

/-- The value moves under a key beside the boost, whatever it is. -/
theorem rel_valueClause? (h : 0.0 < boost) {kind key : String} (hkind : kind ∉ boostedInBody)
    (hkey : valueKey? kind = some key) (hne : key ≠ "boost") :
    Option.Rel (Json.BoostedAs boost)
      ((c.withBoost boost).fieldClause? kind ((c.withBoost boost).boostedValue key))
      ((c.withBoost 0.0).fieldClause? kind ((c.withBoost 0.0).boostedValue key)) := by
  rw [boostedValue_of_pos h, boostedValue_of_not_pos not_zero_lt_zero]
  refine rel_fieldClause? hkind ?_ fun field => ?_
  · simp [Json.get?, Entries.get?, hne]
  · simp [Json.single, Json.unboostedField, hkey, Json.get?, Entries.get?]

theorem rel_rangeClause? (h : 0.0 < boost) (bound : Bound) :
    Option.Rel (Json.BoostedAs boost)
      ((c.withBoost boost).fieldClause? "range"
        (.obj ((bound.name, c.value) :: (c.withBoost boost).boostMember)))
      ((c.withBoost 0.0).fieldClause? "range"
        (.obj ((bound.name, c.value) :: (c.withBoost 0.0).boostMember))) := by
  have hne : "boost" ≠ bound.name := by cases bound <;> decide
  have hbound : "boost" ∉ Entries.keys [(bound.name, c.value)] := by simp [Entries.keys, hne]
  rw [boostMember_of_pos h, boostMember_of_not_pos not_zero_lt_zero]
  exact rel_fieldClause? (by decide) (Json.get?_boost_concat hbound _) fun field =>
    congrArg (Json.single field) (Json.withoutBoost_concat hbound _)

theorem rel_presenceClause? (h : 0.0 < boost) {kind : String} (hkind : kind ∈ boostedInBody) :
    Option.Rel (Json.BoostedAs boost) ((c.withBoost boost).presenceClause? kind)
      ((c.withBoost 0.0).presenceClause? kind) := by
  rw [presenceClause?, presenceClause?, field?_withBoost, field?_withBoost, boostMember_of_pos h,
    boostMember_of_not_pos not_zero_lt_zero]
  cases c.field? with
  | none => exact .none
  | some field =>
    have hmember : "boost" ∉ Entries.keys [("field", Json.str field)] := by simp [Entries.keys]
    exact .some (.inBody hkind hmember)

theorem rel_fullTextClause? (h : 0.0 < boost) :
    Option.Rel (Json.BoostedAs boost) (c.withBoost boost).fullTextClause?
      (c.withBoost 0.0).fullTextClause? := by
  rw [fullTextClause?, fullTextClause?, subject_withBoost, subject_withBoost, value_withBoost,
    value_withBoost]
  cases c.subject with
  | fields names =>
    dsimp only
    cases names.isEmpty || c.value.isEmpty with
    | true => exact .none
    | false =>
      have hmembers : "boost" ∉ Entries.keys [("query", c.value), ("fields", .ofStrings names)] := by
        simp [Entries.keys]
      rw [boostMember_of_pos h, boostMember_of_not_pos not_zero_lt_zero]
      exact .some (.inBody (by decide) hmembers)
  | field name | nested child => exact rel_valueClause? h (by decide) rfl (by decide)

/-- A condition with a boost has a clause exactly if it has one without, and the boost is all that
sets the two apart. -/
theorem rel_clause? (known : ∀ text, c.operator ≠ .other text) (h : 0.0 < boost) :
    Option.Rel (Json.BoostedAs boost) (c.withBoost boost).clause? (c.withBoost 0.0).clause? := by
  rw [clause?, clause?, operator_withBoost, operator_withBoost, value_withBoost, value_withBoost]
  cases hop : c.operator with
  | term => exact rel_valueClause? h (by split <;> decide) (by split <;> rfl) (by decide)
  | terms => exact rel_valueClause? h (by decide) rfl (by decide)
  | fullText => exact rel_fullTextClause? h
  | range bound => exact rel_rangeClause? h bound
  | present | absent => exact rel_presenceClause? h (by decide)
  | nested => exact .none
  | other text => exact absurd hop (known text)

/-- For a known operator, a boost only decorates a clause. Whether there is a clause, and of what
kind, does not depend on the boost; a boost that is not greater than zero leaves the clause that there
is without one; and a clause carries a finite positive boost as it was given, and without it is the
clause that there is without a boost, whatever the field and the value. -/
theorem translate_withBoost (known : ∀ text, c.operator ≠ .other text) (boost : Float) :
    (c.withBoost boost).translate.value.map Json.keys =
        (c.withBoost 0.0).translate.value.map Json.keys ∧
      (¬0.0 < boost ↔ boost.isNaN = true ∨ (boost == 0.0) = true ∨ boost < 0.0) ∧
      (¬0.0 < boost → (c.withBoost boost).translate.value = (c.withBoost 0.0).translate.value) ∧
      (0.0 < boost → boost.isFinite = true →
        ∀ clause, (c.withBoost boost).translate.value = some clause →
          clause.carriedBoost? = some (.num (.float boost)) ∧
            (c.withBoost 0.0).translate.value = some clause.unboosted) := by
  simp only [translate_value]
  refine ⟨?_, not_zero_lt_iff boost, clause?_of_not_pos, fun h finite clause hclause => ?_⟩
  · by_cases h : 0.0 < boost
    · exact Json.keys_of_rel (rel_clause? known h)
    · rw [clause?_of_not_pos h]
  · have hrel := rel_clause? known h
    rw [hclause] at hrel
    obtain ⟨carried, undone⟩ := Json.of_rel hrel
    have hnumber : Json.ofFloat boost = .num (.float boost) := if_pos finite
    exact ⟨hnumber ▸ carried, undone⟩

/-- A value that looks like the object that holds a value beside a boost, under a field that is named
like a boost. -/
def lookalike : Condition :=
  ⟨.must, .field "boost", .term,
    .obj [("value", .str "a"), ("boost", .ofNat 3), ("query", .null)], 0.0⟩

theorem translate_withBoost_lookalike :
    (∀ text, lookalike.operator ≠ .other text) ∧ (0.0 : Float) < 2.5 ∧
      (2.5 : Float).isFinite = true ∧ ¬(0.0 : Float) < 0.0 / 0.0 ∧
      (lookalike.withBoost (0.0 / 0.0)).translate.value = some
        (.single "term" (.single "boost" lookalike.value)) ∧
      ∃ clause, clause = Json.single "term" (.single "boost"
          (.obj [("value", lookalike.value), ("boost", .num (.float 2.5))])) ∧
        (lookalike.withBoost 2.5).translate.value = some clause ∧
        clause.carriedBoost? = some (.num (.float 2.5)) ∧
        (lookalike.withBoost 0.0).translate.value = some clause.unboosted := by
  have known : ∀ text, lookalike.operator ≠ .other text := nofun
  have hpos : (0.0 : Float) < 2.5 := by decide
  have hfinite : (2.5 : Float).isFinite = true := by decide
  have hnan : ¬(0.0 : Float) < 0.0 / 0.0 := by decide
  obtain ⟨_, _, hsame, _⟩ := translate_withBoost known (0.0 / 0.0)
  obtain ⟨_, _, _, hboosted⟩ := translate_withBoost known 2.5
  have hclause : (lookalike.withBoost 2.5).translate.value = some (.single "term" (.single "boost"
      (.obj [("value", lookalike.value), ("boost", .num (.float 2.5))]))) := by
    rfl
  exact ⟨known, hpos, hfinite, hnan, hsame hnan, _, rfl, hclause, hboosted hpos hfinite _ hclause⟩

end Condition

end SearchQuery
