import SearchQuery.Json.Basic

/-! Values that chains of members lead to. To take one out is to find it and to leave null in its
place, and what other chains lead to is still there afterwards. Main statements: `take_fst`,
`path?_take`. -/
namespace SearchQuery.Json

theorem path?_obj (members : Entries Json) (key : String) (rest : List String) :
    (Json.obj members).path? (key :: rest) = (Entries.get? members key).bind (·.path? rest) := rfl

theorem take_obj {members : Entries Json} {key : String} {inner : Json}
    (h : Entries.get? members key = some inner) (rest : List String) :
    (Json.obj members).take (key :: rest) =
      ((inner.take rest).1, .obj (Entries.insert key (inner.take rest).2 members)) := by
  simp only [take, h]

/-- What is taken out is what the chain leads to. -/
theorem take_fst (json : Json) (path : List String) : (json.take path).1 = json.path? path := by
  induction path generalizing json with
  | nil => rfl
  | cons key rest ih =>
    cases json with
    | obj members =>
      rw [path?_obj]
      cases h : Entries.get? members key with
      | some inner =>
        rw [take_obj h]
        exact ih inner
      | none => simp only [take, h, Option.bind_none]
    | _ => rfl

/-- A chain leads where it did before, unless it runs through the place of what was taken or ends on
the way there. -/
theorem path?_take {path other : List String} (beyond : ¬ path <+: other) (before : ¬ other <+: path)
    (json : Json) : (json.take path).2.path? other = json.path? other := by
  induction path generalizing json other with
  | nil => exact absurd List.nil_prefix beyond
  | cons key rest ih =>
    cases other with
    | nil => exact absurd List.nil_prefix before
    | cons step steps =>
      cases json with
      | obj members =>
        cases h : Entries.get? members key with
        | none => simp only [take, h]
        | some inner =>
          rw [take_obj h, path?_obj, path?_obj, Entries.get?_insert]
          by_cases hkey : key = step
          · subst hkey
            have hbeyond : ¬ rest <+: steps := mt (List.prefix_cons_inj key).mpr beyond
            have hbefore : ¬ steps <+: rest := mt (List.prefix_cons_inj key).mpr before
            rw [if_pos rfl, h]
            exact ih hbeyond hbefore inner
          · rw [if_neg hkey]
      | _ => rfl

end SearchQuery.Json
