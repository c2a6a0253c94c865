import Mathlib.Data.List.Forall2
import CatalogSearch.Proofs.Decimal.Rounding
import CatalogSearch.Proofs.Json.Views
import CatalogSearch.Query.IntentForm

/-!
# Reading intents

An intent is read field by field (`Intent.ofFields?_eq_some`), and each field is read from its
normal form as from the value that was given. So what is read from any value is written in the
normal form of that value, and the same intent is read from this form again
(`Intent.decoding_is_stable`). Most fields are objects whose members are all read in one way: one
equation of maps says what is read from them (`Intent.entries?_eq_some`).
-/

namespace CatalogSearch

section

universe u v w

variable {α : Type u} {β : Type v} {γ : Type w}

/-! ## Lists and maps -/

theorem mapM_eq_some {f : α → Option β} {l : List α} {l' : List β} :
    l.mapM f = some l' ↔ List.Forall₂ (fun x y => f x = some y) l l' := by
  induction l generalizing l' with
  | nil => simp [eq_comm]
  | cons x l ih =>
    simp only [List.mapM_cons, Option.bind_eq_bind, Option.bind_eq_some_iff, Option.pure_def,
      Option.some.injEq, ih, List.forall₂_cons_left_iff, exists_and_left, @eq_comm _ l']

theorem map_eq_map_iff_forall₂ {f : α → γ} {g : β → γ} {l : List α} {l' : List β} :
    l.map f = l'.map g ↔ List.Forall₂ (fun x y => f x = g y) l l' := by
  rw [← List.forall₂_eq_eq_eq, List.forall₂_map_left_iff, List.forall₂_map_right_iff]

theorem findEntry_map (f : α → β) (k : String) (l : List (String × α)) :
    findEntry k (l.map fun e => (e.1, f e.2)) = (findEntry k l).map f := by
  induction l with
  | nil => rfl
  | cons e l ih => by_cases own : k = e.1 <;> simp [findEntry, own, ih]

namespace FieldMap

theorem get?_mapValues (f : α → β) (m : FieldMap α) (k : String) :
    (m.mapValues f).get? k = (m.get? k).map f := findEntry_map f k m.toList

theorem mapValues_mapValues (f : α → β) (g : β → γ) (m : FieldMap α) :
    (m.mapValues f).mapValues g = m.mapValues (g ∘ f) := by
  ext1
  simp [mapValues]

theorem mapValues_id (m : FieldMap α) : m.mapValues id = m := by
  ext1
  simp [mapValues]

theorem mapValues_congr {f g : α → β} {m : FieldMap α} (h : ∀ e ∈ m.toList, f e.2 = g e.2) :
    m.mapValues f = m.mapValues g := by
  ext1
  exact List.map_congr_left fun e mem => congrArg (e.1, ·) (h e mem)

/-- If the values of one map are what is made of those of another one, something is made of each of
these. -/
theorem exists_of_mapValues {m : FieldMap α} {n : FieldMap β} {f : α → Option β}
    (h : m.mapValues f = n.mapValues some) {e : String × α} (mem : e ∈ m.toList) :
    ∃ x, f e.2 = some x := by
  have made : (e.1, f e.2) ∈ (n.mapValues some).toList := h ▸ List.mem_map_of_mem mem
  obtain ⟨e', -, same⟩ := List.mem_map.1 made
  exact ⟨e'.2, (Prod.mk.inj same).2.symm⟩

end FieldMap

end

namespace Intent

variable {α : Type} {i : Intent} {v : Json}

/-! ## Values of fields -/

theorem strings?_eq_some {l : List String} : strings? v = some l ↔ v = .strings l := by
  have texts (vs : List Json) : vs.mapM Json.text? = some l ↔ vs.map id = l.map .str := by
    rw [mapM_eq_some, map_eq_map_iff_forall₂]
    simp only [Json.text?_eq_some, id]
  cases v <;> simp [strings?, Json.elements?, Json.strings, texts]

theorem text?_eq_some {text : Option String} :
    text? v = some text ↔ v = .orNull (text.map .str) := by
  cases v <;> cases text <;> simp [text?, Json.orNull, eq_comm]

/-- A bound is open if it is null. -/
theorem optional_eq (bound : Json) :
    optional bound = if bound = .null then none else some bound := by
  cases bound <;> rfl

theorem of_window?_eq_some {w : Window} (h : window? v = some w) :
    ∃ lower upper, v = .arr [lower, upper] ∧ w = ⟨optional lower, optional upper⟩ := by
  unfold window? at h
  split at h
  · exact ⟨_, _, rfl, (Option.some.inj h).symm⟩
  · cases h

/-- A window is written as it was given: null is the only form of an open bound. -/
theorem windowToJson_of_window? {w : Window} (h : window? v = some w) : windowToJson w = v := by
  have back (bound : Json) : Json.orNull (optional bound) = bound := by cases bound <;> rfl
  obtain ⟨lower, upper, rfl, rfl⟩ := of_window?_eq_some h
  rw [windowToJson, back, back]

/-! ## Objects whose members are read in one way -/

theorem fields?_object (m : FieldMap Json) : (Json.object m).fields? = some m :=
  congrArg some (FieldMap.ofList_toList m)

/-- The entries of an object are read if each member is read: the map of what is made of the members
is then the map of the entries. -/
theorem entries?_eq_some {f : Json → Option α} {m : FieldMap α} :
    entries? f v = some m ↔
      ∃ members, v.fields? = some members ∧ members.mapValues f = m.mapValues some := by
  have pairs (e : String × Json) (e' : String × α) :
      (f e.2).map (e.1, ·) = some e' ↔ (e.1, f e.2) = (e'.1, some e'.2) := by
    rw [Option.map_eq_some_iff, Prod.mk.injEq]
    constructor
    · rintro ⟨x, read, rfl⟩
      exact ⟨rfl, read⟩
    · rintro ⟨name, read⟩
      exact ⟨e'.2, read, by rw [name]⟩
  have read : entries? f v = some m ↔
      ∃ members, v.fields? = some members ∧ ∃ l : List (String × α),
        members.toList.map (fun e => (e.1, f e.2)) = l.map (fun e => (e.1, some e.2)) ∧
          FieldMap.ofList l = m := by
    simp only [entries?, Option.bind_eq_bind, Option.bind_eq_some_iff, Option.pure_def,
      Option.some.injEq, mapM_eq_some, map_eq_map_iff_forall₂, pairs]
  rw [read]
  refine exists_congr fun members => and_congr_right fun _ => ⟨?_, fun same => ?_⟩
  · rintro ⟨l, same, rfl⟩
    have sorted : SortedByName l := by
      have sorted : SortedByName (members.toList.map fun e => (e.1, f e.2)) :=
        (members.mapValues f).sorted
      rw [same] at sorted
      simpa [SortedByName, List.pairwise_map] using sorted
    have kept : FieldMap.ofList l = ⟨l, sorted⟩ := FieldMap.ofList_toList ⟨l, sorted⟩
    rw [kept]
    exact FieldMap.ext same
  · exact ⟨m.toList, congrArg FieldMap.toList same, FieldMap.ofList_toList m⟩

/-- Entries that are written like the members that they were read from, apart from a change `n` of
the members that no reader sees, make the tidied object, from which they are read again. -/
theorem entries?_tidy {f : Json → Option α} {w : α → Json} {n : Json → Json} {m : FieldMap α}
    (read : entries? f v = some m) (unseen : ∀ x, f (n x) = f x)
    (like : ∀ members, v.fields? = some members → ∀ e ∈ members.toList,
      ∀ x, f e.2 = some x → w x = n e.2) :
    .object (m.mapValues w) = v.tidy n ∧ entries? f (v.tidy n) = some m := by
  obtain ⟨members, given, same⟩ := entries?_eq_some.1 read
  have tidied : v.tidy n = .object (members.mapValues n) := by
    cases v with
    | obj l =>
      obtain rfl := Option.some.inj given
      rfl
    | _ => cases given
  rw [tidied]
  constructor
  · refine congrArg Json.object ?_
    calc m.mapValues w
      _ = (m.mapValues some).mapValues fun x => (x.map w).getD .null := by
        rw [FieldMap.mapValues_mapValues]
        rfl
      _ = members.mapValues fun x => ((f x).map w).getD .null := by
        rw [← same, FieldMap.mapValues_mapValues]
        rfl
      _ = members.mapValues n := by
        refine FieldMap.mapValues_congr fun e mem => ?_
        obtain ⟨x, value⟩ := FieldMap.exists_of_mapValues same mem
        rw [value]
        exact like members given e mem x value
  · refine entries?_eq_some.2 ⟨_, fields?_object _, ?_⟩
    rw [FieldMap.mapValues_mapValues, ← same]
    exact FieldMap.mapValues_congr fun e _ => unseen e.2

/-! ## Fields -/

/-- What is read from the value of a field that may be left out. -/
def readOr (f : Json → Option α) (default : α) : Option Json → Option α
  | none => some default
  | some v => f v

section Form

variable (field : String) {given : Option Json}

/-- A field that is an object is written in its form, from which it is read again. -/
theorem entries?_form {f : Json → Option α} {w : α → Json} {n : Json → Json} {m : FieldMap α}
    (left_out : absent field = .obj []) (form : written field = Json.tidy n)
    (read : readOr (entries? f) .empty given = some m) (unseen : ∀ x, f (n x) = f x)
    (like : ∀ e ∈ ((given.bind Json.fields?).getD .empty).toList,
      ∀ x, f e.2 = some x → w x = n e.2) :
    .object (m.mapValues w) = fieldForm field given ∧
      entries? f (fieldForm field given) = some m := by
  cases given with
  | none =>
    obtain rfl := Option.some.inj read
    rw [fieldForm, left_out]
    exact ⟨rfl, rfl⟩
  | some v =>
    rw [fieldForm, form]
    refine entries?_tidy read unseen fun members given => ?_
    rwa [Option.bind_some, given] at like

/-- A field of values that are taken as they are. -/
theorem entries?_some_form {m : FieldMap Json} (left_out : absent field = .obj [])
    (form : written field = Json.tidy id) (read : readOr (entries? some) .empty given = some m) :
    .object m = fieldForm field given ∧ entries? some (fieldForm field given) = some m := by
  have like (e : String × Json) (x : Json) (same : some e.2 = some x) : id x = id e.2 :=
    (Option.some.inj same).symm
  have formed := entries?_form field left_out form read (fun _ => rfl) fun e _ => like e
  rwa [FieldMap.mapValues_id] at formed

/-- Numbers are written as binary numbers, which has no effect on their reader. -/
theorem entries?_number_form {m : FieldMap Double} (left_out : absent field = .obj [])
    (form : written field = Json.tidy Json.toBinary)
    (read : readOr (entries? Json.number?) .empty given = some m)
    (numbers : ∀ e ∈ ((given.bind Json.fields?).getD .empty).toList, e.2.IsNumber) :
    .object (m.mapValues Json.ofDouble) = fieldForm field given ∧
      entries? Json.number? (fieldForm field given) = some m := by
  refine entries?_form field left_out form read (fun x => ?unseen) fun e mem x value => ?like
  case unseen => cases x <;> rfl
  case like =>
    have number := numbers e mem
    cases given : e.2 with
    | int n =>
      rw [given] at number value
      obtain rfl := Option.some.inj value
      have finite : (Double.ofInt n).isFinite = true := by
        refine Double.isFinite_ofInt ?_
        obtain ⟨lower, upper⟩ := number
        omega
      rw [Json.ofDouble, if_pos finite, Json.toBinary]
    | float y =>
      rw [given] at number value
      obtain rfl := Option.some.inj value
      exact if_pos number
    | _ => simp [given, Json.number?] at value

theorem strings?_form {l : List String} (left_out : absent field = .arr [])
    (form : written field = Json.tidy id) (read : readOr strings? [] given = some l) :
    .strings l = fieldForm field given ∧ strings? (fieldForm field given) = some l := by
  have same : .strings l = fieldForm field given := by
    cases given with
    | none =>
      obtain rfl := Option.some.inj read
      exact left_out.symm
    | some v =>
      obtain rfl := strings?_eq_some.1 read
      rw [fieldForm, form]
      rfl
  exact ⟨same, strings?_eq_some.2 same.symm⟩

theorem text?_form {text : Option String} (left_out : absent field = .null)
    (form : written field = Json.tidy id) (read : readOr text? none given = some text) :
    .orNull (text.map .str) = fieldForm field given ∧
      text? (fieldForm field given) = some text := by
  have same : .orNull (text.map .str) = fieldForm field given := by
    cases given with
    | none =>
      obtain rfl := Option.some.inj read
      exact left_out.symm
    | some v =>
      obtain rfl := text?_eq_some.1 read
      rw [fieldForm, form]
      cases text <;> rfl
  exact ⟨same, text?_eq_some.2 same.symm⟩

end Form

/-- An intent is read if each of its fields is. -/
theorem ofFields?_eq_some {field : String → Option Json} :
    ofFields? field = some i ↔
      readOr (entries? some) .empty (field "terms") = some i.terms ∧
        readOr (entries? some) .empty (field "filter") = some i.filter ∧
        readOr (entries? window?) .empty (field "range") = some i.range ∧
        readOr text? none (field "query") = some i.query ∧
        readOr strings? [] (field "fields") = some i.fields ∧
        readOr (entries? strings?) .empty (field "multi_match") = some i.multiMatch ∧
        readOr (entries? Json.number?) .empty (field "boosts") = some i.boosts ∧
        readOr (entries? some) .empty (field "should") = some i.should := by
  have unfolded : ofFields? field = (do
      let terms ← readOr (entries? some) .empty (field "terms")
      let filter ← readOr (entries? some) .empty (field "filter")
      let range ← readOr (entries? window?) .empty (field "range")
      let query ← readOr text? none (field "query")
      let fields ← readOr strings? [] (field "fields")
      let multiMatch ← readOr (entries? strings?) .empty (field "multi_match")
      let boosts ← readOr (entries? Json.number?) .empty (field "boosts")
      let should ← readOr (entries? some) .empty (field "should")
      return ⟨terms, filter, range, query, fields, multiMatch, boosts, should⟩) := rfl
  rw [unfolded]
  simp only [Option.bind_eq_bind, Option.bind_eq_some_iff, Option.pure_def, Option.some.injEq]
  constructor
  · rintro ⟨_, terms, _, filter, _, range, _, query, _, fields, _, multiMatch, _, boosts, _, should,
      rfl⟩
    exact ⟨terms, filter, range, query, fields, multiMatch, boosts, should⟩
  · rintro ⟨terms, filter, range, query, fields, multiMatch, boosts, should⟩
    exact ⟨_, terms, _, filter, _, range, _, query, _, fields, _, multiMatch, _, boosts, _, should,
      rfl⟩

/-! ## What a value gives -/

theorem findEntry_zip {names : List String} {values : List Json}
    (short : values.length ≤ names.length) (field : String) :
    findEntry field (names.zip values) = values[names.idxOf field]? := by
  induction names generalizing values with
  | nil =>
    obtain rfl := List.length_eq_zero_iff.1 (Nat.le_zero.1 short)
    rfl
  | cons name names ih =>
    cases values with
    | nil => rfl
    | cons value values =>
      by_cases own : field = name
      · simp [findEntry, own]
      · rw [List.zip_cons_cons, findEntry, if_neg own, List.idxOf_cons_ne _ (Ne.symm own),
          List.getElem?_cons_succ]
        exact ih (Nat.le_of_succ_le_succ short)

/-- An intent is read from what a value gives for its fields. -/
theorem ofFields?_given? (read : ofJson? v = some i) : ofFields? (given? v) = some i := by
  cases v with
  | obj members => exact read
  | arr values =>
    rw [ofJson?] at read
    split at read
    · cases read
    · next short =>
      rwa [funext (findEntry_zip (Nat.not_lt.1 short))] at read
  | _ => cases read

theorem get?_record_map (names : List String) (form : String → Json) (field : String) :
    (Json.record (names.map fun name => (name, form name))).get? field =
      if field ∈ names then some (form field) else none := by
  induction names with
  | nil => rfl
  | cons name names ih =>
    rw [List.map_cons, Json.get?_record_cons, ih]
    by_cases own : field = name
    · subst own
      by_cases later : field ∈ names <;> simp [later]
    · simp [own]

theorem get?_normalForm {field : String} (mem : field ∈ fieldNames) :
    (normalForm v).get? field = some (fieldForm field (given? v field)) := by
  rw [normalForm, get?_record_map, if_pos mem]

/-! ## Decoding and writing -/

/-- What is read from a value is written in the normal form of the value, and read from it again. -/
theorem normalForm_of_ofJson? (read : ofJson? v = some i)
    (numbers : ∀ e ∈ (givenMembers v "boosts").toList, e.2.IsNumber) :
    i.toJson = normalForm v ∧ ofJson? (normalForm v) = some i := by
  obtain ⟨terms, filter, range, query, fields, multiMatch, boosts, should⟩ :=
    ofFields?_eq_some.1 (ofFields?_given? read)
  obtain ⟨terms, terms'⟩ := entries?_some_form "terms" rfl rfl terms
  obtain ⟨filter, filter'⟩ := entries?_some_form "filter" rfl rfl filter
  obtain ⟨range, range'⟩ := entries?_form "range" rfl rfl range (fun _ => rfl) fun _ _ _ =>
    windowToJson_of_window?
  obtain ⟨query, query'⟩ := text?_form "query" rfl rfl query
  obtain ⟨fields, fields'⟩ := strings?_form "fields" rfl rfl fields
  obtain ⟨multiMatch, multiMatch'⟩ := entries?_form "multi_match" rfl rfl multiMatch
    (fun _ => rfl) fun _ _ _ texts => (strings?_eq_some.1 texts).symm
  obtain ⟨boosts, boosts'⟩ := entries?_number_form "boosts" rfl rfl boosts numbers
  obtain ⟨should, should'⟩ := entries?_some_form "should" rfl rfl should
  constructor
  · rw [toJson, terms, filter, range, query, fields, multiMatch, boosts, should]
    rfl
  · show ofFields? (fun field => (normalForm v).get? field) = some i
    have given {field : String} (mem : field ∈ fieldNames) := get?_normalForm (v := v) mem
    refine ofFields?_eq_some.2 ⟨?_, ?_, ?_, ?_, ?_, ?_, ?_, ?_⟩ <;> rw [given (by decide)]
    · exact terms'
    · exact filter'
    · exact range'
    · exact query'
    · exact fields'
    · exact multiMatch'
    · exact boosts'
    · exact should'

/-- Every window that a value gives is read, and written as it was given. -/
theorem range_of_ofJson? (read : ofJson? v = some i) {name : String} {window : Json}
    (given : (givenMembers v "range").get? name = some window) :
    (∃ w, i.range.get? name = some w ∧ window? window = some w) ∧
      ((normalForm v).get? "range").bind (Json.get? name) = some window := by
  obtain ⟨-, -, range, -⟩ := ofFields?_eq_some.1 (ofFields?_given? read)
  rw [get?_normalForm (by decide), Option.bind_some]
  cases there : given? v "range" with
  | none => simp [givenMembers, there, FieldMap.get?_empty] at given
  | some x =>
    rw [there] at range
    obtain ⟨members, fields, same⟩ := entries?_eq_some.1 range
    obtain rfl : givenMembers v "range" = members := by simp [givenMembers, there, fields]
    constructor
    · have looked := congrArg (FieldMap.get? · name) same
      simp only [FieldMap.get?_mapValues, given] at looked
      cases w : i.range.get? name with
      | none => simp [w] at looked
      | some w' => exact ⟨w', rfl, by simpa [w] using looked⟩
    · cases x with
      | obj l =>
        have members : FieldMap.ofList l = givenMembers v "range" := Option.some.inj fields
        show ((FieldMap.ofList l).mapValues id).get? name = some window
        rw [FieldMap.mapValues_id, members, given]
      | _ => cases fields

/-- **Decoding an intent is stable.** Whatever an intent is read from, an object or an array with
any of the fields, whose boosts are numbers: the intent is written in the normal form of that value,
which has each field in its place, with what was given for it or its default. The same intent is
read from this form, and so it asks for the same. A window that was given is read, its null bounds
as open ones, and written as it was given. -/
theorem decoding_is_stable (v : Json) (i : Intent) (read : ofJson? v = some i)
    (numbers : ∀ e ∈ (givenMembers v "boosts").toList, e.2.IsNumber) :
    ofJson? i.toJson = some i ∧
      (ofJson? i.toJson).map (fun j => j.toQuery.render) = some i.toQuery.render ∧
      i.toJson = normalForm v ∧
      ∀ name window, (givenMembers v "range").get? name = some window →
        ∃ lower upper, window = .arr [lower, upper] ∧
          i.range.get? name =
            some ⟨if lower = .null then none else some lower,
              if upper = .null then none else some upper⟩ ∧
          (i.toJson.get? "range").bind (Json.get? name) = some window := by
  obtain ⟨form, again⟩ := normalForm_of_ofJson? read numbers
  rw [form, again]
  refine ⟨rfl, rfl, rfl, fun name window given => ?_⟩
  obtain ⟨⟨w, range, bounds⟩, kept⟩ := range_of_ofJson? read given
  obtain ⟨lower, upper, rfl, rfl⟩ := of_window?_eq_some bounds
  exact ⟨lower, upper, rfl, by rw [range, optional_eq, optional_eq], kept⟩

/-- An array without its tail, with members out of order, an open bound and an integer as a
boost. -/
theorem decoding_is_stable_of_positional_form :
    let v : Json := .arr
      [.obj [("status", .nat 1), ("region", .nat 3)], .obj [],
        .obj [("score", .arr [.null, .nat 10])], .null, .arr [.str "name"],
        .obj [("jay", .arr [.str "name", .str "alias"])], .obj [("name", .nat 3)]]
    ∃ i, ofJson? v = some i ∧ i.range.get? "score" = some ⟨none, some (.nat 10)⟩ ∧
      ofJson? i.toJson = some i := by
  intro v
  have reads : (ofJson? v).isSome = true := by decide +kernel
  obtain ⟨i, read⟩ := Option.isSome_iff_exists.1 reads
  obtain ⟨again, -, -, windows⟩ := decoding_is_stable v i read (by decide +kernel)
  obtain ⟨lower, upper, window, range, -⟩ :=
    windows "score" (.arr [.null, .nat 10]) (by decide +kernel)
  obtain ⟨rfl, rfl⟩ : .null = lower ∧ .nat 10 = upper := by simpa using window
  exact ⟨i, read, range, again⟩

end Intent

end CatalogSearch
