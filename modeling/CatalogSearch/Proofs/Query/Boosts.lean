import CatalogSearch.Proofs.Query.Members

/-!
# Boosts of fields

The fields of a query in several fields are rendered in the order in which they are listed, each
with the boost that was given to it last, and behind them those that are only boosted
(`Query.weightedFields_eq`). An intent hands each of its texts the boosts of the listed fields only,
so that nothing stands behind them, and a boost of another field changes nothing
(`Intent.multiMatchClause_congr`).
-/

namespace CatalogSearch

namespace Query

variable {boosts : FieldMap Double} {fields : List String}

/-! ## Adding boosts -/

/-- Boosts that are added to a query in several fields are added to those it has. -/
theorem foldl_withFieldBoosts (fields : List String) (value : Json) (boosts : FieldMap Double)
    (fuzziness : Option Fuzziness) (additions : List (List (String × Double))) :
    additions.foldl (fun q l => withFieldBoosts l q) (.multiMatch fields value boosts fuzziness) =
      .multiMatch fields value (boosts.extend additions.flatten) fuzziness := by
  unfold FieldMap.extend
  rw [List.foldl_flatten]
  induction additions generalizing boosts with
  | nil => rfl
  | cons l additions ih => exact ih _

theorem get?_extend_flatten (boosts : FieldMap Double) (additions : List (List (String × Double)))
    (field : String) :
    (boosts.extend additions.flatten).get? field = latestBoost? boosts additions field := by
  rw [FieldMap.get?_extend, FieldMap.get?_ofList, latestBoost?]

/-! ## Rendering boosts -/

theorem weighted_eq (boosts : FieldMap Double) (field : String) :
    weighted boosts field = nameWith field (boosts.get? field) := by
  unfold weighted
  cases boosts.get? field <;> rfl

/-- The boosts of fields that are not listed. -/
def undeclared (fields : List String) (boosts : FieldMap Double) : FieldMap Double :=
  boosts.keep fun f => !fields.contains f

theorem mem_undeclared {e : String × Double} :
    e ∈ (undeclared fields boosts).toList ↔ e.1 ∉ fields ∧ boosts.get? e.1 = some e.2 := by
  rw [FieldMap.mem_toList, undeclared, FieldMap.get?_keep]
  by_cases listed : e.1 ∈ fields <;> simp [listed]

theorem weightedFields_eq (fields : List String) (boosts : FieldMap Double) :
    weightedFields fields boosts =
      fields.map (fun f => nameWith f (boosts.get? f)) ++
        (undeclared fields boosts).toList.map fun e => nameWith e.1 (some e.2) := by
  have names : weighted boosts = fun f => nameWith f (boosts.get? f) := funext (weighted_eq boosts)
  rw [weightedFields, names]
  rfl

/-- Of what a query in several fields holds, its boosts change the fields only. -/
theorem part?_multiMatch {name : String} (other : name ≠ "fields") (fields : List String)
    (value : Json) (boosts boosts' : FieldMap Double) (fuzziness : Option Fuzziness) :
    part? "multi_match" name (Query.multiMatch fields value boosts fuzziness).render =
      part? "multi_match" name (Query.multiMatch fields value boosts' fuzziness).render := by
  simp only [render, part?_tagged, get?_present_cons, get?_present_nil, if_neg other]

theorem part?_multiMatch_fields (fields : List String) (value : Json) (boosts : FieldMap Double)
    (fuzziness : Option Fuzziness) :
    part? "multi_match" "fields" (Query.multiMatch fields value boosts fuzziness).render =
      some (.strings (weightedFields fields boosts)) := by
  simp [render, part?_tagged]

end Query

namespace Intent

open Query

variable {boosts boosts' : FieldMap Double} {e : String × List String}

/-! ## Texts of an intent -/

/-- The query of a text has the boosts of the fields that it lists. -/
theorem multiMatchQuery_eq (boosts : FieldMap Double) (value : String) (fields : List String) :
    multiMatchQuery boosts value fields =
      .multiMatch fields (.str value) (boosts.keep fun f => fields.contains f) none := by
  have own : FieldMap.empty.extend (boosts.keep fun f => fields.contains f).toList =
      boosts.keep fun f => fields.contains f := FieldMap.ofList_toList _
  exact congrArg (Query.multiMatch fields (.str value) · none) own

theorem weightedFields_keep (fields : List String) (boosts : FieldMap Double) :
    weightedFields fields (boosts.keep fun f => fields.contains f) =
      fields.map fun f => nameWith f (boosts.get? f) := by
  have none_left : (undeclared fields (boosts.keep fun f => fields.contains f)).toList = [] := by
    refine List.eq_nil_iff_forall_not_mem.2 fun e mem => ?_
    obtain ⟨other, own⟩ := mem_undeclared.1 mem
    simp [FieldMap.get?_keep, other] at own
  rw [weightedFields_eq, none_left, List.map_nil, List.append_nil]
  refine List.map_congr_left fun f mem => ?_
  rw [FieldMap.get?_keep, if_pos (List.contains_iff_mem.2 mem)]

theorem ofDouble_tieBreaker : Json.ofDouble tieBreaker = .float tieBreaker := by
  have finite : tieBreaker.isFinite = true := by decide
  rw [Json.ofDouble, if_pos finite]

theorem render_multiMatchQuery (boosts : FieldMap Double) (e : String × List String) :
    (multiMatchQuery boosts e.1 e.2).render = multiMatchClause boosts e := by
  rw [multiMatchQuery_eq, render, weightedFields_keep]
  simp (disch := decide) [present_eq, insertEntry_of_lt, insertEntry_of_gt, tagged_eq,
    multiMatchClause, minimumShare, ofDouble_tieBreaker]

/-- The clause of a text depends on the boosts of the fields that it lists, and on no others. -/
theorem multiMatchClause_congr (same : ∀ f ∈ e.2, boosts.get? f = boosts'.get? f) :
    multiMatchClause boosts e = multiMatchClause boosts' e := by
  have names : e.2.map (fun f => nameWith f (boosts.get? f)) =
      e.2.map fun f => nameWith f (boosts'.get? f) :=
    List.map_congr_left fun f mem => by rw [same f mem]
  rw [multiMatchClause, names, multiMatchClause]

theorem multiMatchClauses_eq (i : Intent) :
    i.multiMatchClauses = i.multiMatch.toList.map (multiMatchClause i.boosts) := by
  have kinds : (fun c : Json => (c.get? "multi_match").isSome) ∘ render =
      fun q => decide (q.kind = "multi_match") := funext fun q => isSome_get?_render q _
  have texts : i.mustClauses.filter (fun q => decide (q.kind = "multi_match")) =
      i.multiMatch.toList.map fun e => multiMatchQuery i.boosts e.1 e.2 := by
    simp [mustClauses, List.filter_map, Function.comp_def, kind, exactly, containing, between,
      multiMatchQuery_eq]
  have rendered :
      render ∘ (fun e => multiMatchQuery i.boosts e.1 e.2) = multiMatchClause i.boosts :=
    funext (render_multiMatchQuery i.boosts)
  rw [multiMatchClauses, toQuery, all, clausesIn_must, List.filter_map, kinds, texts, List.map_map,
    rendered]

/-- **Boosts land on the fields that they are given for.** A query in several fields to which boosts
have been added any number of times lists its fields in order, each with its latest boost if it has
one, and behind them, in name order, the other fields that have a boost; what else it holds is as
without boosts. Of the texts of an intent each has one clause, in order, with the fields that it
lists, each with its boost if the intent has one; and to give a boost for a field that a text does
not list, to change it or to take it away leaves the clause of the text as it is. -/
theorem field_boosts_land :
    (∀ fields value boosts fuzziness additions,
      let plain := Query.multiMatch fields value boosts fuzziness
      let query := additions.foldl (fun q l => withFieldBoosts l q) plain
      (∃ others : List (String × Double), SortedByName others ∧
        (∀ e, e ∈ others ↔ e.1 ∉ fields ∧ latestBoost? boosts additions e.1 = some e.2) ∧
        part? "multi_match" "fields" query.render =
          some (.strings (fields.map (fun f => nameWith f (latestBoost? boosts additions f)) ++
            others.map fun e => nameWith e.1 (some e.2)))) ∧
      ∀ name, name ≠ "fields" →
        part? "multi_match" name query.render = part? "multi_match" name plain.render) ∧
    ∀ i : Intent, i.multiMatchClauses.length = i.multiMatch.toList.length ∧
      ∀ (n : Nat) (e : String × List String), i.multiMatch.toList[n]? = some e →
        ∃ clause, i.multiMatchClauses[n]? = some clause ∧
          part? "multi_match" "query" clause = some (.str e.1) ∧
          part? "multi_match" "fields" clause =
            some (.strings (e.2.map fun f => nameWith f (i.boosts.get? f))) ∧
          ∀ f, f ∉ e.2 → (∀ b, (i.withBoost f b).multiMatchClauses[n]? = some clause) ∧
            { i with boosts := i.boosts.erase f }.multiMatchClauses[n]? = some clause := by
  refine ⟨fun fields value boosts fuzziness additions => ?_, fun i => ⟨?_, fun n e own => ?_⟩⟩
  · intro plain query
    have added : query = .multiMatch fields value (boosts.extend additions.flatten) fuzziness :=
      foldl_withFieldBoosts fields value boosts fuzziness additions
    rw [added]
    refine ⟨⟨(undeclared fields (boosts.extend additions.flatten)).toList, FieldMap.sorted _,
      fun e => ?_, ?_⟩, fun name other => part?_multiMatch other fields value _ _ fuzziness⟩
    · rw [mem_undeclared, get?_extend_flatten]
    · simp only [part?_multiMatch_fields, weightedFields_eq, get?_extend_flatten]
  · rw [multiMatchClauses_eq, List.length_map]
  · have clause (boosts : FieldMap Double) :
        { i with boosts }.multiMatchClauses[n]? = some (multiMatchClause boosts e) := by
      rw [multiMatchClauses_eq, List.getElem?_map, own]
      rfl
    refine ⟨_, clause i.boosts, rfl, rfl, fun f other => ⟨fun b => ?_, ?_⟩⟩
    · rw [withBoost, clause, multiMatchClause_congr fun f' listed => ?_]
      rw [FieldMap.get?_insert, if_neg (ne_of_mem_of_not_mem listed other)]
    · rw [clause, multiMatchClause_congr fun f' listed => ?_]
      rw [FieldMap.erase, FieldMap.get?_keep, if_pos]
      simpa using ne_of_mem_of_not_mem listed other

/-- A boost of a field that is not listed is part of the fields of a query, and of nothing else; in
an intent it changes nothing. -/
theorem field_boosts_land_of_unlisted_field :
    let three := Double.ofInt 3
    let query := Query.across (.str "jay") ["name", "alias"]
    let boosted := [[("lyric", three)]].foldl (fun q l => withFieldBoosts l q) query
    let i := (Intent.empty.withMultiMatch "jay" ["name", "alias"]).withBoost "name" three
    part? "multi_match" "query" boosted.render = part? "multi_match" "query" query.render ∧
      ∃ clause, i.multiMatchClauses[0]? = some clause ∧
        part? "multi_match" "fields" clause = some (.strings ["name^3", "alias"]) ∧
        (i.withBoost "lyric" three).multiMatchClauses[0]? = some clause := by
  intro three query boosted i
  obtain ⟨queries, intents⟩ := field_boosts_land
  have rest := (queries ["name", "alias"] (.str "jay") .empty none [[("lyric", three)]]).2
  obtain ⟨clause, here, -, fields, others⟩ := (intents i).2 0 ("jay", ["name", "alias"]) rfl
  have names :
      ["name", "alias"].map (fun f => nameWith f (i.boosts.get? f)) = ["name^3", "alias"] := by
    decide
  refine ⟨rest "query" (by decide), clause, here, ?_, (others "lyric" (by decide)).1 three⟩
  rw [fields, names]

end Intent

end CatalogSearch
