import Mathlib.Data.List.Nodup
import CatalogSearch.Proofs.Text.Separated
import CatalogSearch.Reading.Reader

/-!
# Document ids are unambiguous

The parts of a document id can be read off its text: the name of a kind has no hyphens, and where
the region ends is seen although it may be negative (`documentId_inj_of_regional`). So no two
entities share a document, and a look-up of different entities in different regions names every
document once (`Reader.nodup_candidates`).
-/

namespace CatalogSearch

variable {k k' : Kind} {r r' n n' : Int} {region : Option Int} {regions numbers : List Int}

/-! ## The parts of a document id -/

theorem Kind.hyphen_notMem_name (k : Kind) : '-' ∉ k.name.toList := by
  cases k <;> decide

theorem Kind.name_injective (h : k.name.toList = k'.name.toList) : k = k' := by
  cases k <;> cases k' <;> first | rfl | exact absurd h (by decide)

/-- The name of a kind has a character that no number has. -/
theorem Kind.exists_letter (k : Kind) : ∃ c ∈ k.name.toList, c.isDigit = false ∧ c ≠ '-' := by
  have letter : (k.name.toList.any fun c => !c.isDigit && c != '-') = true := by
    cases k <;> decide
  simpa using letter

theorem toList_documentId (regional : k.isRegional = true) (r n : Int) :
    (documentId k r n).toList =
      k.name.toList ++ '-' :: (Text.decimal r ++ '-' :: Text.decimal n) := by
  simp [documentId, regional, Text.decimal, String.toList_append]

theorem documentId_of_not_regional (bare : k.isRegional = false) (r n : Int) :
    documentId k r n = toString n := by
  simp [documentId, bare]

/-- A document id ends in the number of its entity. -/
theorem decimal_suffix_documentId (k : Kind) (r n : Int) :
    Text.decimal n <:+ (documentId k r n).toList := by
  cases regional : k.isRegional with
  | true =>
    rw [toList_documentId regional]
    exact ⟨k.name.toList ++ '-' :: Text.decimal r ++ ['-'], by simp⟩
  | false =>
    rw [documentId_of_not_regional regional]
    exact List.suffix_refl _

/-! ## Reading a document id -/

/-- The document id of a regional kind is that of no other entity or region. -/
theorem documentId_inj_of_regional (regional : k.isRegional = true)
    (h : documentId k r n = documentId k' r' n') : k' = k ∧ r' = r ∧ n' = n := by
  have text := congrArg String.toList h
  rw [toList_documentId regional] at text
  cases regional' : k'.isRegional with
  | true =>
    rw [toList_documentId regional'] at text
    obtain ⟨name, behind⟩ :=
      Text.cut_unique k.hyphen_notMem_name k'.hyphen_notMem_name text
    obtain ⟨region, number⟩ := Text.decimal_cut_unique behind
    exact ⟨(Kind.name_injective name).symm, region.symm, (Text.decimal_injective number).symm⟩
  | false =>
    -- a bare number has no letters
    rw [documentId_of_not_regional regional'] at text
    obtain ⟨c, mem, notDigit, notHyphen⟩ := k.exists_letter
    have mem : c ∈ Text.decimal n' := by
      rw [Text.decimal, ← text]
      exact List.mem_append_left _ mem
    rcases Text.hyphen_or_digit_of_mem_decimal mem with hyphen | digit
    · exact absurd hyphen notHyphen
    · rw [notDigit] at digit
      cases digit

/-- Without regions the document ids are as different as the numbers. -/
theorem documentId_eq_iff_of_not_regional (bare : k.isRegional = false)
    (bare' : k'.isRegional = false) : documentId k r n = documentId k' r' n' ↔ n = n' := by
  rw [documentId_of_not_regional bare, documentId_of_not_regional bare', ← String.toList_inj]
  exact ⟨Text.decimal_injective, fun same => congrArg Text.decimal same⟩

/-- The number can be read off a document id of a known kind. -/
theorem number_of_documentId (h : documentId k r n = documentId k r' n') : n = n' := by
  cases regional : k.isRegional with
  | true => exact (documentId_inj_of_regional regional h).2.2.symm
  | false => exact (documentId_eq_iff_of_not_regional regional regional).1 h

/-- A document id is not blank. -/
theorem isAllBlank_documentId (k : Kind) (r n : Int) :
    Text.isAllBlank (documentId k r n) = false := by
  obtain ⟨c, mem⟩ := List.exists_mem_of_ne_nil _ (Text.decimal_ne_nil n)
  refine List.all_eq_false.2 ⟨c, (decimal_suffix_documentId k r n).subset mem, ?_⟩
  simp [Text.not_isBlank_of_mem_decimal mem]

/-! ## The documents of a look-up -/

/-- A look-up names documents of its entity. -/
theorem Lookup.of_mem_ids {id : String} (mem : id ∈ (resolve k region n regions).ids) :
    ∃ r, id = documentId k r n := by
  cases region with
  | some r => exact ⟨r, List.mem_singleton.1 mem⟩
  | none =>
    unfold resolve at mem
    cases regional : k.isRegional with
    | true =>
      rw [regional] at mem
      obtain ⟨r, -, rfl⟩ := List.mem_map.1 mem
      exact ⟨r, rfl⟩
    | false =>
      rw [regional] at mem
      exact ⟨0, (List.mem_singleton.1 mem).trans (documentId_of_not_regional regional 0 n).symm⟩

/-- A look-up in different regions names every document once. -/
theorem Lookup.nodup_ids (distinct : regions.Nodup) (k : Kind) (region : Option Int) (n : Int) :
    (resolve k region n regions).ids.Nodup := by
  cases region with
  | some r => exact List.nodup_singleton _
  | none =>
    unfold resolve
    cases regional : k.isRegional with
    | true =>
      exact distinct.map_on fun r _ r' _ same => (documentId_inj_of_regional regional same).2.1.symm
    | false => exact List.nodup_singleton _

namespace Reader

/-- The documents in which entities are looked for. -/
def candidates (r : Reader) (kind : Kind) (region : Option Int) (numbers : List Int) :
    List String :=
  numbers.flatMap fun n => (Lookup.resolve kind region n r.validRegions).ids

/-- Different entities in different regions are looked for in different documents. -/
theorem nodup_candidates {r : Reader} (distinct : numbers.Nodup) (regions : r.validRegions.Nodup)
    (kind : Kind) (region : Option Int) : (r.candidates kind region numbers).Nodup := by
  refine List.nodup_flatMap.2 ⟨fun n _ => Lookup.nodup_ids regions kind region n, ?_⟩
  refine distinct.imp fun {m n} ne id mem mem' => ne ?_
  obtain ⟨r₁, first⟩ := Lookup.of_mem_ids mem
  obtain ⟨r₂, second⟩ := Lookup.of_mem_ids mem'
  exact number_of_documentId (first.symm.trans second)

theorem isAllBlank_of_mem_candidates {r : Reader} {kind : Kind} {id : String}
    (mem : id ∈ r.candidates kind region numbers) : Text.isAllBlank id = false := by
  obtain ⟨n, -, mem⟩ := List.mem_flatMap.1 mem
  obtain ⟨region', rfl⟩ := Lookup.of_mem_ids mem
  exact isAllBlank_documentId kind region' n

/-- Documents whose ids are not blank are asked for in one question. -/
theorem byIds_of_named (route : Route) {ids : List String} (some : ids ≠ [])
    (named : ∀ id ∈ ids, Text.isAllBlank id = false) :
    byIds route ids = .ask (.multiGet route ids) fun reply =>
      .done (reply.bind (Hits.ofEntries route.index ids.length)) := by
  have fine : ids.any Text.isAllBlank = false :=
    List.any_eq_false.2 fun id mem => by simp [named id mem]
  simp [byIds, some, fine]

section Held

variable {σ : Type} (engine : σ → Question → Reply × σ) (s : σ)

theorem questions_byIds (route : Route) {ids : List String}
    (named : ∀ id ∈ ids, Text.isAllBlank id = false) :
    (byIds route ids).questions engine s = if ids = [] then [] else [.multiGet route ids] := by
  by_cases none : ids = []
  · rw [none]
    rfl
  · rw [byIds_of_named route none named, if_neg none]
    rfl

theorem questions_findMany (r : Reader) (kind : Kind) (region : Option Int) (numbers : List Int) :
    (r.findMany kind region numbers).questions engine s =
      if r.candidates kind region numbers = [] then []
      else [.multiGet (r.routes.primary kind) (r.candidates kind region numbers)] :=
  questions_byIds engine s _ fun _ => isAllBlank_of_mem_candidates

end Held

end Reader

/-- **Document ids are unambiguous.** The id of a document of a regional kind tells the kind, the
region and the number, also where they are negative; the id of another document tells the number.
So whoever looks different entities up, where different regions are valid, asks for every document
once. -/
theorem documentId_unambiguous {σ : Type} (engine : σ → Question → Reply × σ) (s : σ) :
    (∀ k k' r r' n n', k.isRegional = true → documentId k r n = documentId k' r' n' →
      k' = k ∧ r' = r ∧ n' = n) ∧
    (∀ k k' r r' n n', k.isRegional = false → k'.isRegional = false →
      (documentId k r n = documentId k' r' n' ↔ n = n')) ∧
    ∀ (reader : Reader) kind region numbers, numbers.Nodup → reader.validRegions.Nodup →
      (reader.candidates kind region numbers).Nodup ∧
        (reader.findMany kind region numbers).questions engine s =
          if reader.candidates kind region numbers = [] then []
          else [.multiGet (reader.routes.primary kind)
            (reader.candidates kind region numbers)] := by
  refine ⟨fun _ _ _ _ _ _ regional => documentId_inj_of_regional regional,
    fun _ _ _ _ _ _ bare bare' => documentId_eq_iff_of_not_regional bare bare', ?_⟩
  intro reader kind region numbers distinct regions
  exact ⟨Reader.nodup_candidates distinct regions kind region,
    reader.questions_findMany engine s kind region numbers⟩

/-- Two tracks with opposite numbers are looked for in two regions with opposite numbers. -/
theorem documentId_unambiguous_of_opposites :
    let reader : Reader := ⟨.ofProtocol .typeless, [1, -1]⟩
    let ids := ["track-1-7", "track--1-7", "track-1--7", "track--1--7"]
    (∀ k r n, documentId k r n = "track--1--7" → k = .track ∧ r = -1 ∧ n = -7) ∧
    (∀ n, documentId .video 1 n = "-7" ↔ n = -7) ∧
    ids.Nodup ∧ (reader.findMany .track none [7, -7]).questions (fun u _ => (.ok .null, u)) () =
      [.multiGet ⟨"joox_tracks", "_doc"⟩ ids] := by
  intro reader ids
  obtain ⟨regional, bare, asked⟩ :=
    documentId_unambiguous (fun (u : Unit) _ => (.ok .null, u)) ()
  obtain ⟨distinct, question⟩ := asked reader .track none [7, -7] (by decide) (by decide)
  have named : reader.candidates .track none [7, -7] = ids := by decide +kernel
  rw [named] at distinct question
  refine ⟨fun k r n same => ?_, fun n => ?_, distinct, question⟩
  · exact regional .track k (-1) r (-7) n rfl
      ((by decide +kernel : documentId .track (-1) (-7) = "track--1--7").trans same.symm)
  · exact bare .video .video 1 0 n (-7) rfl rfl

end CatalogSearch
