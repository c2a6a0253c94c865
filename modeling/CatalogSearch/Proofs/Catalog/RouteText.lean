import CatalogSearch.Proofs.Catalog.Route

/-!
# Texts of routes

A text is divided at its first slash in one way only (`divided_iff`). To trim the text first changes
nothing but blanks at the outer ends of the two parts (`trimChars_cut_trimChars`), so that a route
is made of the two parts, each of them trimmed (`parse_of_divided`). The index has no slash, so the
written form of a route is divided where it was put together (`route_texts_print_back`).
-/

namespace CatalogSearch.Route

variable {before behind cs : List Char} {s : String}

/-! ## Dividing a text -/

theorem cut_of_free (free : '/' ∉ cs) : cut cs = (cs, []) := by
  have kept : ∀ c ∈ cs, (c != '/') = true := fun c mem => by
    simpa using ne_of_mem_of_not_mem mem free
  rw [cut, List.takeWhile_eq_self_iff.2 kept, List.dropWhile_eq_nil_iff.2 kept, List.drop_nil]

theorem cut_append_cons (free : '/' ∉ before) (behind : List Char) :
    cut (before ++ '/' :: behind) = (before, behind) := by
  have kept : ∀ c ∈ before, (c != '/') = true := fun c mem => by
    simpa using ne_of_mem_of_not_mem mem free
  rw [cut, List.takeWhile_append_of_pos kept, List.dropWhile_append_of_pos kept]
  simp

theorem divided_cut (cs : List Char) : Divided cs (cut cs).1 (cut cs).2 := by
  by_cases slash : '/' ∈ cs
  · obtain ⟨before, behind, rfl, free⟩ := List.eq_append_cons_of_mem slash
    rw [cut_append_cons free]
    exact .atSlash free
  · rw [cut_of_free slash]
    exact .whole slash

theorem divided_iff : Divided cs before behind ↔ cut cs = (before, behind) := by
  constructor
  · intro divided
    cases divided with
    | atSlash free => exact cut_append_cons free behind
    | whole free => exact cut_of_free free
  · intro parts
    have divided := divided_cut cs
    rwa [parts] at divided

/-! ## Reading a route -/

/-- It makes no difference to the trimmed parts of a text whether the text was trimmed before. -/
theorem trimChars_cut_trimChars (cs : List Char) :
    Text.trimChars (cut (Text.trimChars cs)).1 = Text.trimChars (cut cs).1 ∧
      Text.trimChars (cut (Text.trimChars cs)).2 = Text.trimChars (cut cs).2 := by
  obtain ⟨front, back, whole, blank, blank'⟩ := Text.exists_eq_trimChars cs
  generalize Text.trimChars cs = inner at whole ⊢
  subst whole
  have free {around : List Char} (blank : ∀ c ∈ around, Text.isBlank c = true) :
      '/' ∉ around := fun mem => absurd (blank '/' mem) (by decide)
  by_cases slash : '/' ∈ inner
  · obtain ⟨before, behind, rfl, first⟩ := List.eq_append_cons_of_mem slash
    have parts : front ++ (before ++ '/' :: behind) ++ back =
        (front ++ before) ++ '/' :: (behind ++ back) := by simp
    have first' : '/' ∉ front ++ before := by simpa using ⟨free blank, first⟩
    rw [parts, cut_append_cons first, cut_append_cons first']
    exact ⟨(Text.trimChars_append_left blank before).symm,
      (Text.trimChars_append_right blank' behind).symm⟩
  · have slash' : '/' ∉ front ++ inner ++ back := by
      simpa using ⟨free blank, slash, free blank'⟩
    rw [cut_of_free slash, cut_of_free slash', Text.trimChars_append_right blank',
      Text.trimChars_append_left blank]
    exact ⟨rfl, rfl⟩

/-- A route is made of the trimmed parts of its text, and there is one if the first is not blank. -/
theorem parse_of_divided (divided : Divided s.toList before behind) :
    parse s =
      if Text.trim (String.ofList before) = "" then
        .error (.refused (.routeWithoutIndex (Text.trim s)))
      else .ok (make (Text.trim (String.ofList before)) (Text.trim (String.ofList behind))) := by
  obtain ⟨index, docType⟩ := trimChars_cut_trimChars s.toList
  simp only [parse, index, docType, divided_iff.1 divided, Text.trim, String.toList_ofList]

theorem trim_typeOrDefault (docType : String) :
    Text.trim (typeOrDefault (Text.trim docType)) = typeOrDefault (Text.trim docType) := by
  unfold typeOrDefault
  split
  · decide +kernel
  · exact Text.trim_trim docType

/-- The written form of a route is read as the route, if its index has no slash and both of its
parts are trimmed and not empty. -/
theorem parse_written {r : Route} (usable : r.IsUsable) (index : Text.trim r.index = r.index)
    (docType : Text.trim r.docType = r.docType) :
    parse (r.index ++ "/" ++ r.docType) = .ok r := by
  have divided : Divided (r.index ++ "/" ++ r.docType).toList r.index.toList r.docType.toList := by
    simpa using Divided.atSlash usable.single
  rw [parse_of_divided divided, String.ofList_toList, String.ofList_toList, index, docType,
    if_neg usable.index, make, typeOrDefault, if_neg usable.docType]

/-- **Routes are read from texts exactly, and written back.** A text is divided at its first slash,
or not at all if there is none. It is read as a route if and only if there is a character before
the slash that is not blank; otherwise the refusal quotes the text without the blanks around it. The
index is what stands before the slash, trimmed; it is not empty and has no slash itself. The type is
what stands behind the slash, trimmed, or the default type if that is blank; it is not empty. The
index and the type with a slash between them are read as the same route. -/
theorem route_texts_print_back (s : String) :
    ∃ before behind, Divided s.toList before behind ∧
      ((∃ r, parse s = .ok r) ↔ ∃ c ∈ before, Text.isBlank c = false) ∧
      (∀ e, parse s = .error e → e = .refused (.routeWithoutIndex (Text.trim s))) ∧
      ∀ r, parse s = .ok r →
        r.index = Text.trim (String.ofList before) ∧ r.index ≠ "" ∧
        Text.trim r.index = r.index ∧ '/' ∉ r.index.toList ∧
        r.docType = (if behind.all Text.isBlank then "_doc"
          else Text.trim (String.ofList behind)) ∧
        r.docType ≠ "" ∧ Text.trim r.docType = r.docType ∧
        parse (r.index ++ "/" ++ r.docType) = .ok r := by
  obtain ⟨before, behind, divided⟩ : ∃ before behind, Divided s.toList before behind :=
    ⟨_, _, divided_cut s.toList⟩
  have read := parse_of_divided divided
  have nothing (cs : List Char) :
      Text.trim (String.ofList cs) = "" ↔ ∀ c ∈ cs, Text.isBlank c = true := by
    rw [Text.trim_eq_empty_iff, Text.isAllBlank, String.toList_ofList, List.all_eq_true]
  refine ⟨before, behind, divided, ?_, fun e failed => ?_, fun r parsed => ?_⟩
  · by_cases blank : Text.trim (String.ofList before) = ""
    · rw [read, if_pos blank]
      simpa using (nothing before).1 blank
    · rw [read, if_neg blank]
      simpa using mt (nothing before).2 blank
  · rw [read] at failed
    split at failed
    · exact (Except.error.inj failed).symm
    · cases failed
  · have usable := isUsable_of_parse parsed
    rw [read] at parsed
    split at parsed
    · cases parsed
    · have index : r.index = Text.trim (String.ofList before) := by
        rw [← Except.ok.inj parsed, make]
      have docType : r.docType = typeOrDefault (Text.trim (String.ofList behind)) := by
        rw [← Except.ok.inj parsed, make]
      have trimmed : Text.trim r.index = r.index := by
        rw [index, Text.trim_trim]
      have trimmed' : Text.trim r.docType = r.docType := by
        rw [docType, trim_typeOrDefault]
      refine ⟨index, usable.index, trimmed, usable.single, ?_, usable.docType, trimmed',
        parse_written usable trimmed trimmed'⟩
      simp only [docType, typeOrDefault, nothing, defaultType, List.all_eq_true]

/-- Of two slashes the second one belongs to the type. -/
theorem route_texts_print_back_of_two_slashes :
    let s := " songs /\tpop / rock"
    ∃ r, parse s = .ok r ∧ r.index = "songs" ∧ r.docType = "pop / rock" ∧
      parse (r.index ++ "/" ++ r.docType) = .ok r := by
  intro s
  have parsed : parse s = .ok ⟨"songs", "pop / rock"⟩ := by decide +kernel
  obtain ⟨before, behind, -, -, -, written⟩ := route_texts_print_back s
  have again := (written ⟨"songs", "pop / rock"⟩ parsed).2.2.2.2.2.2.2
  exact ⟨⟨"songs", "pop / rock"⟩, parsed, rfl, rfl, again⟩

end CatalogSearch.Route
