import CatalogSearch.Proofs.Catalog.Identity
import CatalogSearch.Reading.Operation

/-!
# Reads are checked first and asked once

Every request is either refused or a question (`Reader.refuses_or_asks`). A request that is refused
is over without a word to the engine (`Reader.perform_of_refuses`). The others ask their question
once, and when it is answered they are over, apart from a scroll that has read a page without
documents and gives its cursor back (`Reader.perform_of_asks`).
-/

namespace CatalogSearch

namespace Reader

variable {r : Reader} {op : Operation} {cause : Refusal} {q : Question}

/-- How an operation goes on after the answer to its question. It is over, with the engine's error
if the answer is one; or it has read a page without documents, gives the cursor back, and is over
whatever the engine says. -/
inductive Concludes : Operation → Reply → Dialogue (Except SearchError Found) → Prop
  | returns {op : Operation} {reply : Reply} (result : Except SearchError Found)
      (passedOn : ∀ e, reply = .error e → result = .error e) : Concludes op reply (.done result)
  | clears {route : Option Route} {query : Query} {size : Option Int} {sort cursor : Option String}
      {answer : Json} {total : Nat} {id : String} (empty : Hits.ofAnswer answer = .ok ⟨total, []⟩)
      (named : ((answer.get? "_scroll_id").bind Json.text?).or cursor = some id) :
    Concludes (.scroll route query size sort cursor) (.ok answer)
      (.ask (.clearScroll [id]) fun _ => .done (.ok (.page ⟨total, [], none⟩)))

/-- The question of an operation is asked once. -/
inductive AsksOnce (op : Operation) (q : Question) : Dialogue (Except SearchError Found) → Prop
  | ask {next : Reply → Dialogue (Except SearchError Found)}
      (concludes : ∀ reply, Concludes op reply (next reply)) : AsksOnce op q (.ask q next)

/-- An operation that makes something of one answer is over. -/
theorem AsksOnce.of_done {finish : Reply → Except SearchError Found}
    (passedOn : ∀ e, finish (.error e) = .error e) :
    AsksOnce op q (.ask q fun reply => .done (finish reply)) :=
  .ask fun _ => .returns _ fun e failed => failed ▸ passedOn e

/-! ## Every request is refused or a question -/

theorem refuses_or_asks (r : Reader) (op : Operation) :
    (∃ cause, r.Refuses op cause) ∨ ∃ q, r.Asks op q := by
  cases op with
  | search s route => exact .inr ⟨_, .search⟩
  | searchKind kind s regional =>
    cases regional with
    | false => exact .inr ⟨_, .primary⟩
    | true =>
      cases there : r.routes.regionalSuffix with
      | none => exact .inl ⟨_, .noRegionalIndex there⟩
      | some suffix => exact .inr ⟨_, .regional there⟩
  | byId route id =>
    cases blank : Text.isAllBlank id with
    | true => exact .inl ⟨_, .blankId blank⟩
    | false => exact .inr ⟨_, .byId blank⟩
  | byIds route ids =>
    by_cases none : ids = []
    · subst none
      exact .inl ⟨_, .noIds⟩
    · by_cases blank : ∃ id ∈ ids, Text.isAllBlank id = true
      · obtain ⟨id, mem, blank⟩ := blank
        exact .inl ⟨_, .blankAmong mem blank⟩
      · refine .inr ⟨_, .byIds none fun id mem => ?_⟩
        exact eq_false_of_ne_true fun all => blank ⟨id, mem, all⟩
  | find kind region number =>
    cases region with
    | some region => exact .inr ⟨_, .findIn⟩
    | none =>
      cases regional : kind.isRegional with
      | false => exact .inr ⟨_, .findBare regional⟩
      | true =>
        by_cases none : r.validRegions = []
        · exact .inl ⟨_, .noRegions regional none⟩
        · exact .inr ⟨_, .findAnywhere regional none⟩
  | findMany kind region numbers =>
    by_cases nobody : numbers = []
    · subst nobody
      exact .inl ⟨_, .noNumbers⟩
    · cases region with
      | some region => exact .inr ⟨_, .findManyIn nobody⟩
      | none =>
        cases regional : kind.isRegional with
        | false => exact .inr ⟨_, .findManyBare nobody regional⟩
        | true =>
          by_cases none : r.validRegions = []
          · exact .inl ⟨_, .nowhere regional none⟩
          · exact .inr ⟨_, .findManyAnywhere nobody regional none⟩
  | scroll route query size sort cursor =>
    cases cursor with
    | none => exact .inr ⟨_, .openScroll (.inl rfl)⟩
    | some id =>
      by_cases proper : id = ""
      · exact .inr ⟨_, .openScroll (.inr (congrArg some proper))⟩
      · exact .inr ⟨_, .nextScroll proper⟩

/-! ## Refusals -/

/-- A request that is refused is over before it begins. -/
theorem perform_of_refuses (h : r.Refuses op cause) :
    r.perform op = .done (.error (.refused cause)) := by
  cases h with
  | blankId blank => simp [perform, byId, blank, refuse, Dialogue.map, Except.map]
  | noIds => rfl
  | @blankAmong route ids id mem blank =>
    have some : ids ≠ [] := List.ne_nil_of_mem mem
    have found : ids.any Text.isAllBlank = true := List.any_eq_true.2 ⟨id, mem, blank⟩
    simp [perform, byIds, some, found, refuse, Dialogue.map, Except.map]
  | noRegions regional none =>
    simp [perform, find, Lookup.resolve, regional, none, regionalIds, refuse, Dialogue.map,
      Except.map]
  | noNumbers => rfl
  | nowhere regional none =>
    simp [perform, findMany, byIds, Lookup.resolve, Lookup.ids, regional, none, regionalIds, refuse,
      Dialogue.map, Except.map]
  | noRegionalIndex none =>
    simp [perform, searchKind, Routes.select, Routes.regional, none, Dialogue.map, Except.map]

/-! ## Questions -/

theorem asksOnce_byId (op : Operation) (route : Route) {id : String}
    (named : Text.isAllBlank id = false) (found : Json → Found) :
    AsksOnce op (.get route id) ((byId route id).map (·.map found)) := by
  rw [byId, if_neg (by simp [named])]
  exact .of_done fun _ => rfl

theorem asksOnce_byIds (op : Operation) (route : Route) {ids : List String} (some : ids ≠ [])
    (named : ∀ id ∈ ids, Text.isAllBlank id = false) :
    AsksOnce op (.multiGet route ids) ((byIds route ids).map (·.map .hits)) := by
  rw [byIds_of_named route some named]
  exact .of_done fun _ => rfl

/-- A look-up of an entity in one document asks for it. -/
theorem asksOnce_find_single (op : Operation) {kind : Kind} {region : Option Int} {number : Int}
    {id : String} (resolved : Lookup.resolve kind region number r.validRegions = .single id)
    (named : Text.isAllBlank id = false) :
    AsksOnce op (.get (r.routes.primary kind) id)
      ((r.find kind region number).map (·.map .hits)) := by
  rw [find, resolved]
  dsimp only
  rw [byId, if_neg (by simp [named])]
  exact .of_done fun _ => rfl

/-- A look-up of an entity in several documents asks for all of them. -/
theorem asksOnce_find_multi (op : Operation) {kind : Kind} {region : Option Int} {number : Int}
    {ids : List String} (resolved : Lookup.resolve kind region number r.validRegions = .multi ids)
    (some : ids ≠ []) (named : ∀ id ∈ ids, Text.isAllBlank id = false) :
    AsksOnce op (.multiGet (r.routes.primary kind) ids)
      ((r.find kind region number).map (·.map .hits)) := by
  rw [find, resolved]
  dsimp only
  rw [if_neg (by simpa using some)]
  exact asksOnce_byIds op _ some named

/-- A look-up of several entities asks for all their documents. -/
theorem asksOnce_findMany (op : Operation) {kind : Kind} {region : Option Int} {numbers : List Int}
    {ids : Int → List String}
    (resolved : ∀ n, (Lookup.resolve kind region n r.validRegions).ids = ids n)
    (some : numbers ≠ []) (filled : ∀ n, ids n ≠ []) :
    AsksOnce op (.multiGet (r.routes.primary kind) (numbers.flatMap ids))
      ((r.findMany kind region numbers).map (·.map .hits)) := by
  have candidates : r.candidates kind region numbers = numbers.flatMap ids :=
    List.flatMap_congr fun n _ => resolved n
  have some : r.candidates kind region numbers ≠ [] := by
    obtain ⟨n, mem⟩ := List.exists_mem_of_ne_nil _ some
    rw [candidates]
    exact fun none => filled n (List.flatMap_eq_nil_iff.1 none n mem)
  rw [← candidates]
  exact asksOnce_byIds op _ some fun _ => isAllBlank_of_mem_candidates

theorem asksOnce_scroll {route : Option Route} {query : Query} {size : Option Int}
    {sort cursor : Option String} (page : pageQuestion route query size sort cursor = q) :
    AsksOnce (.scroll route query size sort cursor) q
      ((scroll route query size sort cursor).map (·.map .page)) := by
  subst page
  refine .ask fun reply => ?_
  cases reply with
  | error e => exact .returns _ fun e' same => Except.error.inj same ▸ rfl
  | ok answer =>
    dsimp only
    cases read : Hits.ofAnswer answer with
    | error e => exact .returns _ nofun
    | ok hits =>
      obtain ⟨total, documents⟩ := hits
      cases documents with
      | cons d ds => exact .returns _ nofun
      | nil =>
        cases named : ((answer.get? "_scroll_id").bind Json.text?).or cursor with
        | none => exact .returns _ nofun
        | some id => exact .clears read named

/-- Any other request asks its question once. -/
theorem perform_of_asks (h : r.Asks op q) : AsksOnce op q (r.perform op) := by
  cases h with
  | search | primary => exact .of_done fun _ => rfl
  | regional there =>
    rw [perform, searchKind, Routes.select, Routes.regional, there]
    exact .of_done fun _ => rfl
  | byId named => exact asksOnce_byId _ _ named _
  | byIds some named => exact asksOnce_byIds _ _ some named
  | findIn => exact asksOnce_find_single _ rfl (isAllBlank_documentId _ _ _)
  | @findBare kind number bare =>
    have named : Text.isAllBlank (toString number) = false :=
      documentId_of_not_regional bare 0 number ▸ isAllBlank_documentId kind 0 number
    exact asksOnce_find_single _ (by simp [Lookup.resolve, bare]) named
  | @findAnywhere kind number regional somewhere =>
    refine asksOnce_find_multi _ (by simp [Lookup.resolve, regional, regionalIds])
      (by simpa using somewhere) (List.forall_mem_map.2 fun region _ => ?_)
    exact isAllBlank_documentId kind region number
  | findManyIn some =>
    rw [List.map_eq_flatMap]
    exact asksOnce_findMany _ (fun _ => rfl) some fun _ => List.cons_ne_nil _ _
  | findManyBare some bare =>
    rw [List.map_eq_flatMap]
    exact asksOnce_findMany _ (by simp [Lookup.resolve, bare, Lookup.ids]) some
      fun _ => List.cons_ne_nil _ _
  | findManyAnywhere some regional somewhere =>
    exact asksOnce_findMany _ (by simp [Lookup.resolve, regional, Lookup.ids, regionalIds]) some
      (by simpa using somewhere)
  | openScroll fresh =>
    refine asksOnce_scroll ?_
    rcases fresh with rfl | rfl
    · rfl
    · rfl
  | nextScroll proper =>
    refine asksOnce_scroll ?_
    rw [pageQuestion, Option.filter_some, if_pos (decide_eq_true proper)]

/-! ## With an engine -/

section Held

variable {σ : Type} {engine : σ → Question → Reply × σ} {s : σ}
  {d : Dialogue (Except SearchError Found)}

/-- The question is asked, and after it at most one more: to give a cursor back, when a scroll has
read a page without documents. -/
theorem AsksOnce.questions (h : AsksOnce op q d) :
    d.questions engine s = [q] ∨
      ∃ route query size sort cursor answer total id, op = .scroll route query size sort cursor ∧
        (engine s q).1 = .ok answer ∧ Hits.ofAnswer answer = .ok ⟨total, []⟩ ∧
        d.result engine s = .ok (.page ⟨total, [], none⟩) ∧
        d.questions engine s = [q, .clearScroll [id]] := by
  obtain @⟨next, concludes⟩ := h
  rw [Dialogue.questions_ask, Dialogue.result_ask]
  generalize answered : (engine s q).1 = reply
  have ends := concludes reply
  generalize next reply = rest at ends
  cases ends with
  | returns => exact .inl rfl
  | clears empty => exact .inr ⟨_, _, _, _, _, _, _, _, rfl, rfl, empty, rfl, rfl⟩

/-- An error of the engine is passed on, and nothing more is asked. -/
theorem AsksOnce.passesOn (h : AsksOnce op q d) {e : SearchError}
    (failed : (engine s q).1 = .error e) :
    d.result engine s = .error e ∧ d.questions engine s = [q] := by
  obtain @⟨next, concludes⟩ := h
  rw [Dialogue.questions_ask, Dialogue.result_ask, failed]
  have ends := concludes (.error e)
  generalize next (.error e) = rest at ends
  cases ends with
  | returns result passedOn => exact ⟨passedOn e rfl, rfl⟩

/-- The result depends on the answer to the question, and on no other one. -/
theorem AsksOnce.result_congr (h : AsksOnce op q d) {τ : Type} {engine' : τ → Question → Reply × τ}
    {t : τ} (same : (engine' t q).1 = (engine s q).1) :
    d.result engine' t = d.result engine s := by
  obtain @⟨next, concludes⟩ := h
  rw [Dialogue.result_ask, Dialogue.result_ask, same]
  generalize (engine s q).1 = reply
  have ends := concludes reply
  generalize next reply = rest at ends
  cases ends with
  | returns => rfl
  | clears => rfl

end Held

/-- **Reads are checked before the engine is asked, and never asked twice.** Every request is either
refused, as an invalid one and without a word to the engine, or it is a question. The engine is then
asked this question once, and nothing more than to forget a cursor, after a scroll has read a page
without documents. An error of the engine is passed on and nothing is asked after it. The result
depends on the answer to the question only, and so not on what the engine says to being asked to
forget a cursor. -/
theorem checked_and_asked_once {σ : Type} (engine : σ → Question → Reply × σ) (s : σ) (r : Reader)
    (op : Operation) :
    ((∃ cause, r.Refuses op cause) ∨ ∃ q, r.Asks op q) ∧
    (∀ cause, r.Refuses op cause → ∃ e, e.kind = .invalidInput ∧
      (r.perform op).result engine s = .error e ∧ (r.perform op).questions engine s = [] ∧
      (r.perform op).after engine s = s) ∧
    ∀ q, r.Asks op q →
      ((r.perform op).questions engine s = [q] ∨
        ∃ route query size sort cursor answer total id, op = .scroll route query size sort cursor ∧
          (engine s q).1 = .ok answer ∧ Hits.ofAnswer answer = .ok ⟨total, []⟩ ∧
          (r.perform op).result engine s = .ok (.page ⟨total, [], none⟩) ∧
          (r.perform op).questions engine s = [q, .clearScroll [id]]) ∧
      (∀ e, (engine s q).1 = .error e →
        (r.perform op).result engine s = .error e ∧ (r.perform op).questions engine s = [q]) ∧
      ∀ (τ : Type) (engine' : τ → Question → Reply × τ) (t : τ),
        (engine' t q).1 = (engine s q).1 →
          (r.perform op).result engine' t = (r.perform op).result engine s := by
  refine ⟨r.refuses_or_asks op, fun cause refused => ?_, fun q asks => ?_⟩
  · rw [perform_of_refuses refused]
    exact ⟨.refused cause, rfl, rfl, rfl, rfl⟩
  · have once := perform_of_asks asks
    exact ⟨once.questions, fun _ => once.passesOn, fun _ _ _ => once.result_congr⟩

/-- Without regional indexes a regional search is refused. Whether the engine fails to forget the
cursor of an empty page or not, the page is the same. -/
theorem checked_and_asked_once_of_failed_clear :
    let reader : Reader := ⟨(Routes.ofProtocol .typeless).withRegionalSuffix none, [1]⟩
    let scroll : Operation := .scroll none (.wildcard "title" "lo*") (some 2) none none
    let engine (cleared : Reply) : Unit → Question → Reply × Unit
      | (), .clearScroll _ => (cleared, ())
      | (), _ => (.ok (Page.answer ⟨0, [], some "x"⟩), ())
    let reset : Reply := .error (.reported .connection "reset")
    (∃ e, e.kind = .invalidInput ∧
      (reader.perform (.searchKind .album (.ofQuery (.wildcard "title" "lo*")) true)).result
        (engine reset) () = .error e) ∧
    (reader.perform scroll).questions (engine reset) () =
      [openingQuestion none (.wildcard "title" "lo*") (some 2) none, .clearScroll ["x"]] ∧
    (reader.perform scroll).result (engine reset) () =
      (reader.perform scroll).result (engine (.ok .null)) () := by
  intro reader scroll engine reset
  obtain ⟨-, refused, -⟩ := checked_and_asked_once (engine reset) () reader
    (.searchKind .album (.ofQuery (.wildcard "title" "lo*")) true)
  obtain ⟨-, -, asks⟩ := checked_and_asked_once (engine (.ok .null)) () reader scroll
  obtain ⟨-, -, same⟩ := asks _ (.openScroll (.inl rfl))
  obtain ⟨e, invalid, result, -⟩ := refused _ (.noRegionalIndex rfl)
  exact ⟨⟨e, invalid, result⟩, rfl, same _ (engine reset) () rfl⟩

end Reader

end CatalogSearch
