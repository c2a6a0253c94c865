import CatalogSearch.Proofs.Batcher.Calls
import CatalogSearch.Proofs.Batcher.Worker
import CatalogSearch.Proofs.Catalog.Route
import CatalogSearch.Service.Settings

/-!
# Settings that are accepted

What `Settings.load` accepts is read off by taking the steps of its reading one after the other
(`Settings.of_load`). Nothing that is left out or zero gets into the settings: there is an address,
there is a route for every kind, and no size or time is zero. But the settings are not compared with
what the machine has: the batcher that is made of them can be started if there is room for a batch,
and its worker lives if its clock can tell when the first tick is due (`accepted_settings_run_iff`).
-/

namespace CatalogSearch.Service

/-- A computation in two parts succeeds if both of them do. -/
theorem exists_of_bind_eq_ok {ε α β : Type} {x : Except ε α} {f : α → Except ε β} {b : β}
    (h : x >>= f = .ok b) : ∃ a, x = .ok a ∧ f a = .ok b := by
  cases x with
  | error e => cases h
  | ok a => exact ⟨a, rfl, h⟩

theorem exists_of_map_eq_ok {ε α β : Type} {x : Except ε α} {f : α → β} {b : β}
    (h : x.map f = .ok b) : ∃ a, x = .ok a ∧ f a = b := by
  cases x with
  | error e => cases h
  | ok a => exact ⟨a, rfl, Except.ok.inj h⟩

/-! ## Setting a size or a time -/

/-- What is set unless it is zero is not zero, if it was not before. -/
theorem pos_of_set {old : Nat} (n : Nat) (h : 0 < old) : 0 < if n = 0 then old else n := by
  split <;> omega

theorem withBatchSize_eq (c : Batcher.Config) (n : Nat) :
    c.withBatchSize n = { c with batchSize := if n = 0 then c.batchSize else n } := by
  unfold Batcher.Config.withBatchSize
  split <;> rfl

theorem withFlushInterval_eq (c : Batcher.Config) (ms : Nat) :
    c.withFlushInterval ms =
      { c with flushInterval := if ms = 0 then c.flushInterval else ms } := by
  unfold Batcher.Config.withFlushInterval
  split <;> rfl

theorem withTimeout_eq (c : EngineConfig) (ms : Nat) :
    c.withTimeout ms = { c with requestTimeout := if ms = 0 then c.requestTimeout else ms } := by
  unfold EngineConfig.withTimeout
  split <;> rfl

namespace Settings

variable {lookup : String → Option String} {s : Settings}

/-- What the settings are made of. -/
theorem of_load (h : load lookup = .ok s) :
    ∃ addresses protocol timeout sniff batchSize flushSeconds validRegions routes,
      readAddresses lookup = .ok addresses ∧
      readRoutes lookup (.ofProtocol protocol) Kind.all = .ok routes ∧
      s = {
        engine :=
          { ((EngineConfig.ofAddresses addresses).withProtocol protocol).withTimeout timeout with
            sniff, proxy := value lookup "SEARCH_ENGINE_PROXY"
            credentials := readCredentials lookup }
        batcher := (Batcher.Config.default.withBatchSize batchSize).withFlushInterval
          (flushSeconds * 1000)
        routes := readSuffix lookup routes
        validRegions } := by
  obtain ⟨addresses, readAddresses, h⟩ := exists_of_bind_eq_ok h
  obtain ⟨protocol, -, h⟩ := exists_of_bind_eq_ok h
  obtain ⟨timeout, -, h⟩ := exists_of_bind_eq_ok h
  obtain ⟨sniff, -, h⟩ := exists_of_bind_eq_ok h
  obtain ⟨batchSize, -, h⟩ := exists_of_bind_eq_ok h
  obtain ⟨flushSeconds, -, h⟩ := exists_of_bind_eq_ok h
  obtain ⟨validRegions, -, h⟩ := exists_of_bind_eq_ok h
  obtain ⟨routes, readRoutes, h⟩ := exists_of_bind_eq_ok h
  cases h
  exact ⟨addresses, protocol, timeout, sniff, batchSize, flushSeconds, validRegions, routes,
    readAddresses, readRoutes, rfl⟩

/-! ## Addresses -/

theorem of_readAddresses {addresses : List String} (h : readAddresses lookup = .ok addresses) :
    addresses ≠ [] ∧ ∀ a ∈ addresses, a ≠ "" ∧ Text.trim a = a := by
  unfold readAddresses at h
  split at h
  · cases h
    refine ⟨List.cons_ne_nil _ _, fun a mem => ?_⟩
    obtain rfl := List.mem_singleton.1 mem
    exact ⟨by decide, by decide +kernel⟩
  · next text _ =>
    split at h
    · cases h
    · next some =>
      cases h
      exact ⟨by simpa using some, fun a => Text.of_mem_items⟩

/-! ## Routes -/

theorem isUsable_of_readRoutes {routes routes' : Routes} {kinds : List Kind}
    (h : readRoutes lookup routes kinds = .ok routes')
    (before : ∀ kind, (routes.primary kind).IsUsable) :
    (∀ kind, (routes'.primary kind).IsUsable) ∧
      routes'.regionalSuffix = routes.regionalSuffix := by
  induction kinds generalizing routes with
  | nil =>
    cases h
    exact ⟨before, rfl⟩
  | cons kind kinds ih =>
    unfold readRoutes at h
    split at h
    · exact ih h before
    · split at h
      · cases h
      · next route parsed =>
        have set (k : Kind) : ((routes.withRoute kind route).primary k).IsUsable := by
          show Route.IsUsable (if k = kind then route else routes.primary k)
          split
          · exact Route.isUsable_of_parse parsed
          · exact before k
        obtain ⟨usable, suffix⟩ := ih h set
        exact ⟨usable, suffix⟩

theorem primary_readSuffix (lookup : String → Option String) (routes : Routes) :
    (readSuffix lookup routes).primary = routes.primary := by
  unfold readSuffix
  split <;> rfl

/-- There are regional indexes unless the variable is there and blank. -/
theorem select_readSuffix {routes : Routes} (suffix : routes.regionalSuffix.isSome = true)
    (kind : Kind) :
    (∃ route, (readSuffix lookup routes).select kind true = .ok route) ↔
      ∀ text, lookup "SEARCH_REGIONAL_SUFFIX" = some text → Text.isAllBlank text = false := by
  have select (rs : Routes) :
      (∃ route, rs.select kind true = .ok route) ↔ rs.regionalSuffix.isSome = true := by
    cases there : rs.regionalSuffix <;> simp [Routes.select, Routes.regional, there]
  rw [select]
  unfold readSuffix
  cases set : lookup "SEARCH_REGIONAL_SUFFIX" with
  | none => simp [suffix]
  | some text =>
    simp [Routes.withRegionalSuffix, Option.filter, Text.trim_eq_empty_iff]

end Settings

/-- **Accepted settings can be run, if the machine has what they ask for.** Whatever the variables
say: if settings are made of them, there is at least one address, and every address is a trimmed
text that is not empty; no size and no time is zero; every kind has a route with one index and a
type; and there are regional routes unless the suffix is given and blank. On any machine on which
there is a batcher with these settings, its worker is started without fail if and only if there is
room for a batch. Whatever happens to the batcher from this start on, the worker does not die, no
call crashes, and none is told that the worker has died, if and only if, besides, the clock can tell
when the first tick is due. -/
theorem accepted_settings_run_iff {lookup : String → Option String} {s : Settings}
    (h : Settings.load lookup = .ok s) :
    s.engine.addresses ≠ [] ∧
      (∀ a ∈ s.engine.addresses, a ≠ "" ∧ Text.trim a = a) ∧
      1 ≤ s.batcher.batchSize ∧ 0 < s.batcher.flushInterval ∧ 0 < s.batcher.flushTimeout ∧
      0 < s.engine.requestTimeout ∧
      (∀ kind, (s.routes.primary kind).index ≠ "" ∧
        '/' ∉ (s.routes.primary kind).index.toList ∧ (s.routes.primary kind).docType ≠ "") ∧
      (∀ kind, (∃ route, s.routes.select kind true = .ok route) ↔
        ∀ text, lookup "SEARCH_REGIONAL_SUFFIX" = some text → Text.isAllBlank text = false) ∧
      ∀ (machine : Batcher.Machine) (opens : s.batcher.capacity ≤ machine.slots),
        let c : Batcher.Deployment := ⟨s.batcher, machine, opens⟩
        (∀ call, (∃ s', Batcher.step c (.initial c) (.begin call .run) =
            some (s', [.begun call .run, .started, .returned call (.ok .ok)])) ↔
          s.batcher.batchSize ≤ machine.room) ∧
        ((∀ call as s' es, Batcher.run c (.initial c) (.begin call .run :: as) = some (s', es) →
            Batcher.Lives s' es) ↔
          s.batcher.flushInterval < machine.reach ∧ s.batcher.batchSize ≤ machine.room) := by
  obtain ⟨addresses, protocol, timeout, sniff, batchSize, flushSeconds, validRegions, routes,
    readAddresses, readRoutes, rfl⟩ := Settings.of_load h
  obtain ⟨some, items⟩ := Settings.of_readAddresses readAddresses
  obtain ⟨usable, suffix⟩ :=
    Settings.isUsable_of_readRoutes readRoutes (Routes.isUsable_defaultRoute protocol)
  have regional : routes.regionalSuffix.isSome = true := by
    rw [suffix]
    rfl
  have patience : 0 < EngineConfig.defaultTimeout := by decide
  simp only [withBatchSize_eq, withFlushInterval_eq, withTimeout_eq, Settings.primary_readSuffix]
  refine ⟨some, items, pos_of_set _ (by decide), pos_of_set _ (by decide), by decide,
    pos_of_set _ patience, fun kind => ?_, Settings.select_readSuffix regional,
    fun machine opens => ⟨fun call => Batcher.started_iff, ?_⟩⟩
  · exact ⟨(usable kind).index, (usable kind).single, (usable kind).docType⟩
  · refine Batcher.lives_iff.trans ⟨fun works => ⟨works.ticks.2, works.fits⟩, fun has => ?_⟩
    exact ⟨⟨pos_of_set _ (by decide), has.1⟩, has.2⟩

/-- Two addresses, a route and a blank suffix, with blanks, and a batch size of zero: the worker
lives, and there are no regional routes. -/
theorem accepted_settings_run_iff_of_blanks :
    let lookup (key : String) : Option String :=
      [("SEARCH_ENGINE_URLS", " a , ,b "), ("SEARCH_INDEX_TRACK", " songs / pop "),
        ("SEARCH_REGIONAL_SUFFIX", " "), ("BULK_BATCH_SIZE", "0")].lookup key
    ∃ s, Settings.load lookup = .ok s ∧ s.engine.addresses = ["a", "b"] ∧
      (s.routes.primary .track).index = "songs" ∧ s.batcher.batchSize = 500 ∧
      (¬∃ route, s.routes.select .track true = .ok route) ∧
      ∃ opens : s.batcher.capacity ≤ Batcher.Machine.common.slots,
      let c : Batcher.Deployment := ⟨s.batcher, .common, opens⟩
      ∀ call as s' es, Batcher.run c (.initial c) (.begin call .run :: as) = some (s', es) →
        Batcher.Lives s' es := by
  intro lookup
  have loads : (Settings.load lookup).map (fun s =>
      decide (s.engine.addresses = ["a", "b"] ∧ (s.routes.primary .track).index = "songs" ∧
        s.batcher.batchSize = 500 ∧ s.batcher.capacity ≤ Batcher.Machine.common.slots ∧
        s.batcher.flushInterval < Batcher.Machine.common.reach ∧
        s.batcher.batchSize ≤ Batcher.Machine.common.room)) = .ok true := by
    decide +kernel
  obtain ⟨s, h, facts⟩ := exists_of_map_eq_ok loads
  obtain ⟨addresses, index, size, opens, has⟩ := of_decide_eq_true facts
  obtain ⟨-, -, -, -, -, -, -, regional, runs⟩ := accepted_settings_run_iff h
  refine ⟨s, h, addresses, index, size, fun found => ?_, opens, (runs .common opens).2.2 has⟩
  have proper := (regional .track).1 found " " rfl
  revert proper
  decide +kernel

/-- A flush interval of as many seconds as there are numbers of 64 bits is accepted. The batcher is
started with it, the worker dies, and the call of close is told so. -/
theorem accepted_settings_of_endless_interval :
    let lookup (key : String) : Option String :=
      [("BULK_FLUSH_INTERVAL_SECS", "18446744073709551615")].lookup key
    ∃ s, Settings.load lookup = .ok s ∧
      ∃ opens : s.batcher.capacity ≤ Batcher.Machine.common.slots,
      let c : Batcher.Deployment := ⟨s.batcher, .common, opens⟩
      ∃ s' es e, Batcher.run c (.initial c) [.begin 0 .run, .start, .begin 1 .close, .join] =
          some (s', es) ∧
        .returned 0 (.ok .ok) ∈ es ∧ s'.consumer = .died ∧
        .returned 1 (.error (.worker e)) ∈ es := by
  intro lookup
  have loads : (Settings.load lookup).map (fun s =>
      if opens : s.batcher.capacity ≤ Batcher.Machine.common.slots then
        let c : Batcher.Deployment := ⟨s.batcher, .common, opens⟩
        (Batcher.run c (.initial c) [.begin 0 .run, .start, .begin 1 .close, .join]).map fun m =>
          decide (.returned 0 (.ok .ok) ∈ m.2 ∧ m.1.consumer = .died ∧
            .returned 1 (.error (.worker "the worker has died")) ∈ m.2)
      else none) = .ok (some true) := by
    decide +kernel
  obtain ⟨s, h, runs⟩ := exists_of_map_eq_ok loads
  obtain ⟨opens, runs⟩ := Option.dite_none_right_eq_some.1 runs
  obtain ⟨⟨s', es⟩, ran, facts⟩ := Option.map_eq_some_iff.1 runs
  obtain ⟨started, died, told⟩ := of_decide_eq_true facts
  exact ⟨s, h, opens, s', es, _, ran, started, died, told⟩

end CatalogSearch.Service
