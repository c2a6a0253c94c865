import CatalogSearch.Proofs.Service.Settings
import CatalogSearch.Service.Variables

/-!
# Settings depend on trimmed texts

Every reader of the settings looks at the texts of its variables through `Settings.value`, which
shows the trimmed text and nothing else (`Settings.value_eq`). So each of them reads the same from
texts that are the same when they are trimmed, and the same fault is reported first
(`settings_depend_on_trimmed_texts`).
-/

namespace CatalogSearch.Service

namespace Settings

variable {lookup other : String → Option String} {key : String}

/-! ## Single variables -/

theorem value_eq (lookup : String → Option String) (key : String) :
    value lookup key = if textOf lookup key = "" then none else some (textOf lookup key) := by
  unfold value textOf
  cases lookup key with
  | none => rfl
  | some text => simp [Option.filter]

theorem value_congr (same : textOf lookup key = textOf other key) :
    value lookup key = value other key := by
  rw [value_eq, value_eq, same]

theorem readOr_congr {α : Type} (same : value lookup key = value other key)
    (read : String → Except Text.Fault α) (default : α) :
    readOr lookup key read default = readOr other key read default := by
  rw [readOr, same, readOr]

/-! ## Variables together -/

/-- The first route at fault is the same, and up to it the routes that are set are. -/
theorem readRoutes_congr {kinds : List Kind}
    (same : ∀ kind ∈ kinds,
      value lookup (routeVariable kind) = value other (routeVariable kind)) (routes : Routes) :
    readRoutes lookup routes kinds = readRoutes other routes kinds := by
  induction kinds generalizing routes with
  | nil => rfl
  | cons kind kinds ih =>
    have rest := ih fun k mem => same k (List.mem_cons_of_mem kind mem)
    rw [readRoutes, readRoutes, same kind List.mem_cons_self]
    simp only [rest]

/-- A password counts beside a user name only. -/
theorem readCredentials_congr
    (username : textOf lookup "SEARCH_ENGINE_USERNAME" = textOf other "SEARCH_ENGINE_USERNAME")
    (password : textOf lookup "SEARCH_ENGINE_USERNAME" ≠ "" →
      textOf lookup "SEARCH_ENGINE_PASSWORD" = textOf other "SEARCH_ENGINE_PASSWORD") :
    readCredentials lookup = readCredentials other := by
  rw [readCredentials, readCredentials, ← value_congr username]
  by_cases blank : textOf lookup "SEARCH_ENGINE_USERNAME" = ""
  · have nobody : value lookup "SEARCH_ENGINE_USERNAME" = none := by rw [value_eq, if_pos blank]
    rw [nobody, Option.map_none, Option.map_none]
  · rw [value_congr (password blank)]

theorem readSuffix_congr
    (same : (lookup "SEARCH_REGIONAL_SUFFIX").map Text.trim =
      (other "SEARCH_REGIONAL_SUFFIX").map Text.trim) (routes : Routes) :
    readSuffix lookup routes = readSuffix other routes := by
  unfold readSuffix
  cases suffix : lookup "SEARCH_REGIONAL_SUFFIX" with
  | none =>
    rw [suffix, Option.map_none, eq_comm, Option.map_eq_none_iff] at same
    rw [same]
  | some text =>
    rw [suffix, Option.map_some, eq_comm, Option.map_eq_some_iff] at same
    obtain ⟨text', suffix', trimmed⟩ := same
    rw [suffix']
    simp only [trimmed]

theorem load_congr (alike : Alike lookup other) : load lookup = load other := by
  have same (key : String)
      (read : key ∈ trimmedVariables ∧ key ≠ "SEARCH_ENGINE_PASSWORD" := by decide) :
      value lookup key = value other key := value_congr (alike.text key read.1 read.2)
  have addresses : readAddresses lookup = readAddresses other := by
    rw [readAddresses, same "SEARCH_ENGINE_URLS", readAddresses]
  have protocol : readProtocol lookup = readProtocol other := by
    rw [readProtocol, same "SEARCH_ENGINE_PROTOCOL", readProtocol]
  have regions : readRegions lookup = readRegions other := by
    rw [readRegions, same "VALID_REGIONS", readRegions]
  have credentials : readCredentials lookup = readCredentials other :=
    readCredentials_congr (alike.text _ (by decide) (by decide)) alike.password
  have routes (rs : Routes) : readRoutes lookup rs Kind.all = readRoutes other rs Kind.all := by
    refine readRoutes_congr (fun kind mem => same _ ⟨?_, ?_⟩) rs
    · exact List.mem_append_right _ (List.mem_map_of_mem mem)
    · cases kind <;> decide
  simp only [load, addresses, protocol, regions, credentials, routes,
    readOr_congr (same "SEARCH_ENGINE_TIMEOUT_MS"), readOr_congr (same "SEARCH_ENGINE_SNIFF"),
    readOr_congr (same "BULK_BATCH_SIZE"), readOr_congr (same "BULK_FLUSH_INTERVAL_SECS"),
    same "SEARCH_ENGINE_PROXY", readSuffix_congr alike.suffix]

/-! ## Setting variables -/

theorem alike_assign (unread : key ∉ trimmedVariables) (suffix : key ≠ "SEARCH_REGIONAL_SUFFIX")
    (text : Option String) : Alike (assign lookup key text) lookup := by
  have unset {k : String} (ne : k ≠ key) : assign lookup key text k = lookup k := if_neg ne
  refine ⟨fun k read _ => ?_, fun _ => ?_, ?_⟩
  · rw [textOf, unset (ne_of_mem_of_not_mem read unread), textOf]
  · rw [textOf, unset (ne_of_mem_of_not_mem (by decide) unread), textOf]
  · rw [unset suffix.symm]

theorem alike_assign_password (nobody : textOf lookup "SEARCH_ENGINE_USERNAME" = "")
    (text : Option String) : Alike (assign lookup "SEARCH_ENGINE_PASSWORD" text) lookup := by
  have unset {k : String} (ne : k ≠ "SEARCH_ENGINE_PASSWORD") :
      assign lookup "SEARCH_ENGINE_PASSWORD" text k = lookup k := if_neg ne
  refine ⟨fun k _ ne => ?_, fun somebody => absurd ?_ somebody, ?_⟩
  · rw [textOf, unset ne, textOf]
  · rw [textOf, unset (by decide), ← textOf, nobody]
  · rw [unset (by decide)]

end Settings

/-- **Settings depend on the trimmed texts of their variables.** Where two environments give each of
the variables the same trimmed text, a missing variable counting as blank, and either both lack the
regional suffix or give it the same trimmed text, the settings are the same, or the error is, and
with it the message. The passwords need not be the same if there is no user name. In particular no
other variable has any influence, whatever it is set to, and neither has the password without a
user name. -/
theorem settings_depend_on_trimmed_texts :
    (∀ lookup other : String → Option String, Settings.Alike lookup other →
      Settings.load lookup = Settings.load other) ∧
    (∀ (lookup : String → Option String) (key : String), key ∉ Settings.trimmedVariables →
      key ≠ "SEARCH_REGIONAL_SUFFIX" →
      ∀ text, Settings.load (Settings.assign lookup key text) = Settings.load lookup) ∧
    ∀ lookup : String → Option String, Settings.textOf lookup "SEARCH_ENGINE_USERNAME" = "" →
      ∀ text, Settings.load (Settings.assign lookup "SEARCH_ENGINE_PASSWORD" text) =
        Settings.load lookup := by
  refine ⟨fun lookup other alike => Settings.load_congr alike, ?_, ?_⟩
  · intro lookup key unread suffix text
    exact Settings.load_congr (Settings.alike_assign unread suffix text)
  · intro lookup nobody text
    exact Settings.load_congr (Settings.alike_assign_password nobody text)

/-- The same route is at fault with blanks around it and without, although the passwords differ. -/
theorem settings_depend_on_trimmed_texts_of_fault :
    let lookup (key : String) : Option String :=
      [("SEARCH_ENGINE_URLS", " a , ,b\n"), ("SEARCH_ENGINE_USERNAME", " "),
        ("SEARCH_ENGINE_PASSWORD", "secret"), ("SEARCH_INDEX_TRACK", "\t/pop ")].lookup key
    let other (key : String) : Option String :=
      [("SEARCH_ENGINE_URLS", "a , ,b"), ("SEARCH_INDEX_TRACK", "/pop")].lookup key
    Settings.load lookup = Settings.load other ∧
      Settings.load (Settings.assign lookup "HOME" (some "/")) = Settings.load lookup ∧
      ((Settings.load lookup).mapError SettingsError.message).map (fun _ => ()) =
        .error "SEARCH_INDEX_TRACK: Invalid input: index route '/pop' has no index name" := by
  intro lookup other
  obtain ⟨alike, others, -⟩ := settings_depend_on_trimmed_texts
  refine ⟨alike lookup other ⟨by decide +kernel, by decide +kernel, rfl⟩,
    others lookup "HOME" (by decide) (by decide) (some "/"), by decide +kernel⟩

/-- A blank suffix is not the same as a missing one. -/
example :
    let lookup (key : String) : Option String := [("SEARCH_REGIONAL_SUFFIX", " ")].lookup key
    (Settings.load lookup).map (·.routes.regionalSuffix) = .ok none ∧
      (Settings.load fun _ => none).map (·.routes.regionalSuffix) = .ok (some "_th") := by
  decide +kernel

end CatalogSearch.Service
