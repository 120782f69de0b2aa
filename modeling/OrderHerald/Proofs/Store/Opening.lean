import OrderHerald.CommandLine

/-!
# Which stores can be opened

An endpoint is judged twice.  The check of the settings asks whether it is a url; opening the store
also continues the path of that url, by the bucket and the key.

**Urls without a path to continue.**  Where a scheme has no rules of its own and no slash follows its
colon, what follows is a text without structure.  `localhost:9000` is such a url, of the scheme
`localhost`: the check lets it pass, and the store cannot be opened.

* `Url.IsBare` — the text names such a url.
* `Store.IsBare` — the store's endpoint is such a text.

## Main statements

* `Url.path_eq_bare_iff` — which urls have a path without structure.
* `Store.opens_iff` — which of the stores that pass the check can be opened, and with which of the
  settings that pass it the program stops at its store.
-/

namespace OrderHerald

/-- **A chain gives a result exactly if each of its links does.** -/
theorem bind_eq_ok_iff {ε α β : Type} {first : Except ε α} {next : α → Except ε β} {result : β} :
    first >>= next = .ok result ↔ ∃ value, first = .ok value ∧ next value = .ok result := by
  cases first with
  | error reason => exact ⟨nofun, fun ⟨_, h, _⟩ => nomatch h⟩
  | ok value => exact ⟨fun h => ⟨value, rfl, h⟩, fun ⟨_, h, hnext⟩ => Except.ok.inj h ▸ hnext⟩

namespace Url

/-! ### The scheme -/

/-- The name of a scheme as it is written: a letter, and then letters, digits, signs and points. -/
def IsSchemeName (name : List Char) : Prop :=
  (∃ first more, name = first :: more ∧ first.isAlpha = true) ∧ ∀ c ∈ name, isSchemeChar c = true

/-- The scheme with a name, as it is written. -/
def schemeOf (name : List Char) : Scheme := Scheme.ofName (String.ofList (name.map Char.toLower))

/-- **Where the scheme of a text ends.** -/
theorem takeScheme?_eq_some_iff {text : List Char} {scheme : Scheme} {rest : List Char} :
    takeScheme? text = some (scheme, rest)
      ↔ ∃ name, text = name ++ ':' :: rest ∧ IsSchemeName name ∧ scheme = schemeOf name := by
  constructor
  · intro h
    cases text with
    | nil => cases h
    | cons first more =>
      simp only [takeScheme?] at h
      split at h
      · rename_i letter
        split at h
        · rename_i name after cut
          obtain ⟨rfl, rfl⟩ := Prod.mk.inj (Option.some.inj h)
          obtain ⟨text, chars, -⟩ := cutAt_eq_cons_iff.mp cut
          refine ⟨name, text, ⟨?_, ?_⟩, rfl⟩
          · cases name with
            | nil =>
              obtain rfl : first = ':' := (List.cons.inj text).1
              exact absurd letter (by decide)
            | cons head tail =>
              obtain rfl : first = head := (List.cons.inj text).1
              exact ⟨first, tail, rfl, letter⟩
          · intro c mem
            simpa using chars c mem
        · cases h
      · cases h
  · rintro ⟨name, rfl, ⟨⟨first, more, rfl, letter⟩, chars⟩, rfl⟩
    have cut : cutAt (!isSchemeChar ·) (first :: more ++ ':' :: rest) = (first :: more, ':' :: rest) :=
      cutAt_eq_cons_iff.mpr ⟨rfl, fun c mem => by simp [chars c mem], by decide⟩
    simp only [takeScheme?, List.cons_append] at cut ⊢
    rw [if_pos letter, cut]
    rfl

theorem fst_cutSign (sign : Char) (text : List Char) :
    (cutSign sign text).1 = (cutAt (· = sign) text).1 := by
  unfold cutSign
  split <;> simp_all

/-- A sign that is no slash cuts no slash off the front. -/
theorem head?_cutSign {sign : Char} (other : sign ≠ '/') (text : List Char) :
    (cutSign sign text).1.head? = some '/' ↔ text.head? = some '/' := by
  rw [fst_cutSign]
  cases text with
  | nil => rfl
  | cons c rest =>
    by_cases here : c = sign
    · have slashless : c ≠ '/' := here ▸ other
      simp [cutAt, here, other]
    · simp [cutAt, here]

/-! ### The path -/

/-- Behind an authority stands a path of segments. -/
theorem pathAfterAuthority_ne_bare (scheme : Scheme) (text : List Char) (bare : String) :
    pathAfterAuthority scheme text ≠ .bare bare := by
  cases text with
  | nil =>
    rw [pathAfterAuthority]
    split <;> nofun
  | cons c rest => nofun

section Paths

variable [DomainNames]

/-- The path of a file has segments. -/
theorem parseFile_ne_bare {text : List Char} {authority : Authority} {path : Path}
    (h : parseFile text = .ok (authority, path)) (bare : String) : path ≠ .bare bare := by
  simp only [parseFile] at h
  split at h
  · split at h
    · obtain ⟨⟨host, rest⟩, -, h⟩ := bind_eq_ok_iff.mp h
      obtain ⟨-, rfl⟩ := Prod.mk.inj (Except.ok.inj h)
      exact pathAfterAuthority_ne_bare _ _ _
    · obtain ⟨-, rfl⟩ := Prod.mk.inj (Except.ok.inj h)
      exact pathAfterAuthority_ne_bare _ _ _
  · obtain ⟨-, rfl⟩ := Prod.mk.inj (Except.ok.inj h)
    exact pathAfterAuthority_ne_bare _ _ _

/-- **Which texts behind a scheme are paths without structure.** -/
theorem parseHierarchy_eq_bare_iff {scheme : Scheme} {followed : Bool} {text : List Char}
    {authority : Option Authority} {path : Path}
    (h : parseHierarchy scheme followed text = .ok (authority, path)) :
    (∃ bare, path = .bare bare) ↔ scheme.isSpecial = false ∧ text.head? ≠ some '/' := by
  cases scheme with
  | file =>
    obtain ⟨⟨_, _⟩, parsed, h⟩ := bind_eq_ok_iff.mp h
    obtain ⟨-, rfl⟩ := Prod.mk.inj (Except.ok.inj h)
    exact ⟨fun ⟨bare, eq⟩ => absurd eq (parseFile_ne_bare parsed bare), nofun⟩
  | web name port =>
    obtain ⟨⟨_, rest⟩, -, h⟩ := bind_eq_ok_iff.mp h
    obtain ⟨-, rfl⟩ := Prod.mk.inj (Except.ok.inj h)
    exact ⟨fun ⟨bare, eq⟩ => absurd eq (pathAfterAuthority_ne_bare _ _ bare), nofun⟩
  | other name =>
    simp only [parseHierarchy] at h
    split at h
    · obtain ⟨⟨_, rest⟩, -, h⟩ := bind_eq_ok_iff.mp h
      obtain ⟨-, rfl⟩ := Prod.mk.inj (Except.ok.inj h)
      exact ⟨fun ⟨bare, eq⟩ => absurd eq (pathAfterAuthority_ne_bare _ _ bare), nofun⟩
    · obtain ⟨-, rfl⟩ := Prod.mk.inj (Except.ok.inj h)
      exact ⟨nofun, fun ⟨_, slashless⟩ => absurd rfl slashless⟩
    · rename_i single
      obtain ⟨-, rfl⟩ := Prod.mk.inj (Except.ok.inj h)
      refine ⟨fun _ => ⟨rfl, ?_⟩, fun _ => ⟨_, rfl⟩⟩
      cases text with
      | nil => nofun
      | cons c rest =>
        intro slash
        obtain rfl : c = '/' := Option.some.inj slash
        exact single rest rfl

end Paths

/-- **A text without a path to continue**: it names a scheme without rules of its own, and what stands
behind the colon does not begin with a slash. -/
def IsBare (text : String) : Prop :=
  ∃ name rest, significant text = name ++ ':' :: rest ∧ IsSchemeName name ∧
    (schemeOf name).isSpecial = false ∧ rest.head? ≠ some '/'

theorem isBare_iff {text : String} :
    IsBare text ↔ ∃ entry ∈ takeScheme? (significant text),
      entry.1.isSpecial = false ∧ entry.2.head? ≠ some '/' := by
  constructor
  · rintro ⟨name, rest, spelled, named, plain, slashless⟩
    exact ⟨_, takeScheme?_eq_some_iff.mpr ⟨name, spelled, named, rfl⟩, plain, slashless⟩
  · rintro ⟨⟨scheme, rest⟩, scanned, plain, slashless⟩
    obtain ⟨name, spelled, named, rfl⟩ := takeScheme?_eq_some_iff.mp scanned
    exact ⟨name, rest, spelled, named, plain, slashless⟩

instance : DecidablePred IsBare := fun _ => decidable_of_iff _ isBare_iff.symm

/-- **Which urls have a path without structure.** -/
theorem path_eq_bare_iff [DomainNames] {text : String} {url : Url} (h : parse text = .ok url) :
    (∃ bare, url.path = .bare bare) ↔ IsBare text := by
  simp only [parse] at h
  split at h
  · cases h
  · rename_i scheme rest scanned
    obtain ⟨⟨authority, path⟩, parsed, h⟩ := bind_eq_ok_iff.mp h
    obtain rfl := Except.ok.inj h
    have slashless : (cutSign '?' (cutSign '#' rest).1).1.head? ≠ some '/'
        ↔ rest.head? ≠ some '/' :=
      not_congr ((head?_cutSign (by decide) _).trans (head?_cutSign (by decide) _))
    rw [parseHierarchy_eq_bare_iff parsed, slashless, isBare_iff, scanned]
    simp

end Url

namespace Store

/-- The endpoint of the store has no path to continue. -/
def IsBare : Store → Prop
  | .objects endpoint _ _ => Url.IsBare endpoint
  | .file _ => False

instance : DecidablePred IsBare
  | .objects endpoint _ _ => inferInstanceAs (Decidable (Url.IsBare endpoint))
  | .file _ => inferInstanceAs (Decidable False)

variable [DomainNames]

/-- A store of objects that passes the check has a url for its endpoint. -/
theorem exists_parse_of_validate {endpoint bucket : String} {key : Option String}
    (valid : (objects endpoint bucket key).validate = .ok ()) : ∃ url, Url.parse endpoint = .ok url := by
  simp only [validate] at valid
  split at valid
  · cases valid
  · rename_i url parsed
    exact ⟨url, parsed⟩

/-- **What opening a store comes to that has passed the check.** -/
theorem source_of_validate {store : Store} (valid : store.validate = .ok ()) (stage : Stage) :
    (¬ store.IsBare ∧ ∃ source, store.source stage = .ok source) ∨
      (store.IsBare ∧ ∃ endpoint bucket key, store = .objects endpoint bucket key ∧
        store.source stage = .error (.invalidUrl endpoint)) := by
  cases store with
  | file path => exact .inl ⟨id, _, rfl⟩
  | objects endpoint bucket key =>
    obtain ⟨url, parsed⟩ := exists_parse_of_validate valid
    have bare := Url.path_eq_bare_iff parsed
    cases path : url.path with
    | bare text =>
      refine .inr ⟨bare.mp ⟨text, path⟩, endpoint, bucket, key, rfl, ?_⟩
      simp only [source, objectUrl, parsed, path]
    | segments segments =>
      refine .inl ⟨fun isBare => ?_, ?_⟩
      · obtain ⟨text, eq⟩ := bare.mpr isBare
        cases path.symm.trans eq
      · simp only [source, objectUrl, parsed, path]
        exact ⟨_, rfl⟩

end Store

/-! ### The program -/

section Program

variable [DomainNames]

/-- Settings that are right have a store that is right. -/
theorem Settings.store_validate {settings : Settings} (valid : settings.validate = .ok ()) :
    settings.store.validate = .ok () := by
  obtain ⟨_, -, valid⟩ := bind_eq_ok_iff.mp valid
  obtain ⟨_, -, valid⟩ := bind_eq_ok_iff.mp valid
  split at valid
  · cases valid
  · assumption

/-- The program stops at a store that cannot be opened, if nothing stops it before. -/
theorem Command.launch_run_of_source_error {files : String → FileState} {path : String}
    {file : SettingsFile} {exporter : Exporter} {reason : FetchError}
    (loaded : SettingsFile.load (files path) = .ok file) (valid : file.settings.validate = .ok ())
    (reports : file.reports = true) (metrics : file.validateMetrics exporter = .ok ())
    (failed : file.settings.store.source file.settings.stage = .error reason) :
    launch files (.run path) exporter = .failed (.store reason) := by
  simp only [launch, SettingsFile.loadValid, loaded, valid, reports, metrics, Settings.open, failed]
  rfl

/-- **The program stops at its store** exactly if nothing stops it before and the endpoint has no path
to continue. -/
theorem Command.launch_run_eq_failed_store_iff {files : String → FileState} {path : String}
    {file : SettingsFile} (loaded : SettingsFile.load (files path) = .ok file)
    (valid : file.settings.validate = .ok ()) (exporter : Exporter) :
    (∃ reason, launch files (.run path) exporter = .failed (.store reason))
      ↔ file.settings.store.IsBare ∧ file.reports = true ∧
        file.validateMetrics exporter = .ok () := by
  simp only [launch, SettingsFile.loadValid, loaded, valid]
  cases reports : file.reports with
  | false => simp
  | true =>
    cases metrics : file.validateMetrics exporter with
    | error reason => simp
    | ok _ =>
      simp only [Settings.open, valid]
      rcases Store.source_of_validate (Settings.store_validate valid) file.settings.stage with
        ⟨notBare, source, opened⟩ | ⟨bare, endpoint, _, _, -, failed⟩
      · simp [opened, notBare]
      · simp [failed, bare]

/-- **Which stores can be opened after the check.**  A store that passes the check can be opened, for
whatever stage, exactly if its endpoint has a path to continue; and a settings file with this store
that is found valid lets the program stop at its store exactly if the endpoint has none, failures can be
reported where the file says and metrics can be sent where it says. -/
theorem Store.opens_iff (store : Store) (stage : Stage) (valid : store.validate = .ok ()) :
    ((∃ source, store.source stage = .ok source) ↔ ¬ store.IsBare) ∧
    ∀ (files : String → FileState) (path : String) (file : SettingsFile) (exporter : Exporter),
      SettingsFile.load (files path) = .ok file → file.settings.store = store →
      Command.launch files (.validate path) exporter = .done (path ++ " is valid\n") →
      ((∃ reason, Command.launch files (.run path) exporter = .failed (.store reason))
        ↔ store.IsBare ∧ file.reports = true ∧ file.validateMetrics exporter = .ok ()) := by
  refine ⟨?_, fun files path file exporter loaded stored found => ?_⟩
  · rcases source_of_validate valid stage with ⟨notBare, opened⟩ | ⟨bare, endpoint, _, _, -, failed⟩
    · exact iff_of_true opened notBare
    · refine iff_of_false ?_ (fun notBare => notBare bare)
      rintro ⟨source, opened⟩
      cases opened.symm.trans failed
  · have fileValid : file.settings.validate = .ok () := by
      simp only [Command.launch, SettingsFile.loadValid, loaded] at found
      cases fileValid : file.settings.validate with
      | error reason => simp [fileValid] at found
      | ok _ => rfl
    rw [← stored]
    exact Command.launch_run_eq_failed_store_iff loaded fileValid exporter

/-- A settings file that is right is found valid. -/
theorem Command.launch_validate {files : String → FileState} {path : String} {file : SettingsFile}
    {exporter : Exporter} (loaded : SettingsFile.load (files path) = .ok file)
    (valid : file.settings.validate = .ok ()) :
    launch files (.validate path) exporter = .done (path ++ " is valid\n") := by
  simp only [launch, SettingsFile.loadValid, loaded, valid]

end Program

/-! ### An address with its scheme and without -/

/-- What of a settings file decides whether the program starts, if it sends no metrics. -/
def SettingsFile.outlook (file : SettingsFile) : Option Unit × Store × Bool × Bool :=
  (file.settings.validate.toOption, file.settings.store, file.reports, file.metrics.isNone)

theorem toOption_eq_some_iff {ε α : Type} {result : Except ε α} {value : α} :
    result.toOption = some value ↔ result = .ok value := by
  cases result <;> simp [Except.toOption]

/-- A text with a good outlook is a settings file that is right, and nothing but its store can stop the
program. -/
theorem SettingsFile.exists_of_outlook {contents : String} {store : Store}
    (h : (ofYaml? contents).map outlook = some (some (), store, true, true)) :
    ∃ file, load (.text contents) = .ok file ∧ file.settings.validate = .ok () ∧
      file.settings.store = store ∧ file.reports = true ∧
      ∀ exporter, file.validateMetrics exporter = .ok () := by
  obtain ⟨file, read, outlook⟩ := Option.map_eq_some_iff.mp h
  simp only [SettingsFile.outlook, Prod.mk.injEq, toOption_eq_some_iff] at outlook
  obtain ⟨valid, stored, reports, unmeasured⟩ := outlook
  refine ⟨file, ?_, valid, stored, reports, fun exporter => ?_⟩
  · simp only [load, read]
  · rw [validateMetrics, Option.isNone_iff_eq_none.mp unmeasured]

/-- A settings file whose store has an address for its endpoint, and no scheme before it. -/
def schemelessSettings : String :=
  "notifier:\n  listener:\n    host: localhost\n    port: 3000\n"
    ++ "  admin_listener:\n    host: localhost\n    port: 3001\n"
    ++ "  stage: beta\n  webhook_store:\n    type: s3\n    endpoint: localhost:9000\n"

theorem outlook_schemelessSettings :
    (SettingsFile.ofYaml? schemelessSettings).map SettingsFile.outlook
      = some (some (), .objects "localhost:9000" Store.defaultBucket none, true, true) := by
  decide +kernel

/-- With its scheme an address is an endpoint whose store can be opened; without it the program stops
at a store that was found valid. -/
theorem address_needs_scheme :
    let store := Store.objects "http://localhost:9000" Store.defaultBucket none
    let files := fun _ => FileState.text schemelessSettings
    store.validate = .ok () ∧ (∀ stage, ∃ source, store.source stage = .ok source) ∧
      Command.launch files (.validate "config.yaml") = .done ("config.yaml" ++ " is valid\n") ∧
      ∃ reason, Command.launch files (.run "config.yaml") = .failed (.store reason) := by
  intro store files
  have valid : store.validate = .ok () := toOption_eq_some_iff.mp (by decide +kernel)
  have notBare : ¬ store.IsBare := by decide +kernel
  obtain ⟨file, loaded, fileValid, stored, reports, metrics⟩ :=
    SettingsFile.exists_of_outlook outlook_schemelessSettings
  have found : Command.launch files (.validate "config.yaml")
      = .done ("config.yaml" ++ " is valid\n") := Command.launch_validate loaded fileValid
  have schemeless : Store.validate (.objects "localhost:9000" Store.defaultBucket none) = .ok () := by
    rw [← stored]
    exact Settings.store_validate fileValid
  have bare : Store.IsBare (.objects "localhost:9000" Store.defaultBucket none) := by decide +kernel
  have stops := (Store.opens_iff _ .prod schemeless).2 files "config.yaml" file _ loaded stored found
  exact ⟨valid, fun stage => (Store.opens_iff store stage valid).1.mpr notBare, found,
    stops.mpr ⟨bare, reports, metrics _⟩⟩

/-- **A store that passes the check and cannot be opened.**  `localhost:9000` is a url of the scheme
`localhost`, and not the address that it looks like. -/
theorem address_without_scheme_cannot_open :
    let store := Store.objects "localhost:9000" Store.defaultBucket none
    let files := fun _ => FileState.text schemelessSettings
    store.validate = .ok () ∧ (∀ stage, store.source stage = .error (.invalidUrl "localhost:9000")) ∧
      Command.launch files (.validate "config.yaml") = .done ("config.yaml" ++ " is valid\n") ∧
      Command.launch files (.run "config.yaml")
        = .failed (.store (.invalidUrl "localhost:9000")) := by
  intro store files
  obtain ⟨file, loaded, fileValid, stored, reports, metrics⟩ :=
    SettingsFile.exists_of_outlook outlook_schemelessSettings
  have valid : store.validate = .ok () := by
    have storeValid := Settings.store_validate fileValid
    rwa [stored] at storeValid
  have bare : store.IsBare := by decide +kernel
  have failed : ∀ stage, store.source stage = .error (.invalidUrl "localhost:9000") := by
    intro stage
    rcases Store.source_of_validate valid stage with ⟨notBare, -⟩ | ⟨-, _, _, _, same, failed⟩
    · exact absurd bare notBare
    · obtain ⟨rfl, -, -⟩ := Store.objects.inj same
      exact failed
  have stops : Command.launch files (.run "config.yaml")
      = .failed (.store (.invalidUrl "localhost:9000")) :=
    Command.launch_run_of_source_error loaded fileValid reports (metrics _)
      (by rw [stored]; exact failed _)
  exact ⟨valid, failed, Command.launch_validate loaded fileValid, stops⟩

end OrderHerald
