import Karar.MobileConfiguration.LocalHosts

/-!
# The validation of the build configuration

`ConfigurationLoader.load` reads the values that were compiled into the application and reports every
violation of its rules, or returns the configuration. `LoadLaw` collects the rules that it documents:
plain HTTP in LOCAL only and only against a local host, no credentials in the base URL, and no deployed
build that talks to the machine it runs on, however the host is spelled. LOCAL takes any scheme and any
host, and the judge of hosts misses spellings and takes in other addresses, so that the rules are kept
exactly on the values that do not come upon these (`loadLaw_iff`).
-/

namespace Karar.MobileConfiguration

open Foundation
open MobileLogging (lowerCase contains)

/-! ### Texts and URLs -/

/-- What is read of a `Uri`: its parts, the host without brackets. -/
structure Uri where
  scheme : List Char
  userInfo : List Char
  host : List Char
deriving DecidableEq

/-- What the loader uses of Dart: letter case, and the reading of a URL. -/
structure Dart where
  caseData : CaseData
  toUpperCase : List Char → List Char
  /-- `Uri.tryParse`. -/
  tryParse : List Char → Option Uri

/-- The characters that `String.trim` removes. -/
def isTrimmed (c : Char) : Bool :=
  c.val ∈ [0x9, 0xA, 0xB, 0xC, 0xD, 0x20, 0x85, 0xA0, 0x1680, 0x2000, 0x2001, 0x2002, 0x2003, 0x2004,
    0x2005, 0x2006, 0x2007, 0x2008, 0x2009, 0x200A, 0x2028, 0x2029, 0x202F, 0x205F, 0x3000, 0xFEFF]

/-! ### Environments -/

/-- `AppEnvironment`. -/
inductive AppEnvironment
  | «local»
  | dev
  | staging
  | production
deriving DecidableEq

namespace AppEnvironment

/-- `AppEnvironment.values`. -/
def values : List AppEnvironment := [«local», dev, staging, production]

def identifier : AppEnvironment → List Char
  | «local» => "LOCAL".toList
  | dev => "DEV".toList
  | staging => "STAGING".toList
  | production => "PRODUCTION".toList

def allowsInsecureTransport : AppEnvironment → Bool
  | «local» => true
  | dev | staging | production => false

def tryParse (dart : Dart) : Option (List Char) → Option AppEnvironment
  | none => none
  | some identifier =>
    let normalized := dart.toUpperCase (trim isTrimmed identifier)
    values.find? fun candidate ↦ candidate.identifier == normalized

end AppEnvironment

/-! ### Keys and violations -/

namespace ConfigurationKeys

def environment : List Char := "KARAR_ENV".toList

def apiBaseUrl : List Char := "KARAR_API_BASE_URL".toList

def appVersion : List Char := "KARAR_APP_VERSION".toList

def buildNumber : List Char := "KARAR_BUILD_NUMBER".toList

def brandId : List Char := "KARAR_BRAND_ID".toList

def all : List (List Char) := [environment, apiBaseUrl, appVersion, buildNumber, brandId]

end ConfigurationKeys

/-- `ConfigurationViolation`. -/
inductive ConfigurationViolation
  | environmentMissing
  | environmentUnknown
  | apiBaseUrlMissing
  | apiBaseUrlMalformed
  | apiBaseUrlInsecure
  | apiBaseUrlLocalInNonLocal
  | apiBaseUrlCredentialsPresent
  | secretShapedKeyPresent (key : List Char)
  | appVersionMissing
  | buildNumberMissing
deriving DecidableEq

/-- The text that is reported. -/
def ConfigurationViolation.text : ConfigurationViolation → List Char
  | environmentMissing => "ENVIRONMENT_MISSING".toList
  | environmentUnknown => "ENVIRONMENT_UNKNOWN".toList
  | apiBaseUrlMissing => "API_BASE_URL_MISSING".toList
  | apiBaseUrlMalformed => "API_BASE_URL_MALFORMED".toList
  | apiBaseUrlInsecure => "API_BASE_URL_INSECURE".toList
  | apiBaseUrlLocalInNonLocal => "API_BASE_URL_LOCAL_IN_NON_LOCAL_BUILD".toList
  | apiBaseUrlCredentialsPresent => "API_BASE_URL_CREDENTIALS_PRESENT".toList
  | secretShapedKeyPresent key => "SECRET_SHAPED_KEY_PRESENT:".toList ++ key
  | appVersionMissing => "APP_VERSION_MISSING".toList
  | buildNumberMissing => "BUILD_NUMBER_MISSING".toList

/-- `AppConfiguration`. -/
structure AppConfiguration where
  environment : AppEnvironment
  apiBaseUrl : Uri
  appVersion : List Char
  buildNumber : List Char
  brandId : List Char
deriving DecidableEq

/-! ### The loader -/

/-- `_secretShapedKeyMarkers`. -/
def secretShapedKeyMarkers : List (List Char) :=
  ["secret".toList, "password".toList, "private".toList, "credential".toList, "token".toList,
    "apikey".toList, "api_key".toList, "service_account".toList, "kms".toList, "signing".toList,
    "keystore".toList]

/-- The values by their keys, as `Map<String, String>`. -/
abbrev Values := List (List Char × List Char)

/-- `_read`. -/
def read (values : Values) (key : List Char) : Option (List Char) :=
  match values.lookup key with
  | none => none
  | some value => if (trim isTrimmed value).isEmpty then none else some (trim isTrimmed value)

/-- A violation for every key whose name suggests a secret. -/
def secretViolations (data : CaseData) (values : Values) : List ConfigurationViolation :=
  values.flatMap fun (key, _) ↦
    if ConfigurationKeys.all.contains key then []
    else if secretShapedKeyMarkers.any (contains (lowerCase data key)) then
      [.secretShapedKeyPresent key]
    else []

/-- `localDefaultApiBaseUrl`: `http://localhost:3000`. -/
def localDefaultApiBaseUrl : Uri := ⟨"http".toList, [], "localhost".toList⟩

def https : List Char := "https".toList

/-- The violations of a base URL that can be read. -/
def urlViolations (dart : Dart) (environment : AppEnvironment) (parsed : Uri) :
    List ConfigurationViolation :=
  (if parsed.userInfo.isEmpty then [] else [.apiBaseUrlCredentialsPresent]) ++
  (if parsed.scheme != https && !environment.allowsInsecureTransport then [.apiBaseUrlInsecure]
    else []) ++
  (if isLocalOnlyHost dart.caseData parsed.host && environment != .«local» then
    [.apiBaseUrlLocalInNonLocal] else [])

/-- The base URL, when there is one, and the violations found in it. -/
def baseUrl (dart : Dart) (environment : AppEnvironment) :
    Option (List Char) → Option Uri × List ConfigurationViolation
  | none =>
    if environment = .«local» then (some localDefaultApiBaseUrl, []) else (none, [.apiBaseUrlMissing])
  | some rawBaseUrl =>
    match dart.tryParse rawBaseUrl with
    | none => (none, [.apiBaseUrlMalformed])
    | some parsed =>
      if parsed.scheme.isEmpty || parsed.host.isEmpty then (none, [.apiBaseUrlMalformed])
      else (some parsed, urlViolations dart environment parsed)

/-- The version and the build number that a release build must bring. -/
def releaseViolations (values : Values) (isReleaseBuild : Bool) : List ConfigurationViolation :=
  let appVersion := read values ConfigurationKeys.appVersion
  let buildNumber := read values ConfigurationKeys.buildNumber
  (if isReleaseBuild && (appVersion == none || appVersion == some "0.0.0".toList) then
    [.appVersionMissing] else []) ++
  (if isReleaseBuild && (buildNumber == none || buildNumber == some "0".toList) then
    [.buildNumberMissing] else [])

/-- The configuration of the values. -/
def configurationOf (values : Values) (environment : AppEnvironment) (apiBaseUrl : Uri) :
    AppConfiguration where
  environment := environment
  apiBaseUrl := apiBaseUrl
  appVersion := (read values ConfigurationKeys.appVersion).getD "0.0.0".toList
  buildNumber := (read values ConfigurationKeys.buildNumber).getD "0".toList
  brandId := (read values ConfigurationKeys.brandId).getD "karar".toList

/-- The environment that the values name. -/
def environmentOf (dart : Dart) (values : Values) : Option AppEnvironment :=
  AppEnvironment.tryParse dart (read values ConfigurationKeys.environment)

/-- `ConfigurationLoader.load`: the configuration, or the texts of the violations. -/
def load (dart : Dart) (values : Values) (isReleaseBuild : Bool) :
    Except (List (List Char)) AppConfiguration :=
  let violations := secretViolations dart.caseData values
  match environmentOf dart values with
  | none =>
    let unnamed : ConfigurationViolation :=
      if read values ConfigurationKeys.environment = none then .environmentMissing
      else .environmentUnknown
    .error ((violations ++ [unnamed]).map ConfigurationViolation.text)
  | some environment =>
    let (apiBaseUrl, found) := baseUrl dart environment (read values ConfigurationKeys.apiBaseUrl)
    let violations := violations ++ found ++ releaseViolations values isReleaseBuild
    match violations, apiBaseUrl with
    | [], some apiBaseUrl => .ok (configurationOf values environment apiBaseUrl)
    | violations, _ => .error (violations.map ConfigurationViolation.text)

/-! ### Texts of violations -/

/-- The text tells a local host in a deployed build from every other violation. -/
theorem ConfigurationViolation.eq_of_text {violation : ConfigurationViolation}
    (htext : violation.text = text .apiBaseUrlLocalInNonLocal) :
    violation = .apiBaseUrlLocalInNonLocal := by
  cases violation with
  | apiBaseUrlLocalInNonLocal => rfl
  | secretShapedKeyPresent key =>
    have hsecret : "SECRET_SHAPED_KEY_PRESENT:".toList.head? = some 'S' := by decide
    have hlocal : (text .apiBaseUrlLocalInNonLocal).head? = some 'A' := by decide
    have hhead : ("SECRET_SHAPED_KEY_PRESENT:".toList ++ key).head? = some 'A' := by
      rw [← hlocal, ← htext]
      exact Eq.refl _
    rw [List.head?_append, hsecret] at hhead
    exact absurd (Option.some.inj hhead) (by decide)
  | _ => exact absurd htext (by decide)

/-! ### What the loader accepts and reports -/

/-- The base URL that the values give, when it can be read. -/
def givenUrl (dart : Dart) (values : Values) : Option Uri :=
  match read values ConfigurationKeys.apiBaseUrl with
  | none => none
  | some rawBaseUrl =>
    match dart.tryParse rawBaseUrl with
    | none => none
    | some parsed => if parsed.scheme.isEmpty || parsed.host.isEmpty then none else some parsed

section Laws

variable {dart : Dart} {values : Values} {isReleaseBuild : Bool}

theorem baseUrl_eq_of_givenUrl (environment : AppEnvironment) {parsed : Uri}
    (hgiven : givenUrl dart values = some parsed) :
    baseUrl dart environment (read values ConfigurationKeys.apiBaseUrl) =
      (some parsed, urlViolations dart environment parsed) := by
  unfold givenUrl at hgiven
  split at hgiven
  · exact absurd hgiven (by simp)
  · rename_i rawBaseUrl hraw
    split at hgiven
    · exact absurd hgiven (by simp)
    · rename_i parsed' hparsed
      rw [hraw, baseUrl, hparsed]
      dsimp only
      split_ifs at hgiven ⊢ with hmalformed
      rw [Option.some.inj hgiven]

/-- Without a base URL that can be read, LOCAL has its default and no other environment has one. -/
theorem baseUrl_of_not_given (environment : AppEnvironment) (hgiven : givenUrl dart values = none) :
    .apiBaseUrlLocalInNonLocal ∉
        (baseUrl dart environment (read values ConfigurationKeys.apiBaseUrl)).2 ∧
      ∀ apiBaseUrl, (baseUrl dart environment (read values ConfigurationKeys.apiBaseUrl)).1 =
        some apiBaseUrl → environment = .«local» ∧ apiBaseUrl = localDefaultApiBaseUrl := by
  unfold givenUrl at hgiven
  split at hgiven
  · rename_i hraw
    rw [hraw, baseUrl]
    split_ifs with hlocal
    · exact ⟨by simp, fun apiBaseUrl hdefault ↦ ⟨hlocal, (Option.some.inj hdefault).symm⟩⟩
    · simp
  · rename_i rawBaseUrl hraw
    rw [hraw, baseUrl]
    split at hgiven
    · simp
    · split_ifs at hgiven ⊢
      simp

theorem urlViolations_eq_nil_iff {environment : AppEnvironment} {parsed : Uri} :
    urlViolations dart environment parsed = [] ↔ parsed.userInfo = [] ∧
      (environment ≠ .«local» → parsed.scheme = https ∧
        isLocalOnlyHost dart.caseData parsed.host = false) := by
  unfold urlViolations
  cases environment <;> simp [AppEnvironment.allowsInsecureTransport, List.append_eq_nil_iff]

theorem mem_urlViolations_iff {environment : AppEnvironment} {parsed : Uri} :
    .apiBaseUrlLocalInNonLocal ∈ urlViolations dart environment parsed ↔
      environment ≠ .«local» ∧ isLocalOnlyHost dart.caseData parsed.host = true := by
  unfold urlViolations
  cases environment <;> simp

/-- No other rule of the loader is broken. -/
def OtherwiseClean (dart : Dart) (values : Values) (isReleaseBuild : Bool) (parsed : Uri) : Prop :=
  secretViolations dart.caseData values = [] ∧ releaseViolations values isReleaseBuild = [] ∧
    parsed.userInfo = []

/-- The loader in an environment: the violations of its rules, or the configuration. -/
theorem load_of_environment (isReleaseBuild : Bool) {environment : AppEnvironment}
    (henvironment : environmentOf dart values = some environment) {apiBaseUrl : Option Uri}
    {found : List ConfigurationViolation}
    (hbase : baseUrl dart environment (read values ConfigurationKeys.apiBaseUrl) = (apiBaseUrl, found)) :
    (∀ violations, load dart values isReleaseBuild = .error violations → violations =
      (secretViolations dart.caseData values ++ found ++ releaseViolations values isReleaseBuild).map
        ConfigurationViolation.text) ∧
    ∀ configuration, load dart values isReleaseBuild = .ok configuration ↔
      (secretViolations dart.caseData values = [] ∧ found = [] ∧
        releaseViolations values isReleaseBuild = []) ∧
      ∃ url, apiBaseUrl = some url ∧ configurationOf values environment url = configuration := by
  have hclean : secretViolations dart.caseData values ++ found ++
      releaseViolations values isReleaseBuild = [] ↔
        secretViolations dart.caseData values = [] ∧ found = [] ∧
          releaseViolations values isReleaseBuild = [] := by
    simp only [List.append_eq_nil_iff, and_assoc]
  unfold load
  simp only [henvironment, hbase]
  rw [← hclean]
  generalize secretViolations dart.caseData values ++ found ++
    releaseViolations values isReleaseBuild = violations
  cases violations with
  | nil => cases apiBaseUrl <;> simp
  | cons violation rest => simp [eq_comm]

theorem load_eq_ok_iff {configuration : AppConfiguration} :
    load dart values isReleaseBuild = .ok configuration ↔
      ∃ environment apiBaseUrl, environmentOf dart values = some environment ∧
        baseUrl dart environment (read values ConfigurationKeys.apiBaseUrl) = (some apiBaseUrl, []) ∧
        (secretViolations dart.caseData values = [] ∧ releaseViolations values isReleaseBuild = []) ∧
        configurationOf values environment apiBaseUrl = configuration := by
  cases henvironment : environmentOf dart values with
  | none =>
    unfold load
    simp [henvironment]
  | some environment =>
    cases hbase : baseUrl dart environment (read values ConfigurationKeys.apiBaseUrl) with
    | mk apiBaseUrl found =>
      rw [(load_of_environment isReleaseBuild henvironment hbase).2]
      constructor
      · rintro ⟨⟨hsecret, rfl, hrelease⟩, url, rfl, hconfiguration⟩
        exact ⟨environment, url, rfl, hbase, ⟨hsecret, hrelease⟩, hconfiguration⟩
      · rintro ⟨_, url, hsame, hjudged, ⟨hsecret, hrelease⟩, hconfiguration⟩
        obtain rfl := Option.some.inj hsame
        rw [hbase, Prod.mk.injEq] at hjudged
        exact ⟨⟨hsecret, hjudged.2, hrelease⟩, url, hjudged.1, hconfiguration⟩

theorem text_mem_iff {violations : List ConfigurationViolation} :
    ConfigurationViolation.text .apiBaseUrlLocalInNonLocal ∈
        violations.map ConfigurationViolation.text ↔ .apiBaseUrlLocalInNonLocal ∈ violations := by
  constructor
  · intro hmem
    obtain ⟨violation, hviolation, htext⟩ := List.mem_map.mp hmem
    rwa [ConfigurationViolation.eq_of_text htext] at hviolation
  · exact List.mem_map_of_mem

theorem not_mem_secretViolations :
    .apiBaseUrlLocalInNonLocal ∉ secretViolations dart.caseData values := by
  intro hmem
  obtain ⟨⟨key, value⟩, -, hkey⟩ := List.mem_flatMap.mp hmem
  dsimp only at hkey
  split_ifs at hkey <;> simp at hkey

theorem not_mem_releaseViolations :
    .apiBaseUrlLocalInNonLocal ∉ releaseViolations values isReleaseBuild := by
  unfold releaseViolations
  dsimp only
  split_ifs <;> simp

/-- The loader reports a local host exactly in a deployed build with a host that the judge knows. -/
theorem reported_iff : (∃ violations, load dart values isReleaseBuild = .error violations ∧
      ConfigurationViolation.text .apiBaseUrlLocalInNonLocal ∈ violations) ↔
    ∃ environment parsed, environmentOf dart values = some environment ∧ environment ≠ .«local» ∧
      givenUrl dart values = some parsed ∧ isLocalOnlyHost dart.caseData parsed.host = true := by
  cases henvironment : environmentOf dart values with
  | none =>
    constructor
    · rintro ⟨violations, hload, hmem⟩
      unfold load at hload
      simp only [henvironment] at hload
      rw [← Except.error.inj hload, text_mem_iff, List.mem_append, or_iff_right not_mem_secretViolations,
        List.mem_singleton] at hmem
      split_ifs at hmem
    · rintro ⟨environment, parsed, hsame, -⟩
      simp at hsame
  | some environment =>
    cases hbase : baseUrl dart environment (read values ConfigurationKeys.apiBaseUrl) with
    | mk apiBaseUrl found =>
      obtain ⟨herror, hok⟩ := load_of_environment isReleaseBuild henvironment hbase
      have hfound : (∃ violations, load dart values isReleaseBuild = .error violations ∧
          ConfigurationViolation.text .apiBaseUrlLocalInNonLocal ∈ violations) ↔
          .apiBaseUrlLocalInNonLocal ∈ found := by
        constructor
        · rintro ⟨violations, hload, hmem⟩
          rw [herror violations hload, text_mem_iff, List.mem_append, List.mem_append,
            or_iff_left not_mem_releaseViolations, or_iff_right not_mem_secretViolations] at hmem
          exact hmem
        · intro hmem
          cases hload : load dart values isReleaseBuild with
          | ok configuration =>
            have hnil := ((hok configuration).mp hload).1.2.1
            simp [hnil] at hmem
          | error violations =>
            refine ⟨violations, rfl, ?_⟩
            rw [herror violations hload, text_mem_iff]
            simp [hmem]
      rw [hfound]
      cases hgiven : givenUrl dart values with
      | none =>
        have hnot := (baseUrl_of_not_given environment hgiven).1
        rw [hbase] at hnot
        simp [hnot]
      | some parsed =>
        have hjudged := baseUrl_eq_of_givenUrl environment hgiven
        rw [hbase, Prod.mk.injEq] at hjudged
        rw [hjudged.2, mem_urlViolations_iff]
        simp

theorem givenUrl_eq_some {parsed : Uri} (hgiven : givenUrl dart values = some parsed) :
    ∃ rawBaseUrl, read values ConfigurationKeys.apiBaseUrl = some rawBaseUrl ∧
      dart.tryParse rawBaseUrl = some parsed := by
  unfold givenUrl at hgiven
  split at hgiven
  · exact absurd hgiven (by simp)
  · rename_i rawBaseUrl hraw
    split at hgiven
    · exact absurd hgiven (by simp)
    · rename_i parsed' hparsed
      split_ifs at hgiven
      exact ⟨rawBaseUrl, hraw, by rw [hparsed, hgiven]⟩

/-- What the loader accepts: LOCAL with its default, or a base URL that keeps the rules. -/
theorem accepted_cases {configuration : AppConfiguration}
    (hload : load dart values isReleaseBuild = .ok configuration) :
    environmentOf dart values = some configuration.environment ∧
      (configuration.environment = .«local» ∧ configuration.apiBaseUrl = localDefaultApiBaseUrl ∨
        givenUrl dart values = some configuration.apiBaseUrl ∧
          OtherwiseClean dart values isReleaseBuild configuration.apiBaseUrl ∧
          (configuration.environment ≠ .«local» → configuration.apiBaseUrl.scheme = https ∧
            isLocalOnlyHost dart.caseData configuration.apiBaseUrl.host = false)) := by
  obtain ⟨environment, apiBaseUrl, henvironment, hbase, ⟨hsecret, hrelease⟩, rfl⟩ :=
    load_eq_ok_iff.mp hload
  refine ⟨henvironment, ?_⟩
  cases hgiven : givenUrl dart values with
  | none =>
    have hdefault := (baseUrl_of_not_given environment hgiven).2 apiBaseUrl
    rw [hbase] at hdefault
    exact .inl (hdefault rfl)
  | some parsed =>
    rw [baseUrl_eq_of_givenUrl _ hgiven, Prod.mk.injEq, Option.some.injEq] at hbase
    obtain ⟨rfl, hnone⟩ := hbase
    obtain ⟨hcredentials, hdeployed⟩ := urlViolations_eq_nil_iff.mp hnone
    exact .inr ⟨rfl, ⟨hsecret, hrelease, hcredentials⟩, hdeployed⟩

/-- A base URL that keeps the rules is accepted. -/
theorem load_of_clean {environment : AppEnvironment} {parsed : Uri}
    (henvironment : environmentOf dart values = some environment)
    (hgiven : givenUrl dart values = some parsed)
    (hclean : OtherwiseClean dart values isReleaseBuild parsed)
    (hdeployed : environment ≠ .«local» → parsed.scheme = https ∧
      isLocalOnlyHost dart.caseData parsed.host = false) :
    load dart values isReleaseBuild = .ok (configurationOf values environment parsed) := by
  obtain ⟨hsecret, hrelease, hcredentials⟩ := hclean
  refine load_eq_ok_iff.mpr ⟨environment, parsed, henvironment, ?_, ⟨hsecret, hrelease⟩, rfl⟩
  rw [baseUrl_eq_of_givenUrl _ hgiven, urlViolations_eq_nil_iff.mpr ⟨hcredentials, hdeployed⟩]

/-! ### The rules of the configuration -/

/-- The documented rules: plain HTTP in LOCAL only and only against a local host, no credentials in the
base URL, no deployed build that talks to its own machine, and no other address taken for it. -/
structure LoadLaw (dart : Dart) (values : Values) (isReleaseBuild : Bool) : Prop where
  secure : ∀ configuration, load dart values isReleaseBuild = .ok configuration →
    configuration.apiBaseUrl.scheme = https ∨
      configuration.environment = .«local» ∧ configuration.apiBaseUrl.scheme = "http".toList ∧
        isLocalOnlyHost dart.caseData configuration.apiBaseUrl.host = true
  withoutCredentials : ∀ configuration, load dart values isReleaseBuild = .ok configuration →
    configuration.apiBaseUrl.userInfo = []
  deployed : ∀ configuration, load dart values isReleaseBuild = .ok configuration →
    configuration.environment ≠ .«local» → ¬ LocalHost dart.caseData configuration.apiBaseUrl.host
  exact : ∀ rawBaseUrl parsed address, read values ConfigurationKeys.apiBaseUrl = some rawBaseUrl →
    dart.tryParse rawBaseUrl = some parsed → SpellsHost parsed.host address → ¬ LocalAddress address →
      ∀ violations, load dart values isReleaseBuild = .error violations →
        ConfigurationViolation.text .apiBaseUrlLocalInNonLocal ∉ violations

/-- Values that do not reach a gap of the loader: in LOCAL the base URL is `https`, or `http` with a
host that the judge knows; in a deployed build it does not spell a local address in an unlisted way or
another address with a single `1`. -/
structure Regular (dart : Dart) (values : Values) (isReleaseBuild : Bool) : Prop where
  localTransport : environmentOf dart values = some .«local» →
    ∀ parsed, givenUrl dart values = some parsed → OtherwiseClean dart values isReleaseBuild parsed →
      parsed.scheme = https ∨ parsed.scheme = "http".toList ∧
        isLocalOnlyHost dart.caseData parsed.host = true
  listed : ∀ environment, environmentOf dart values = some environment → environment ≠ .«local» →
    ∀ parsed, givenUrl dart values = some parsed → OtherwiseClean dart values isReleaseBuild parsed →
      parsed.scheme = https → ¬ UnlistedSpelling parsed.host
  single : ∀ environment, environmentOf dart values = some environment → environment ≠ .«local» →
    ∀ parsed, givenUrl dart values = some parsed → ¬ StrayOne parsed.host

theorem loadLaw_of_regular (hregular : Regular dart values isReleaseBuild) :
    LoadLaw dart values isReleaseBuild where
  secure := by
    intro configuration hload
    obtain ⟨henvironment, ⟨hlocal, hdefault⟩ | ⟨hgiven, hclean, hdeployed⟩⟩ := accepted_cases hload
    · right
      rw [hdefault]
      exact ⟨hlocal, Eq.refl _, localName_isLocalOnlyHost localName_localhost⟩
    · by_cases hlocal : configuration.environment = .«local»
      · rw [hlocal] at henvironment
        exact (hregular.localTransport henvironment _ hgiven hclean).imp_right fun h ↦ ⟨hlocal, h⟩
      · exact .inl (hdeployed hlocal).1
  withoutCredentials := by
    intro configuration hload
    obtain ⟨-, ⟨-, hdefault⟩ | ⟨-, hclean, -⟩⟩ := accepted_cases hload
    · rw [hdefault]
      rfl
    · exact hclean.2.2
  deployed := by
    intro configuration hload hdeployed hhost
    obtain ⟨henvironment, ⟨hlocal, -⟩ | ⟨hgiven, hclean, hkept⟩⟩ := accepted_cases hload
    · exact hdeployed hlocal
    · obtain ⟨hscheme, hjudged⟩ := hkept hdeployed
      have hlisted := hregular.listed _ henvironment hdeployed _ hgiven hclean hscheme
      rw [(isLocalOnlyHost_sound_iff _ _).mpr hlisted hhost] at hjudged
      simp at hjudged
  exact := by
    intro rawBaseUrl parsed address hraw hparsed hspells hother violations hload hmem
    obtain ⟨environment, parsed', henvironment, hdeployed, hgiven, hjudged⟩ :=
      reported_iff.mp ⟨violations, hload, hmem⟩
    obtain ⟨rawBaseUrl', hraw', hparsed'⟩ := givenUrl_eq_some hgiven
    obtain rfl := Option.some.inj (hraw.symm.trans hraw')
    obtain rfl := Option.some.inj (hparsed.symm.trans hparsed')
    have hsingle := hregular.single environment henvironment hdeployed parsed hgiven
    exact hother ((isLocalOnlyHost_exact_iff _ _).mpr hsingle address hspells hjudged)

theorem regular_of_loadLaw (hlaw : LoadLaw dart values isReleaseBuild) :
    Regular dart values isReleaseBuild where
  localTransport := by
    intro henvironment parsed hgiven hclean
    have hload := load_of_clean henvironment hgiven hclean fun hne ↦ absurd rfl hne
    exact (hlaw.secure _ hload).imp_right And.right
  listed := by
    intro environment henvironment hdeployed parsed hgiven hclean hscheme
    rw [← isLocalOnlyHost_sound_iff dart.caseData]
    intro hhost
    by_contra hmissed
    rw [Bool.not_eq_true] at hmissed
    have hload := load_of_clean henvironment hgiven hclean fun _ ↦ ⟨hscheme, hmissed⟩
    exact hlaw.deployed _ hload hdeployed hhost
  single := by
    intro environment henvironment hdeployed parsed hgiven
    rw [← isLocalOnlyHost_exact_iff dart.caseData]
    intro address hspells hjudged
    by_contra hother
    obtain ⟨rawBaseUrl, hraw, hparsed⟩ := givenUrl_eq_some hgiven
    obtain ⟨violations, hload, hmem⟩ : ∃ violations, load dart values isReleaseBuild = .error violations ∧ _ :=
      reported_iff.mpr ⟨environment, parsed, henvironment, hdeployed, hgiven, hjudged⟩
    exact hlaw.exact rawBaseUrl parsed address hraw hparsed hspells hother violations hload hmem

/-- The loader keeps its rules exactly on the values that do not reach one of its gaps. -/
theorem loadLaw_iff (dart : Dart) (values : Values) (isReleaseBuild : Bool) :
    LoadLaw dart values isReleaseBuild ↔ Regular dart values isReleaseBuild :=
  ⟨regular_of_loadLaw, loadLaw_of_regular⟩

end Laws

/-! ### A deployed build that talks to its own machine -/

namespace MappedLoopback

def host : List Char := "::ffff:7f00:1".toList

/-- Dart on the texts of the build: letters from A to Z, and the URL with the host in brackets. -/
def dart : Dart where
  caseData := Platform.latinCase
  toUpperCase := List.map Char.toUpper
  tryParse text := if text = "https://[::ffff:7f00:1]".toList then some ⟨https, [], host⟩ else none

/-- The values of a release build for PRODUCTION. -/
def values : Values :=
  [(ConfigurationKeys.environment, "PRODUCTION".toList),
    (ConfigurationKeys.apiBaseUrl, "https://[::ffff:7f00:1]".toList),
    (ConfigurationKeys.appVersion, "1.4.0".toList), (ConfigurationKeys.buildNumber, "7".toList)]

theorem load_accepts :
    load dart values true = .ok (configurationOf values .production ⟨https, [], host⟩) := by
  refine load_of_clean (by decide) (by decide) ⟨?_, ?_, Eq.refl _⟩ fun _ ↦ ⟨Eq.refl _, ?_⟩
  · decide
  · decide
  · decide

/-- `::ffff:7f00:1` is 127.0.0.1. -/
theorem localHost_host : LocalHost dart.caseData host := by
  have hspells : SpellsLiteral host (mapped 0x7f00 1) :=
    .groups (Platform.expandGroups_eq_some_iff.mp (by decide))
  exact .inl ⟨_, ⟨host, [], (List.append_nil host).symm, by simp, hspells⟩,
    .inr (.inr ⟨0x7f00, 1, rfl, .inl (by decide)⟩)⟩

theorem not_loadLaw : ¬ LoadLaw dart values true := by
  intro hlaw
  exact hlaw.deployed _ load_accepts (by decide) localHost_host

end MappedLoopback

end Karar.MobileConfiguration
