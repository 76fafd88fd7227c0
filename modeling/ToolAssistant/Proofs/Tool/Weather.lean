import Mathlib.Data.Nat.Digits.Defs
import ToolAssistant.Proofs.Text.Blank
import ToolAssistant.Proofs.Text.Scrub
import ToolAssistant.Tool.Weather

/-!
# The key of the weather service and its failures

Whatever the weather service refuses ends in a failure that someone reads.  The failure shows the
key of the service only if the service itself repeats it, in a message that is passed on, at a place
that scrubbing does not know: the key has no shape of its own, so it is found only as the value of a
key parameter.

## Strategy

The fixed parts of the messages are too short to hold a key and end in marks that no key holds, so
they are taken off one after another (`shownIn_opening_iff`).  What remains is the city, a status, a
duration, or what the service said; for the last, `ToolAssistant.Proofs.Text.Scrub` says what is
left of it.
-/

namespace ToolAssistant

/-! ## How long a duration is when it is written -/

namespace Duration

theorem length_placesText_le {part places : ℕ} (hplaces : 0 < places) (hpart : part < 10 ^ places) :
    (placesText part places).length ≤ places + 1 := by
  unfold placesText
  extract_lets digits padded kept
  have hdigits : digits.length ≤ places :=
    (Nat.length_toDigits_le_iff (by decide) hplaces).mpr hpart
  have hpadded : padded.length = places := by
    rw [List.length_append, List.length_replicate]
    omega
  have hkept : kept.length ≤ padded.length := by
    calc kept.length = (padded.reverse.dropWhile (· == '0')).length := List.length_reverse
      _ ≤ padded.reverse.length := (List.dropWhile_suffix _).length_le
      _ = padded.length := List.length_reverse
  split_ifs
  · exact Nat.zero_le _
  · rw [String.length_ofList, List.length_cons]
    omega

theorem length_inUnit_le {d : Duration} {places digits : ℕ} (unit : String) (hplaces : 0 < places)
    (hdigits : 0 < digits) (hd : d.nanoseconds < 10 ^ (digits + places)) :
    (d.inUnit places unit).length ≤ digits + (places + 1) + unit.length := by
  have hsize : 0 < 10 ^ places := Nat.pow_pos (by decide)
  have hwhole : (toString (d.nanoseconds / 10 ^ places)).length ≤ digits := by
    apply Nat.repr_length _ _ hdigits
    rwa [Nat.div_lt_iff_lt_mul hsize, ← Nat.pow_add]
  have hplaces := length_placesText_le hplaces (Nat.mod_lt d.nanoseconds hsize)
  rw [inUnit]
  simp only [String.length_append]
  show (toString (d.nanoseconds / 10 ^ places)).length +
    (placesText (d.nanoseconds % 10 ^ places) places).length + unit.length ≤ _
  omega

/-- The longest duration that can be measured in seconds and nanoseconds. -/
def longest : Duration := ⟨2 ^ 64 * 1000000000 - 1⟩

theorem length_text_lt {d : Duration} (hd : d ≤ longest) : d.text.length < 32 := by
  have hlongest : d.nanoseconds ≤ 2 ^ 64 * 1000000000 - 1 := hd
  rw [text]
  split_ifs with hs hms hus
  · have hlength : (d.inUnit 9 "s").length ≤ 20 + (9 + 1) + 1 :=
      length_inUnit_le "s" (by decide) (by decide) (by omega)
    omega
  · have hlength : (d.inUnit 6 "ms").length ≤ 3 + (6 + 1) + 2 :=
      length_inUnit_le "ms" (by decide) (by decide) (by omega)
    omega
  · have hlength : (d.inUnit 3 "µs").length ≤ 3 + (3 + 1) + 2 :=
      length_inUnit_le "µs" (by decide) (by decide) (by omega)
    omega
  · have hlength : (d.inUnit 0 "ns").length ≤ 3 + 2 := by
      have hwhole : (toString d.nanoseconds).length ≤ 3 :=
        Nat.repr_length _ _ (by decide) (by omega)
      have hplaces : placesText (d.nanoseconds % 1) 0 = "" := by
        rw [Nat.mod_one]
        decide
      show (toString (d.nanoseconds / 1) ++ placesText (d.nanoseconds % 1) 0 ++ "ns").length ≤ _
      rw [hplaces, Nat.div_one, String.append_empty, String.length_append]
      exact Nat.add_le_add_right hwhole _
    omega

end Duration

/-! ## Texts that show a key -/

/-- Does a text show a secret? -/
def Secret.ShownIn (key : Secret) (text : String) : Prop :=
  key.exposed.toList <:+: text.toList

instance (key : Secret) (text : String) : Decidable (key.ShownIn text) :=
  inferInstanceAs (Decidable (key.exposed.toList <:+: text.toList))

namespace Weather

/-- A key as the service gives it out: 32 hexadecimal digits with small letters. -/
structure IsServiceKey (key : Secret) : Prop where
  length : key.exposed.length = 32
  digits : key.exposed.toList ⊆ "0123456789abcdef".toList

/-- A response about a failure echoes a key, if the message in it still shows the key when it is
scrubbed, and is passed on at all. -/
def Echoes (key : Secret) (response : Http.Response) : Prop :=
  response.status ≠ 404 ∧ response.status ≠ 401 ∧
    ∃ said, failureMessage? response.text = some said ∧ key.ShownIn (Text.scrub said)

section Key

variable {key : Secret} (hkey : IsServiceKey key)

include hkey

theorem IsServiceKey.notMem {c : Char} (hc : c ∉ "0123456789abcdef".toList) :
    c ∉ key.exposed.toList := by
  intro hmem
  exact hc (hkey.digits hmem)

theorem IsServiceKey.isKeyText : Text.IsKeyText key.exposed.toList where
  long := by
    rw [String.length_toList, hkey.length]
    decide
  word c hc := by
    have hword : "0123456789abcdef".toList.all Text.isWordCharacter = true := by decide
    exact List.all_eq_true.mp hword c (hkey.digits hc)
  value c hc := by
    have hvalue : "0123456789abcdef".toList.all Text.isValueCharacter = true := by decide
    exact List.all_eq_true.mp hvalue c (hkey.digits hc)
  marks mark hmark := by
    have hmarks : ∀ mark ∈ Text.stampMarks, mark ∉ "0123456789abcdef".toList := by
      simp [Text.stampMarks]
    exact hkey.notMem (hmarks mark hmark)

theorem not_shownIn_of_short {text : String} (hshort : text.length < 32) : ¬key.ShownIn text := by
  intro hshown
  have hlength := hshown.length_le
  rw [String.length_toList, String.length_toList, hkey.length] at hlength
  omega

/-- A short opening that ends in a mark has no part in a key. -/
theorem shownIn_opening_iff {opening : String} (text : String) (hshort : opening.length ≤ 32)
    (hmark : ∃ mark ∈ opening.toList.getLast?, mark ∉ "0123456789abcdef".toList) :
    key.ShownIn (opening ++ text) ↔ key.ShownIn text := by
  obtain ⟨mark, hlast, hmark⟩ := hmark
  obtain ⟨first, hfirst⟩ := List.getLast?_eq_some_iff.mp hlast
  have hcut : (opening ++ text).toList = first ++ mark :: text.toList := by
    rw [String.toList_append, hfirst, List.append_assoc, List.singleton_append]
  unfold Secret.ShownIn
  rw [hcut]
  constructor
  · intro hshown
    rcases Text.infix_append_cons (hkey.notMem hmark) hshown with hopening | htext
    · have hlength := hopening.length_le
      have hopeningLength := congrArg List.length hfirst
      rw [String.length_toList, hkey.length] at hlength
      rw [String.length_toList, List.length_append, List.length_singleton] at hopeningLength
      omega
    · exact htext
  · intro hshown
    exact hshown.trans ((List.suffix_cons mark _).trans (List.suffix_append first _)).isInfix

/-! ## What the failures show -/

theorem not_shownIn_statusText {status : ℕ} (hstatus : status < 1000) :
    ¬key.ShownIn (Http.statusText status) := by
  have hdigits : (toString status).length ≤ 3 := Nat.repr_length status 3 (by decide) hstatus
  have hphrases : ∀ phrase ∈ Http.reasonPhrases, phrase.2.length < 32 := by decide
  unfold Http.statusText
  rw [shownIn_opening_iff hkey]
  · apply not_shownIn_of_short hkey
    cases hphrase : Http.reasonPhrases.lookup status with
    | none => decide
    | some phrase =>
        obtain ⟨earlier, later, hlist, -⟩ := List.lookup_eq_some_iff.mp hphrase
        exact hphrases (status, phrase) (by rw [hlist]; simp)
  · rw [String.length_append]
    exact (Nat.add_le_add_right hdigits _).trans (by decide)
  · exact ⟨' ', by simp, by decide⟩

theorem not_shownIn_cityNotFound {city : String} (hcity : ¬key.ShownIn city) :
    ¬key.ShownIn ("City '" ++ city ++ "' not found") := by
  rw [String.append_assoc, shownIn_opening_iff hkey _ (by decide) ⟨'\'', by decide, by decide⟩]
  intro hshown
  unfold Secret.ShownIn at hshown
  rw [String.toList_append] at hshown
  rcases Text.infix_append_cons (hkey.notMem (by decide)) hshown with hin | hbehind
  · exact hcity hin
  · have hrest : ¬key.ShownIn " not found" := not_shownIn_of_short hkey (by decide)
    exact hrest hbehind

theorem not_shownIn_cityEmpty :
    ¬key.ShownIn (Failure.toolArgument toolName "city must not be empty").message := by
  have hmessage : (Failure.toolArgument toolName "city must not be empty").message =
      "Invalid arguments for tool '" ++ ("get_weather': " ++ "city must not be empty") := by decide
  rw [hmessage, shownIn_opening_iff hkey _ (by decide) ⟨'\'', by decide, by decide⟩,
    shownIn_opening_iff hkey _ (by decide) ⟨' ', by decide, by decide⟩]
  exact not_shownIn_of_short hkey (by decide)

theorem not_shownIn_toolTimeout {limit : Duration} (hlimit : limit ≤ .longest) :
    ¬key.ShownIn (Failure.toolTimeout limit).message := by
  unfold Failure.message
  rw [shownIn_opening_iff hkey _ (by decide) ⟨' ', by decide, by decide⟩]
  exact not_shownIn_of_short hkey (Duration.length_text_lt hlimit)

theorem shownIn_refusal_iff {city : String} {response : Http.Response}
    (hcity : ¬key.ShownIn city) (hstatus : response.status < 1000) :
    key.ShownIn (refusal city response).message ↔ Echoes key response := by
  have hexecution (detail : String) :
      key.ShownIn (Failure.toolExecution detail).message ↔ key.ShownIn detail :=
    shownIn_opening_iff hkey detail (by decide) ⟨' ', by decide, by decide⟩
  unfold refusal Echoes
  rw [hexecution]
  split_ifs with hnotFound hrejected
  · simp [hnotFound, not_shownIn_cityNotFound hkey hcity]
  · have hconstant : "Weather service rejected the API key" =
        "Weather service " ++ "rejected the API key" := by decide
    have hrest : ¬key.ShownIn "rejected the API key" := not_shownIn_of_short hkey (by decide)
    rw [hconstant, shownIn_opening_iff hkey _ (by decide) ⟨' ', by decide, by decide⟩]
    simp [hrejected, hrest]
  · have hdigits : (toString response.status).length ≤ 3 :=
      Nat.repr_length response.status 3 (by decide) hstatus
    -- The status with what is around it is two openings: up to it, and from it on.
    rw [String.append_assoc, String.append_assoc,
      shownIn_opening_iff hkey _ (by decide) ⟨'(', by decide, by decide⟩,
      ← String.append_assoc, shownIn_opening_iff hkey]
    · cases hsaid : failureMessage? response.text with
      | some said => simp [hnotFound, hrejected]
      | none =>
          have hphrase : ¬key.ShownIn (Text.scrub response.statusText) := by
            intro hshown
            exact not_shownIn_statusText hkey hstatus
              (Text.infix_of_infix_scrub hkey.isKeyText hshown)
          simp [hphrase]
    · rw [String.length_append]
      exact (Nat.add_le_add_right hdigits _).trans (by decide)
    · exact ⟨' ', by simp, by decide⟩

end Key

section Current

variable {σ : Type} (service : Service σ)

theorem current_of_blank {city : String} (hblank : Text.isBlankText city = true) (world : σ) :
    service.current city world =
      (.ends .zero (.error (.toolArgument toolName "city must not be empty")), world) := by
  unfold Service.current
  rw [if_pos (by rw [Text.isEmpty_trim, hblank])]
  rfl

theorem current_of_refusal {city : String} {world after : σ} {took : Duration}
    {response : Http.Response} (hblank : Text.isBlankText city = false)
    (hanswer : service.client.request service.address (service.request (Text.trim city)) world =
      (.ends took (some response), after)) (hrefused : response.isSuccess = false) :
    (service.current city world).1 =
      if took ≤ service.timeout then .ends took (.error (refusal (Text.trim city) response))
      else .ends service.timeout (.error (.toolTimeout service.timeout)) := by
  have hempty : (Text.trim city).isEmpty = false := by
    rw [Text.isEmpty_trim, hblank]
  unfold Service.current
  simp [hempty, hanswer, Timed.map, Timed.deadline, report, hrefused]

private theorem shownIn_failure_iff {city : String} {world after : σ} {took : Duration}
    {response : Http.Response} (hkey : IsServiceKey service.key)
    (hlimit : service.timeout ≤ .longest) (hcity : ¬service.key.ShownIn city)
    (hanswer : service.client.request service.address (service.request (Text.trim city)) world =
      (.ends took (some response), after))
    (hstatus : response.status < 1000) (hrefused : response.isSuccess = false) :
    ∃ elapsed failure, (service.current city world).1 = .ends elapsed (.error failure) ∧
      (service.key.ShownIn failure.message ↔
        Text.isBlankText city = false ∧ took ≤ service.timeout ∧ Echoes service.key response) := by
  have htrimmed : ¬service.key.ShownIn (Text.trim city) := by
    intro hshown
    exact hcity (hshown.trans (Text.trim_within city))
  cases hblank : Text.isBlankText city with
  | true =>
      refine ⟨.zero, _, congrArg Prod.fst (current_of_blank service hblank world), ?_⟩
      simp [not_shownIn_cityEmpty hkey]
  | false =>
      have hcurrent := current_of_refusal service hblank hanswer hrefused
      by_cases htime : took ≤ service.timeout
      · rw [if_pos htime] at hcurrent
        refine ⟨took, _, hcurrent, ?_⟩
        simp [htime, shownIn_refusal_iff hkey htrimmed hstatus]
      · rw [if_neg htime] at hcurrent
        refine ⟨service.timeout, _, hcurrent, ?_⟩
        simp [htime, not_shownIn_toolTimeout hkey hlimit]

/-- **A failure shows the key only if the service does**: what is made of a response shows it just
if the response echoes it.  A message of the service is freed of the key where that stands in a key
parameter, unless a replaced API key took the name of the parameter; and nowhere else, if there is
no trace of the other patterns. -/
theorem current_shows_key_iff {city : String} {world after : σ} {took : Duration}
    {response : Http.Response} (hkey : IsServiceKey service.key)
    (hlimit : service.timeout ≤ .longest) (hcity : ¬service.key.ShownIn city)
    (hanswer : service.client.request service.address (service.request (Text.trim city)) world =
      (.ends took (some response), after))
    (hstatus : response.status < 1000)
    (hrefused : response.status < 200 ∨ 300 ≤ response.status) :
    ∃ elapsed failure, (service.current city world).1 = .ends elapsed (.error failure) ∧
      (service.key.ShownIn failure.message ↔
        Text.isBlankText city = false ∧ took ≤ service.timeout ∧ Echoes service.key response) ∧
      ∀ said, failureMessage? response.text = some said →
        (service.key.ShownIn (Text.scrub said) →
          Text.StandsFree none service.key.exposed.toList
            (Text.replaceAll Text.apiKeyPattern said.toList)) ∧
        (Text.IsPlain said.toList →
          (service.key.ShownIn (Text.scrub said) ↔
            Text.StandsFree none service.key.exposed.toList said.toList)) := by
  have hfailed : response.isSuccess = false := by
    rw [Http.Response.isSuccess, Bool.and_eq_false_iff, decide_eq_false_iff_not,
      decide_eq_false_iff_not]
    omega
  obtain ⟨elapsed, failure, hends, hshown⟩ :=
    shownIn_failure_iff service hkey hlimit hcity hanswer hstatus hfailed
  refine ⟨elapsed, failure, hends, hshown, ?_⟩
  intro said _
  constructor
  · intro hleft
    exact Text.standsFree_of_infix_scrub hkey.isKeyText hleft
  · intro hplain
    exact Text.infix_scrub_iff hkey.isKeyText hplain

end Current

/-! ## A service that repeats the key -/

/-- Some key of the service. -/
def sampleKey : Secret := ⟨"0123456789abcdef0123456789abcdef"⟩

theorem sampleKey_isServiceKey : IsServiceKey sampleKey where
  length := by decide
  digits := by decide

/-- What the service answers that refuses every request with one message. -/
def refusalOf (message : String) : Http.Response :=
  ⟨500, "\x7b\"message\":\"" ++ message ++ "\"\x7d"⟩

/-- A service that refuses every request with one message. -/
def refusing (message : String) : Service Unit where
  client _ world := (.ends .zero (some (refusalOf message)), world)
  baseUrl := "http://localhost"
  units := "metric"
  key := sampleKey
  timeout := defaultTimeout

private theorem refusing_answers (message : String) :
    (refusing message).client.request (refusing message).address
        ((refusing message).request (Text.trim "Paris")) () =
      (.ends .zero (some (refusalOf message)), ()) := by
  have haddress : (Http.Url.read? (refusing message).address).isSome = true := by
    show (Http.Url.read? (Http.Url.trimBase "http://localhost" ++ "/weather")).isSome = true
    decide +kernel
  obtain ⟨url, hurl⟩ := Option.isSome_iff_exists.mp haddress
  unfold Http.Client.request
  rw [hurl]
  rfl

theorem current_hides_key_parameter :
    IsServiceKey sampleKey ∧ defaultTimeout ≤ .longest ∧ ¬sampleKey.ShownIn "Paris" ∧
      ∃ elapsed failure,
        ((refusing "internal error for appid=0123456789abcdef0123456789abcdef").current
          "Paris" ()).1 = .ends elapsed (.error failure) ∧ ¬sampleKey.ShownIn failure.message := by
  have hlimit : defaultTimeout ≤ .longest := by decide
  have hcity : ¬sampleKey.ShownIn "Paris" := by decide
  obtain ⟨elapsed, failure, hends, hshown, -⟩ :=
    current_shows_key_iff (refusing "internal error for appid=0123456789abcdef0123456789abcdef")
      sampleKey_isServiceKey hlimit hcity (refusing_answers _) (by decide) (by decide)
  refine ⟨sampleKey_isServiceKey, hlimit, hcity, elapsed, failure, hends, ?_⟩
  intro hfailure
  obtain ⟨-, -, -, -, said, hsaid, hscrubbed⟩ := hshown.mp hfailure
  have hmessage : failureMessage? (refusalOf
      "internal error for appid=0123456789abcdef0123456789abcdef").text =
        some "internal error for appid=0123456789abcdef0123456789abcdef" := by decide +kernel
  obtain rfl := Option.some.inj (hmessage.symm.trans hsaid)
  revert hscrubbed
  show ¬sampleKey.ShownIn _
  decide +kernel

/-- A key that no parameter carries is passed on. -/
theorem current_shows_repeated_key :
    IsServiceKey sampleKey ∧ ¬sampleKey.ShownIn "Paris" ∧ ∃ failure,
      ((refusing "internal error for api key 0123456789abcdef0123456789abcdef").current
        "Paris" ()).1 = .ends .zero (.error failure) ∧ sampleKey.ShownIn failure.message := by
  have hcity : ¬sampleKey.ShownIn "Paris" := by decide
  refine ⟨sampleKey_isServiceKey, hcity, _,
    current_of_refusal _ (by decide) (refusing_answers _) (by decide), ?_⟩
  refine (shownIn_refusal_iff sampleKey_isServiceKey (by decide) (by decide)).mpr
    ⟨by decide, by decide, "internal error for api key 0123456789abcdef0123456789abcdef", ?_, ?_⟩
  · decide +kernel
  · decide +kernel

end Weather

end ToolAssistant
