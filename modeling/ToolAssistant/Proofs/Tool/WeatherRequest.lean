import ToolAssistant.Proofs.Http.Url
import ToolAssistant.Proofs.Tool.Weather

/-!
# What the weather service is asked

The name of a city comes from whoever calls the tool, and it goes into one request together with the
key and the units.  Whatever it is, the service reads it as the one value that it is meant to be:
nothing in it ends the value or adds another pair (`current_asks_once`).

## Strategy

The client is replaced by one that notes what is sent.  The address of the service can be read and
has no query of its own, so the query of the request is the form with the three pairs, and a form is
read back as what was written.
-/

namespace ToolAssistant

variable {σ : Type}

/-- The same client in a world that holds the requests that were sent. -/
def Http.Client.noting (client : Http.Client σ) : Http.Client (σ × List Http.Request) :=
  fun request state =>
    ((client request state.1).1, (client request state.1).2, state.2 ++ [request])

namespace Weather

namespace Service

/-- The same service in a world that holds the requests that were sent. -/
def noting (service : Service σ) : Service (σ × List Http.Request) where
  client := service.client.noting
  baseUrl := service.baseUrl
  units := service.units
  key := service.key
  timeout := service.timeout

variable (service : Service σ) {city : String}

/-- A city with a name is asked for at the address of the service. -/
theorem current_of_named_city (hnamed : Text.isBlankText city = false) {url : Http.Url}
    (haddress : Http.Url.read? service.address = some url) (world : σ) :
    service.current city world =
      (((service.client (service.request (Text.trim city) url) world).1.map
          (report (Text.trim city) service.units)).deadline service.timeout
        (.error (.toolTimeout service.timeout)),
        (service.client (service.request (Text.trim city) url) world).2) := by
  have hempty : ¬(Text.trim city).isEmpty = true := by
    rw [Text.isEmpty_trim, hnamed]
    exact Bool.false_ne_true
  have hwellFormed : (service.request (Text.trim city) url).isWellFormed = true := rfl
  unfold current
  rw [if_neg hempty]
  unfold Http.Client.request
  rw [haddress]
  dsimp only
  rw [if_pos hwellFormed]

theorem noting_current_of_named_city (hnamed : Text.isBlankText city = false) {url : Http.Url}
    (haddress : Http.Url.read? service.address = some url) (world : σ)
    (sent : List Http.Request) :
    service.noting.current city (world, sent) =
      ((service.current city world).1, (service.current city world).2,
        sent ++ [service.request (Text.trim city) url]) := by
  rw [current_of_named_city service hnamed haddress,
    current_of_named_city service.noting hnamed haddress]
  rfl

end Service

/-- **A city is only a city**: for a city with a name one request is made, and its query is read as
the trimmed name, the key and the units; for a blank one there is an error and no request. -/
theorem current_asks_once {service : Service σ} (hbase : Http.Url.IsBase service.baseUrl)
    (city : String) (world : σ) (sent : List Http.Request) :
    (Text.isBlankText city = true →
      service.noting.current city (world, sent) =
        (.ends .zero (.error (.toolArgument toolName "city must not be empty")), world, sent)) ∧
      (Text.isBlankText city = false → ∃ request,
        service.noting.current city (world, sent) =
          ((service.current city world).1, (service.current city world).2, sent ++ [request]) ∧
        request.method = .get ∧
        Http.readForm? (Http.Url.queryOf request.url.target) =
          some [("q", Text.trim city), ("appid", service.key.exposed),
            ("units", service.units)]) := by
  refine ⟨fun hblank => current_of_blank service.noting hblank (world, sent), ?_⟩
  intro hnamed
  have hresource : ∀ c ∈ "/weather".toList, 0x20 < c.toNat ∧ Http.Url.endsPath c = false :=
    Http.Url.plain_of_all (by decide)
  obtain ⟨url, haddress, hquery, hpath⟩ := Http.Url.read?_resource hbase (by decide) hresource
  refine ⟨service.request (Text.trim city) url,
    service.noting_current_of_named_city hnamed haddress world sent, rfl, ?_⟩
  show Http.readForm? (Http.Url.queryOf (url.withForm _).target) = _
  rw [Http.Url.queryOf_target_withForm hquery hpath]
  exact Http.readForm?_formPairs (List.cons_ne_nil _ _)

/-- A service that never answers. -/
def silent : Service Unit where
  client _ world := (.never, world)
  baseUrl := "http://localhost/data/"
  units := "metric"
  key := ⟨"secret"⟩
  timeout := defaultTimeout

/-- A city that looks like further pairs. -/
theorem current_asks_once_forged :
    Http.Url.IsBase silent.baseUrl ∧
      ∃ request, (silent.noting.current " Paris&appid=mine#é+ " ((), [])).2 = ((), [request]) ∧
        Http.readForm? (Http.Url.queryOf request.url.target) =
          some [("q", "Paris&appid=mine#é+"), ("appid", "secret"), ("units", "metric")] := by
  have hplain := Http.Url.plain_of_all (show silent.baseUrl.toList.all _ = true by decide)
  have hbase : Http.Url.IsBase silent.baseUrl := by
    refine ⟨by decide +kernel, fun c hc => (hplain c hc).2, ?_⟩
    intro c hc
    obtain rfl : '/' = c := Option.some.inj hc
    decide
  obtain ⟨-, hnamed⟩ := current_asks_once hbase " Paris&appid=mine#é+ " () []
  obtain ⟨request, hrun, -, hpairs⟩ := hnamed (by decide)
  have htrim : Text.trim " Paris&appid=mine#é+ " = "Paris&appid=mine#é+" := by decide
  rw [htrim] at hpairs
  refine ⟨hbase, request, ?_, hpairs⟩
  rw [hrun]
  rfl

end Weather

end ToolAssistant
