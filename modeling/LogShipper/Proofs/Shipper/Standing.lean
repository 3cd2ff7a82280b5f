import LogShipper.Proofs.Shipper.Agreement
import LogShipper.Proofs.Shipper.Counting

/-!
# Shippers at any time of their lives

Whatever was called on a shipper, it keeps the settings that it was made with.  Once it has a client
it keeps that too: the client is the one that the settings name, in one session, and it is closed
exactly if the shipper was stopped.
-/

namespace LogShipper

/-- A client for the server and with the api key that the settings name. -/
structure Client.IsFor (config : Config) (client : Client) : Prop where
  url : Endpoint.ofJson config.url = .ok client.url
  apiKey : client.apiKey = config.apiKey
  timeout : client.timeout = config.requestTimeout

theorem Client.IsFor.of_fixed {config : Config} {a b : Client} (h : b.IsFor config)
    (hfixed : a.fixed = b.fixed) : a.IsFor config := by
  rw [Client.eq_of_fixed hfixed] at h
  exact ⟨h.url, h.apiKey, h.timeout⟩

namespace Shipper

variable {config : Config} {shipper : Shipper} {services : Services}

/-! ## 1. One call -/

/-- The requests that a step sent. -/
def sentBy (services : Services) (step : ShipperStep) : List Request :=
  step.services.transport.sent.drop services.transport.sent.length

theorem eventOf_eq (shipper : Shipper) (services : Services) (call : ShipperCall) :
    shipper.eventOf services call =
      ⟨call, shipper.isRunning, (shipper.perform services call).result,
        sentBy services (shipper.perform services call)⟩ := rfl

/-- A shipper with the settings that it was made with, and with a client that they name. -/
structure Stands (config : Config) (shipper : Shipper) : Prop where
  settings : shipper.config = config
  client : ∀ client, shipper.client = some client →
    client.IsFor config ∧ client.isClosed = shipper.isStopped

theorem Stands.of_agrees {a b : Shipper} (h : b.Stands config) (hagrees : a.Agrees b) :
    a.Stands config where
  settings := hagrees.config.trans h.settings
  client client hclient := by
    obtain ⟨other, hother, hfixed⟩ := hagrees.exists_client hclient
    obtain ⟨hfor, hclosed⟩ := h.client other hother
    have hsame := congrArg Client.isClosed hfixed
    refine ⟨hfor.of_fixed hfixed, ?_⟩
    rw [hagrees.isStopped, ← hclosed]
    exact hsame

theorem Stands.start (h : shipper.Stands config) :
    (shipper.start services).shipper.Stands config := by
  have hstart := start_cases shipper services
  generalize shipper.start services = step at hstart
  cases hstart with
  | refused hbefore => exact h
  | failed hclient hstopped hurl => exact h
  | started hclient hstopped hurl =>
    refine ⟨h.settings, fun client hnew => ?_⟩
    obtain rfl := Option.some.inj hnew
    rw [h.settings] at hurl
    refine ⟨⟨hurl, ?_, ?_⟩, hstopped.symm⟩
    · rw [h.settings]
    · rw [h.settings]

theorem Stands.stop (h : shipper.Stands config) :
    (shipper.stop services).shipper.Stands config := by
  have hstop := stop_cases shipper services
  have hstopped : shipper.stopped.Stands config := by
    refine ⟨h.settings, fun client hclient => ?_⟩
    obtain ⟨open?, hopen, rfl⟩ := Option.map_eq_some_iff.1 hclient
    have hfor := (h.client open? hopen).1
    exact ⟨⟨hfor.url, hfor.apiKey, hfor.timeout⟩, rfl⟩
  generalize shipper.stop services = step at hstop
  cases hstop with
  | again _ => exact h
  | unmeasured _ clock => exact hstopped
  | measured _ notice? clock => exact hstopped

theorem Stands.perform (h : shipper.Stands config) (services : Services) (call : ShipperCall) :
    (shipper.perform services call).shipper.Stands config := by
  cases call with
  | start => exact h.start
  | put records => exact h.of_agrees (agrees_put shipper records services)
  | stop => exact h.stop
  | snapshot => exact h

/-! ## 2. Lives -/

theorem stands_create (config : Config) (services : Services) :
    (create config services).1.Stands config :=
  ⟨rfl, nofun⟩

theorem stands_life (config : Config) (services : Services) (calls : List ShipperCall) :
    (life config services calls).2.1.Stands config :=
  life_induction (fun _ shipper _ => shipper.Stands config) (stands_create config services)
    (fun _ _ services call h => h.perform services call) calls

end Shipper

end LogShipper
