import Malincam.Pipeline.Session
import Malincam.Uvc.Endpoint

/-!
# What the host hears in a run

Starts, stops, polls, pumps and data packets come between the setup packets, and none of them shows in a
response.
-/

open Base

namespace Malincam

def setupOf : Action → Option UsbCtrlRequest
  | .event ⟨.setup req, _, _, _⟩ => some req
  | _ => none

/-- The response that an action sends, if it sends one. -/
def responseTo (p : Pipeline) : Action → List (Int × List UInt8)
  | .event ⟨.setup req, _, _, sendResponse⟩ =>
    match processEventSetup sendResponse req p.uvc with
    | .ok (_, response, _) => [response.packet]
    | .error _ => []
  | _ => []

/-- The gadget is in a state of the endpoint. -/
structure AtEndpoint (p : Pipeline) (code : BitVec 8) : Prop where
  unbound : p.uvc.vcPuBrightness = none
  code : p.uvc.bRequestErrorCode = code

section Endpoint

variable {p p' : Pipeline} {code : BitVec 8}

theorem AtEndpoint.same (h : AtEndpoint p code) (hsame : SameGadget p p') : AtEndpoint p' code :=
  ⟨by rw [hsame.uvc, h.unbound], by rw [hsame.uvc, h.code]⟩

theorem AtEndpoint.event (h : AtEndpoint p code) {c : EventCall} {result : Int}
    (hsetup : ∀ req, c.event ≠ .setup req) (hp : processEvent c p = .ok (p', result)) :
    AtEndpoint p' code := by
  cases processEvent_processed hp with
  | ignored => exact h
  | started hevent =>
    exact h.same (processEvent_quiet hp (by rw [hevent]; trivial))
  | stopped hevent =>
    exact h.same (processEvent_quiet hp (by rw [hevent]; trivial))
  | setup hevent => exact absurd hevent (hsetup _)
  | data hevent hdata =>
    obtain ⟨rfl, -⟩ := processEventData_cases hdata
    exact ⟨h.unbound, h.code⟩

theorem act_realizes_endpoint : Realizes act responseTo endpoint setupOf AtEndpoint where
  quiet p code a h hinput := by
    cases a with
    | poll i => exact ⟨rfl, fun p' hp => h.same (pipelinePoll_gadget hp)⟩
    | pump id call => exact ⟨rfl, fun p' hp => h.same (pumpIfReady_gadget hp)⟩
    | event c =>
      obtain ⟨event, prepare, nodes, sendResponse⟩ := c
      cases event with
      | setup req => cases hinput
      | connect | disconnect | streamon | streamoff | data data | other type =>
        refine ⟨rfl, fun p' hp => ?_⟩
        obtain ⟨⟨p₁, result⟩, hprocess, heq⟩ := bind_eq_ok hp
        cases heq
        exact h.event (fun _ => by simp) hprocess
  answers p code a req h hinput := by
    cases a with
    | poll i | pump id call => cases hinput
    | event c =>
      obtain ⟨event, prepare, nodes, sendResponse⟩ := c
      cases event with
      | connect | disconnect | streamon | streamoff | data data | other type => cases hinput
      | setup req' =>
        cases hinput
        obtain ⟨uvc', response, result, hprocess, hunbound, hcode, hpacket⟩ :=
          processEventSetup_answers req sendResponse h.unbound
        rw [h.code] at hcode hpacket
        constructor
        · simp only [responseTo, hprocess, hpacket]
        · intro p' hp
          obtain ⟨⟨p₁, result'⟩, hevent, heq⟩ := bind_eq_ok hp
          cases heq
          have hsetup : processEvent ⟨.setup req, prepare, nodes, sendResponse⟩ p =
              .ok ({ p with uvc := uvc' }, result) := by
            unfold processEvent
            dsimp only
            rw [hprocess]
            rfl
          rw [hsetup] at hevent
          cases hevent
          exact ⟨hunbound, hcode⟩

end Endpoint

/-- In a run of any actions, each setup packet is answered by the table of offers, from its own bytes and the
error code of the setup packet before it. -/
theorem responses_by_table {r : CreateReplies} {p₀ p : Pipeline}
    (hcreate : pipelineCreate r = .ok (some p₀)) {as : List Action} (hrun : run act p₀ as = .ok p) :
    emitted act responseTo p₀ as =
      List.zipWith endpoint.output (0 :: (as.filterMap setupOf).map codeOf) (as.filterMap setupOf) := by
  obtain ⟨-, huvc⟩ := pipelineCreate_uvc hcreate
  have hstart : AtEndpoint p₀ 0 := by
    rw [uvcOpened] at huvc
    exact ⟨by rw [huvc], by rw [huvc]⟩
  rw [(act_realizes_endpoint.emitted hstart hrun).1]
  exact Mealy.outputs_of_forgets (fun _ _ => rfl) _ _

def setupAction (req : UsbCtrlRequest) : Action :=
  .event ⟨.setup req, supportingDriver 3, obligingNodes, none⟩

/-- The host asks for what is offered, then for a control that is not there, and then why that failed. -/
def hostActions : List Action :=
  [ setupAction ⟨0xa1, uvcGetCur, 0x0100, 0x0001, 34⟩, setupAction ⟨0xa1, uvcGetCur, 0x0300, 0x0001, 1⟩,
    setupAction ⟨0xa1, uvcGetCur, 0x0200, 0x0000, 1⟩ ]

theorem responses_by_table_host :
    ∃ p₀ p, pipelineCreate supportingHost = .ok (some p₀) ∧ run act p₀ hostActions = .ok p ∧
      emitted act responseTo p₀ hostActions =
        List.zipWith endpoint.output (0 :: (hostActions.filterMap setupOf).map codeOf)
          (hostActions.filterMap setupOf) :=
  ⟨_, _, rfl, rfl, @responses_by_table supportingHost _ _ rfl hostActions rfl⟩

end Malincam
