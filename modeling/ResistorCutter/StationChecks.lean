import ResistorCutter.Runs
import ResistorCutter.PortalChecks

/-!
The one `portalOpened` for all stations. A station that leaves closes the portal, but a request
of it that was received before may be handled after that, and opens the portal for the next.
-/

namespace ResistorCutter

abbrev MAX_CLIENTS : Nat := 1

/-- A request for `/` as received: the association it came in on, numbered from 0. -/
structure Arrival where
  station : Nat
  request : Request

def Request.Opens (request : Request) : Prop :=
  contains "citrix".toList request.host = false ∧ request.hasParam "redirect" = true

instance (request : Request) : Decidable request.Opens := inferInstanceAs (Decidable (_ ∧ _))

/-- `received` waits to be handled; `sent` is all that was ever received, and `handled` what was
handled since the last station left. -/
structure Network where
  localHost : LocalHost
  stations : List Nat
  associations : Nat
  received : List Arrival
  sent : List Arrival
  handled : List Arrival

inductive NetworkEvent
  | associate
  | send (station : Nat) (request : Request)
  | handle (n : Nat)
  | disconnect (station : Nat)

namespace Network

def init : Network := ⟨LocalHost.construct, [], 0, [], [], []⟩

def next (network : Network) : NetworkEvent → Network
  | .associate =>
      if network.stations.length < MAX_CLIENTS then
        { network with
          stations := network.associations :: network.stations
          associations := network.associations + 1 }
      else network
  | .send station request =>
      if station ∈ network.stations then
        { network with
          received := network.received ++ [⟨station, request⟩]
          sent := network.sent ++ [⟨station, request⟩] }
      else network
  | .handle n =>
      match network.received[n]? with
      | none => network
      | some arrival =>
          { network with
            localHost := (network.localHost.processRequest arrival.request).2
            received := network.received.eraseIdx n
            handled := network.handled ++ [arrival] }
  | .disconnect station =>
      if station ∈ network.stations then
        { network with
          localHost := network.localHost.disconnected
          stations := network.stations.erase station
          handled := [] }
      else network

def run (events : List NetworkEvent) : Network := Runs.run next init events

variable (network : Network)

/-- A plain request for `/` that waits to be handled, of a station that has sent no request
with the parameter `redirect` so far. -/
structure FirstVisit (arrival : Arrival) : Prop where
  waits : arrival ∈ network.received
  plain : arrival.request.hasParam "redirect" = false
  other : contains "citrix".toList arrival.request.host = false
  unopened : ∀ earlier ∈ network.sent, earlier.station = arrival.station →
    earlier.request.hasParam "redirect" = false

def answer (arrival : Arrival) : Response :=
  (network.localHost.processRequest arrival.request).1

structure Tracks : Prop where
  opened : network.localHost.portalOpened = true ↔
    ∃ arrival ∈ network.handled, arrival.request.Opens
  received : network.received ⊆ network.sent
  handled : network.handled ⊆ network.sent

theorem processRequest_opens (localHost : LocalHost) (request : Request) :
    (localHost.processRequest request).2.portalOpened = true ↔
      localHost.portalOpened = true ∨ request.Opens := by
  cases citrix : contains "citrix".toList request.host with
  | true => simp only [LocalHost.processRequest, citrix, ↓reduceIte, Request.Opens]; simp
  | false =>
      cases redirect : request.hasParam "redirect" with
      | true => simp only [LocalHost.processRequest, citrix, redirect, Request.Opens]; simp
      | false =>
          rw [processRequest_plain localHost request citrix redirect]
          simp [Request.Opens, redirect]

theorem tracks_next (event : NetworkEvent) (tracks : network.Tracks) :
    (network.next event).Tracks := by
  cases event with
  | associate =>
      simp only [next]
      split
      · exact ⟨tracks.opened, tracks.received, tracks.handled⟩
      · exact tracks
  | send station request =>
      simp only [next]
      split
      · refine ⟨tracks.opened, ?_, ?_⟩
        · exact fun _ member => by
            simp only [List.mem_append] at member ⊢
            exact member.imp_left fun old => tracks.received old
        · exact List.Subset.trans tracks.handled (List.subset_append_left _ _)
      · exact tracks
  | handle n =>
      simp only [next]
      split
      · exact tracks
      · rename_i arrival waits
        have sent : arrival ∈ network.sent := tracks.received (List.mem_of_getElem? waits)
        refine ⟨?_, ?_, ?_⟩
        · rw [processRequest_opens, tracks.opened]
          simp only [List.mem_append, List.mem_singleton]
          grind
        · exact fun _ member => tracks.received (List.mem_of_mem_eraseIdx member)
        · exact List.append_subset.mpr ⟨tracks.handled, by simpa using sent⟩
  | disconnect station =>
      simp only [next]
      split
      · refine ⟨?_, tracks.received, by simp⟩
        simp [LocalHost.disconnected]
      · exact tracks

theorem tracks_run (events : List NetworkEvent) : (run events).Tracks := by
  refine Runs.invariant_run_always (fun network event tracks => tracks_next network event tracks)
    ?_ events
  exact ⟨by simp [init, LocalHost.construct], by simp [init], by simp [init]⟩

/-- Since the last station left, no request of another station was handled that opens the
portal. -/
def ClosedFor (arrival : Arrival) : Prop :=
  ∀ other ∈ network.handled, other.station ≠ arrival.station → ¬other.request.Opens

theorem captive_ne_success : Webpages.getCaptiveHTML ≠ Webpages.getSuccessHTML := by
  rw [Webpages.getCaptiveHTML, Webpages.getSuccessHTML, Webpages.captiveHTML, Webpages.successHTML,
    String.toList_ofList, String.toList_ofList]
  decide +kernel

theorem page_injective : Function.Injective Response.page := by
  intro first second same
  simpa [Response.page] using same

/-- In every run of associations, requests, departures and handlings in any order, a station that
has sent no redirect request gets the captive page for a plain request, and not the success page,
if and only if no such request of another station was handled since the last one left. -/
theorem captive_page_first_iff (events : List NetworkEvent) (arrival : Arrival)
    (first : (run events).FirstVisit arrival) :
    ((run events).answer arrival = Response.page Webpages.getCaptiveHTML ↔
        (run events).ClosedFor arrival) ∧
      ((run events).answer arrival ≠ Response.page Webpages.getSuccessHTML ↔
        (run events).ClosedFor arrival) := by
  have tracks := tracks_run events
  have closed : (run events).localHost.portalOpened = false ↔ (run events).ClosedFor arrival := by
    rw [← Bool.not_eq_true, tracks.opened]
    constructor
    · intro none other member _ opens
      exact none ⟨other, member, opens⟩
    · rintro closed ⟨other, member, opens⟩
      by_cases own : other.station = arrival.station
      · have plain := first.unopened other (tracks.handled member) own
        simp [Request.Opens, plain] at opens
      · exact closed other member own opens
  rw [answer, processRequest_plain _ _ first.other first.plain, ← closed]
  cases opened : (run events).localHost.portalOpened with
  | true => simp [page_injective.eq_iff, captive_ne_success.symm]
  | false => simp [page_injective.eq_iff, captive_ne_success]

end Network

open Network

def portalRequest : Request := ⟨"www.neverssl.com".toList, [⟨"redirect", false, false⟩]⟩

def plainRequest : Request := ⟨"captive.apple.com".toList, []⟩

def orderly : List NetworkEvent :=
  [.associate, .send 0 portalRequest, .handle 0, .disconnect 0, .associate, .send 1 plainRequest]

def overtaken : List NetworkEvent :=
  [.associate, .send 0 portalRequest, .disconnect 0, .handle 0, .associate, .send 1 plainRequest]

theorem firstVisit_orderly : (run orderly).FirstVisit ⟨1, plainRequest⟩ :=
  ⟨List.mem_of_getElem? (i := 0) rfl, by decide, by decide, by decide +kernel⟩

theorem firstVisit_overtaken : (run overtaken).FirstVisit ⟨1, plainRequest⟩ :=
  ⟨List.mem_of_getElem? (i := 0) rfl, by decide, by decide, by decide +kernel⟩

theorem captive_page_after_departure :
    ((run orderly).answer ⟨1, plainRequest⟩ = Response.page Webpages.getCaptiveHTML ↔
        (run orderly).ClosedFor ⟨1, plainRequest⟩) ∧
      ((run orderly).answer ⟨1, plainRequest⟩ ≠ Response.page Webpages.getSuccessHTML ↔
        (run orderly).ClosedFor ⟨1, plainRequest⟩) :=
  captive_page_first_iff orderly ⟨1, plainRequest⟩ firstVisit_orderly

theorem late_redirect_opens_portal :
    ¬∀ (events : List NetworkEvent) (arrival : Arrival), (run events).FirstVisit arrival →
      arrival.station ∈ (run events).stations →
      (run events).answer arrival = Response.page Webpages.getCaptiveHTML := by
  intro all
  have captive := all overtaken ⟨1, plainRequest⟩ firstVisit_overtaken (by decide)
  have opened : (run overtaken).localHost.portalOpened = true := by decide +kernel
  rw [answer, processRequest_plain _ _ firstVisit_overtaken.other firstVisit_overtaken.plain,
    opened, if_pos rfl] at captive
  exact captive_ne_success (page_injective captive).symm

end ResistorCutter
