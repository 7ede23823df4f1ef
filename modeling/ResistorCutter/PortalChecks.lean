import Mathlib.Logic.Relation
import ResistorCutter.PortalCore

/-!
Whatever a client asks for first, it ends at the status page: every redirect leads to the
handler of `/`, and the link of both other pages leads to its redirect parameter.
-/

namespace ResistorCutter

open LocalHost

def portal : String := "http://www.neverssl.com/?redirect=true"

theorem captive_refreshes : refreshLink Webpages.getCaptiveHTML = some portal.toList := by
  rw [Webpages.getCaptiveHTML, Webpages.captiveHTML, portal, refreshLink, String.toList_ofList,
    String.toList_ofList, String.toList_ofList]
  decide +kernel

theorem success_refreshes : refreshLink Webpages.getSuccessHTML = some portal.toList := by
  rw [Webpages.getSuccessHTML, Webpages.successHTML, portal, refreshLink, String.toList_ofList,
    String.toList_ofList, String.toList_ofList]
  decide +kernel

theorem page_next (content : List Char) : (Response.page content).next = refreshLink content := rfl

theorem portal_to_root :
    attachHandler (HttpRequest.get portal.toList).url = ⟨"/", .processRequest⟩ ∧
      contains "citrix".toList (HttpRequest.get portal.toList).host = false ∧
      (HttpRequest.get portal.toList).hasParam "redirect" = true := by
  rw [portal, String.toList_ofList]
  decide +kernel

theorem processRequest_redirect (localHost : LocalHost) (request : Request)
    (other : contains "citrix".toList request.host = false)
    (redirect : request.hasParam "redirect" = true) :
    (localHost.processRequest request).1 =
      Response.page localHost.webpages.getMainHTML := by
  simp only [processRequest, other, redirect, Bool.false_eq_true, ↓reduceIte]

theorem processRequest_plain (localHost : LocalHost) (request : Request)
    (other : contains "citrix".toList request.host = false)
    (plain : request.hasParam "redirect" = false) :
    localHost.processRequest request =
      (Response.page (if localHost.portalOpened then Webpages.getSuccessHTML
        else Webpages.getCaptiveHTML), localHost) := by
  simp only [processRequest, other, plain, Bool.false_eq_true, ↓reduceIte]
  split <;> rfl

theorem attachHandler_mem (url : List Char) :
    attachHandler url ∈ onNotFound :: setUpWebserver := by
  rw [attachHandler]
  cases found : setUpWebserver.find? fun handler => handler.canHandle url with
  | none => simp
  | some handler => exact List.mem_cons_of_mem _ (List.mem_of_find?_eq_some found)

theorem serve_mem_browse (localHost : LocalHost) (request : HttpRequest) (n : Nat) :
    (localHost.serve request).1 ∈ localHost.browse (n + 1) request := List.mem_cons_self

theorem browse_next (localHost : LocalHost) (request : HttpRequest) (n : Nat) {url : List Char}
    (next : (localHost.serve request).1.next = some url) {response : Response}
    (later : response ∈ (localHost.serve request).2.browse n (HttpRequest.get url)) :
    response ∈ localHost.browse (n + 1) request := by
  simp only [browse, next]
  exact List.mem_cons_of_mem _ later

theorem browse_portal (localHost : LocalHost) (n : Nat) :
    Response.page localHost.webpages.getMainHTML ∈
      localHost.browse (n + 1) (HttpRequest.get portal.toList) := by
  obtain ⟨root, other, redirect⟩ := portal_to_root
  have served : (localHost.serve (HttpRequest.get portal.toList)).1 =
      Response.page localHost.webpages.getMainHTML := by
    rw [serve, root]
    exact processRequest_redirect localHost _ other redirect
  rw [← served]
  exact serve_mem_browse localHost _ n

theorem browse_root (localHost : LocalHost) (request : HttpRequest) (n : Nat)
    (root : (attachHandler request.url).action = .processRequest)
    (other : contains "citrix".toList request.host = false) :
    Response.page localHost.webpages.getMainHTML ∈ localHost.browse (n + 2) request := by
  have served : localHost.serve request = localHost.processRequest request.toRequest := by
    rw [serve, handleRequest, root]
  cases redirect : request.hasParam "redirect" with
  | true =>
      rw [← processRequest_redirect localHost request.toRequest other redirect, ← served]
      exact serve_mem_browse localHost request (n + 1)
  | false =>
      have page := processRequest_plain localHost request.toRequest other redirect
      have next : (localHost.serve request).1.next = some portal.toList := by
        rw [served, page, page_next]
        split
        · exact success_refreshes
        · exact captive_refreshes
      apply browse_next localHost request (n + 1) next
      rw [served, page]
      exact browse_portal localHost n

theorem browse_redirect (localHost : LocalHost) (request : HttpRequest) (n : Nat) (url : String)
    (redirect : (attachHandler request.url).action = .redirect url)
    (root : (attachHandler (HttpRequest.get url.toList).url).action = .processRequest)
    (other : contains "citrix".toList (HttpRequest.get url.toList).host = false) :
    Response.page localHost.webpages.getMainHTML ∈ localHost.browse (n + 3) request := by
  have served : localHost.serve request = (Response.redirect url, localHost) := by
    rw [serve, handleRequest, redirect]
  apply browse_next localHost request (n + 2)
    (show (localHost.serve request).1.next = some url.toList by rw [served]; rfl)
  rw [served]
  exact browse_root localHost _ n root other

def RedirectsTo (first second : Handler) : Prop :=
  ∃ url, first.action = .redirect url ∧ attachHandler (HttpRequest.get url.toList).url = second

theorem redirects_known : ∀ handler ∈ onNotFound :: setUpWebserver, ∀ url,
    handler.action = .redirect url → url = localIPURL ∨ url = "http://logout.net" := by
  simp [setUpWebserver, onNotFound, eq_comm]

theorem sends_known : ∀ handler ∈ onNotFound :: setUpWebserver, ∀ code,
    handler.action = .send code → handler.uri ∈ ["/wpad.dat", "/favicon.ico", "/success.txt"] := by
  simp [setUpWebserver, onNotFound]

theorem redirects_to_root (handler : Handler) (member : handler ∈ onNotFound :: setUpWebserver)
    (url : String) (redirect : handler.action = .redirect url) :
    attachHandler (HttpRequest.get url.toList).url = ⟨"/", .processRequest⟩ ∧
      contains "citrix".toList (HttpRequest.get url.toList).host = false := by
  rcases redirects_known handler member url redirect with rfl | rfl
  · decide +kernel
  · decide +kernel

/-- For any path that is not answered with a bare status code, any host but Citrix's, any query
and any state of the portal, a client that follows redirects and refresh links has the status
page after at most three requests, and no handler redirects back to itself in any number of
redirects. -/
theorem portal_converges (localHost : LocalHost) (request : HttpRequest)
    (served : (attachHandler request.url).uri ∉ ["/wpad.dat", "/favicon.ico", "/success.txt"])
    (other : contains "citrix".toList request.host = false) :
    Response.page localHost.webpages.getMainHTML ∈ localHost.browse 3 request ∧
      ∀ handler ∈ onNotFound :: setUpWebserver, ¬Relation.TransGen RedirectsTo handler handler := by
  constructor
  · have member := attachHandler_mem request.url
    cases action : (attachHandler request.url).action with
    | redirect url =>
        obtain ⟨root, host⟩ := redirects_to_root _ member url action
        exact browse_redirect localHost request 0 url action (by rw [root]) host
    | send code => exact absurd (sends_known _ member code action) served
    | processRequest =>
        exact browse_root localHost request 1 action other
  · intro handler member cycle
    obtain ⟨second, ⟨url, redirect, reached⟩, back⟩ := Relation.TransGen.head'_iff.mp cycle
    have root := (redirects_to_root handler member url redirect).1
    rw [root] at reached
    subst reached
    rcases Relation.ReflTransGen.cases_head back with same | ⟨_, ⟨_, again, _⟩, _⟩
    · rw [← same] at redirect
      simp at redirect
    · simp at again

def appleProbe : HttpRequest where
  host := "captive.apple.com".toList
  params := []
  url := "/hotspot-detect.html".toList

theorem portal_converges_appleProbe :
    Response.page (Webpages.getMainHTML ⟨3, 7, 0, 1⟩) ∈
        LocalHost.browse 3 appleProbe ⟨false, ⟨3, 7, 0, 1⟩⟩ ∧
      ∀ handler ∈ onNotFound :: setUpWebserver, ¬Relation.TransGen RedirectsTo handler handler :=
  portal_converges ⟨false, ⟨3, 7, 0, 1⟩⟩ appleProbe (by decide +kernel) (by decide)

end ResistorCutter
