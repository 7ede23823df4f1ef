import ResistorCutter.PortalChecks
import ResistorCutter.RefreshChecks
import ResistorCutter.SketchChecks

/-!
The numbers that the web server puts into the status page are those of `Interface`, after every
operation, at every call of the button listener, and whatever the server does in between.
-/

namespace ResistorCutter

namespace Interface

structure PageMatches (interface : Interface) : Prop where
  rPerKit : interface.localHost.webpages.rPerKit = interface.getResistorsPerKit
  kits : interface.localHost.webpages.kits = interface.getKits
  running : interface.localHost.webpages.running = interface.getRunningStatus

theorem refresh_pageMatches (interface : Interface) : interface.refresh.PageMatches :=
  ⟨rfl, rfl, rfl⟩

theorem SameShown.pageMatches {before after : Interface} (same : SameShown before after)
    (matched : before.PageMatches) : after.PageMatches := by
  refine ⟨?_, ?_, ?_⟩
  · rw [same.localHost, matched.rPerKit, getResistorsPerKit, getResistorsPerKit, same.rPerKit]
  · rw [same.localHost, matched.kits, getKits, getKits, same.kits]
  · rw [same.localHost, matched.running, getRunningStatus, getRunningStatus, same.running]

theorem perform_pageMatches (interface : Interface) (operation : Operation)
    (matched : interface.PageMatches) : (interface.perform operation).PageMatches := by
  refine interface.perform_keeps (fun same => same.pageMatches)
    (fun _ _ => refresh_pageMatches _) ?_ matched
  intro percent readings _ active _ safe
  rw [updateStatus_active _ percent active]
  exact ⟨safe.rPerKit, safe.kits, safe.running⟩

inductive Activity
  | operation (operation : Operation)
  | request (request : Request)
  | disconnected

def react (interface : Interface) : Activity → Interface
  | .operation operation => interface.perform operation
  | .request request =>
      { interface with localHost := (interface.localHost.processRequest request).2 }
  | .disconnected => { interface with localHost := interface.localHost.disconnected }

theorem processRequest_webpages (localHost : LocalHost) (request : Request) :
    (localHost.processRequest request).2.webpages = localHost.webpages := by
  simp only [LocalHost.processRequest]
  split
  · rfl
  · split
    · rfl
    · split <;> rfl

theorem react_pageMatches (interface : Interface) (activity : Activity)
    (matched : interface.PageMatches) : (interface.react activity).PageMatches := by
  cases activity with
  | operation operation => exact interface.perform_pageMatches operation matched
  | request request =>
      have same := processRequest_webpages interface.localHost request
      exact ⟨same ▸ matched.rPerKit, same ▸ matched.kits, same ▸ matched.running⟩
  | disconnected => exact ⟨matched.rPerKit, matched.kits, matched.running⟩

theorem getMainHTML_eq (interface : Interface) (percent : Int) (matched : interface.PageMatches) :
    interface.localHost.webpages.getMainHTML =
      Webpages.getMainHTML ⟨interface.getResistorsPerKit, interface.getKits, percent,
        interface.getRunningStatus⟩ := by
  rw [Webpages.getMainHTML, Webpages.getMainHTML, Pages.fillMainHTML_htmlCopy,
    Pages.fillMainHTML_htmlCopy, matched.rPerKit, matched.kits, matched.running]

/-- After construction in any memory, whatever is done to the object and asked of the server,
the page's numbers are the object's, and a redirect is answered with the page of these. An
`update` that calls the listener hands it the state that it returns, and the listener's own
operations follow it in the list. -/
theorem status_page_coherent (power : PowerUp) (memory : Interface) (activities : List Activity) :
    (Runs.run react (construct power memory) activities).PageMatches ∧
      ∀ request : Request, contains "citrix".toList request.host = false →
        request.hasParam "redirect" = true → ∀ percent,
        ((Runs.run react (construct power memory) activities).localHost.processRequest
            request).1 =
          Response.page (Webpages.getMainHTML
            ⟨(Runs.run react (construct power memory) activities).getResistorsPerKit,
              (Runs.run react (construct power memory) activities).getKits, percent,
              (Runs.run react (construct power memory) activities).getRunningStatus⟩) := by
  have matched : (Runs.run react (construct power memory) activities).PageMatches :=
    Runs.invariant_run_always react_pageMatches (refresh_pageMatches _) activities
  refine ⟨matched, ?_⟩
  intro request other redirect percent
  rw [processRequest_redirect _ request other redirect, getMainHTML_eq _ percent matched]

end Interface

open Interface

def adjustments : List Activity :=
  [.operation (.update (-1) (Input.tilted .vrX 4095).readings), .operation (.setPausedStatus true)]

def redirect : Request := ⟨"www.neverssl.com".toList, [⟨"redirect", false, false⟩]⟩

theorem status_page_served_adjusted :
    ((Runs.run react (construct .released (zeroed .released)) adjustments).localHost.processRequest
      redirect).1 = Response.page (Webpages.getMainHTML ⟨2, 1, 0, 2⟩) := by
  have numbers : (⟨(Runs.run react (construct .released (zeroed .released))
        adjustments).getResistorsPerKit,
      (Runs.run react (construct .released (zeroed .released)) adjustments).getKits, 0,
      (Runs.run react (construct .released (zeroed .released)) adjustments).getRunningStatus⟩ :
        Webpages) = ⟨2, 1, 0, 2⟩ := by decide +kernel
  rw [← numbers]
  exact (status_page_coherent .released (zeroed .released) adjustments).2 redirect (by decide)
    (by decide) 0

end ResistorCutter
