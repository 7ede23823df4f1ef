import ResistorCutter.ResponseChecks
import ResistorCutter.PortalChecks

/-!
Every response of the portal is a reply that a client reads back.
-/

namespace ResistorCutter

/-! The length of a page. -/

namespace Webpages

/-- The numbers on the page are of the type `int`. -/
def Ints (pages : Webpages) : Prop :=
  (-2147483648 ≤ pages.rPerKit ∧ pages.rPerKit < 2147483648) ∧
    -2147483648 ≤ pages.kits ∧ pages.kits < 2147483648

instance (pages : Webpages) : Decidable pages.Ints := inferInstanceAs (Decidable (_ ∧ _))

/-- A length compared without a number as large as the length. -/
def within : Nat → List Char → Bool
  | _, [] => true
  | 0, _ :: _ => false
  | n + 1, _ :: rest => within n rest

theorem length_of_within {n : Nat} {text : List Char} (holds : within n text = true) :
    text.length ≤ n := by
  induction text generalizing n with
  | nil => simp
  | cons c rest ih =>
      cases n with
      | zero => simp [within] at holds
      | succ n => exact Nat.succ_le_succ (ih holds)

theorem mainHTML_length : mainHTML.toList.length ≤ 4000 := by
  apply length_of_within
  rw [mainHTML, String.toList_ofList]
  decide +kernel

theorem getCaptiveHTML_length : getCaptiveHTML.length ≤ 4000 := by
  apply length_of_within
  rw [getCaptiveHTML, captiveHTML, String.toList_ofList]
  decide +kernel

theorem getSuccessHTML_length : getSuccessHTML.length ≤ 4000 := by
  apply length_of_within
  rw [getSuccessHTML, successHTML, String.toList_ofList]
  decide +kernel

theorem getMainHTML_length {pages : Webpages} (ints : pages.Ints) :
    pages.getMainHTML.length ≤ 5000 := by
  obtain ⟨⟨rPerKitLower, rPerKitUpper⟩, kitsLower, kitsUpper⟩ := ints
  have rPerKit := decimal_short rPerKitLower rPerKitUpper
  have kits := decimal_short kitsLower kitsUpper
  have cuttingClass : (cuttingClass pages.running).length ≤ 10 := by
    rw [Webpages.cuttingClass]
    split
    · decide
    · split <;> decide
  have cuttingText : (cuttingText pages.running).length ≤ 11 := by
    rw [Webpages.cuttingText]
    split
    · decide
    · split <;> decide
  -- for any template: the literal is too long to be unfolded
  have filled (template : List Char) :
      (Template.replaceFirst "\x7b\x7bcuttingText\x7d\x7d".toList
        (Webpages.cuttingText pages.running)
        (Template.replaceFirst "\x7b\x7bcuttingClass\x7d\x7d".toList
          (Webpages.cuttingClass pages.running)
          (Template.replaceFirst "\x7b\x7bkits\x7d\x7d".toList (decimal pages.kits)
            (Template.replaceFirst "\x7b\x7brPerKit\x7d\x7d".toList (decimal pages.rPerKit)
              template)))).length ≤ template.length + 43 := by
    refine (Template.replaceFirst_length ..).trans ?_
    have third := Template.replaceFirst_length "\x7b\x7bcuttingClass\x7d\x7d".toList
      (Webpages.cuttingClass pages.running)
      (Template.replaceFirst "\x7b\x7bkits\x7d\x7d".toList (decimal pages.kits)
        (Template.replaceFirst "\x7b\x7brPerKit\x7d\x7d".toList (decimal pages.rPerKit) template))
    have second := Template.replaceFirst_length "\x7b\x7bkits\x7d\x7d".toList (decimal pages.kits)
      (Template.replaceFirst "\x7b\x7brPerKit\x7d\x7d".toList (decimal pages.rPerKit) template)
    have first := Template.replaceFirst_length "\x7b\x7brPerKit\x7d\x7d".toList
      (decimal pages.rPerKit) template
    omega
  rw [getMainHTML, Pages.fillMainHTML_htmlCopy]
  exact (filled mainHTML.toList).trans (Nat.add_le_add_right mainHTML_length 43 |>.trans (by omega))

end Webpages

/-! The responses of the portal. -/

inductive Response.Served : Response → Prop
  | redirect (url : String) (known : url ∈ [localIPURL, "http://logout.net"]) :
      Served (Response.redirect url)
  | empty (code : Nat) (known : code ∈ [200, 404]) : Served (Response.empty code)
  | page (content : List Char) (short : content.length ≤ 5000) : Served (Response.page content)

theorem codes_known : ∀ handler ∈ onNotFound :: setUpWebserver, ∀ code,
    handler.action = .send code → code ∈ [200, 404] := by
  simp [setUpWebserver, onNotFound, eq_comm]

namespace LocalHost

theorem processRequest_served {localHost : LocalHost} (ints : localHost.webpages.Ints)
    (request : Request) : (localHost.processRequest request).1.Served := by
  rw [processRequest]
  split
  · exact .empty 404 (by decide)
  · split
    · exact .page _ (Webpages.getMainHTML_length ints)
    · split
      · exact .page _ (Webpages.getSuccessHTML_length.trans (by omega))
      · exact .page _ (Webpages.getCaptiveHTML_length.trans (by omega))

theorem serve_served {localHost : LocalHost} (ints : localHost.webpages.Ints)
    (request : HttpRequest) : (localHost.serve request).1.Served := by
  have member := attachHandler_mem request.url
  rw [serve, handleRequest]
  cases action : (attachHandler request.url).action with
  | redirect url =>
      refine .redirect url ?_
      rcases redirects_known _ member url action with rfl | rfl
      · exact List.mem_cons_self
      · exact List.mem_cons_of_mem _ List.mem_cons_self
  | send code => exact .empty code (codes_known _ member code action)
  | processRequest => exact processRequest_served ints request.toRequest

theorem serve_webpages (localHost : LocalHost) (request : HttpRequest) :
    (localHost.serve request).2.webpages = localHost.webpages := by
  rw [serve, handleRequest]
  split
  · rfl
  · rfl
  · rw [processRequest]
    split
    · rfl
    · split
      · rfl
      · split <;> rfl

end LocalHost

namespace Response

/-- The parts of the head that do not depend on the length of the content. -/
def PlainHead (version : Nat) (response : Response) : Prop :=
  ('\r' ∉ (response.reply version).reason ∧ (response.reply version).statusLine.length ≤ 297) ∧
    ∀ field ∈ (response.fields version).tail, field.Valid ∧ field.text.length ≤ 299

instance (version : Nat) (response : Response) : Decidable (response.PlainHead version) :=
  inferInstanceAs (Decidable (_ ∧ _))

theorem lengthField_valid (n : Nat) :
    Http.Field.Valid ("Content-Length".toList, Nat.toDigits 10 n) := by
  have visible (c : Char) (member : c ∈ Nat.toDigits 10 n) : ' ' < c := by
    have digit := Nat.isDigit_of_mem_toDigits (by omega) (by omega) member
    simp only [Char.isDigit, Bool.and_eq_true, decide_eq_true_eq] at digit
    exact UInt32.lt_of_lt_of_le (by decide : ' '.val < '0'.val) digit.1
  have named : "Content-Length".toList ≠ [] := by decide
  have name : ∀ c ∈ "Content-Length".toList, ' ' < c ∧ c ≠ ':' := by decide
  refine ⟨named, name, ?_, ?_, ?_⟩
  · intro c member
    have shown := visible c member
    refine ⟨?_, ?_, ?_⟩ <;> rintro rfl <;> revert shown <;> decide
  · intro start
    have shown := visible ' ' (List.mem_of_mem_head? start)
    revert shown
    decide
  · intro c last
    exact visible c (List.mem_of_mem_getLast? last)

theorem PlainHead.valid {version : Nat} {response : Response} (plain : response.PlainHead version) :
    (response.reply version).Valid where
  reason := plain.1.1
  fields := by
    intro field member
    rcases List.mem_cons.mp member with rfl | other
    · exact lengthField_valid _
    · exact (plain.2 field other).1
  length := by
    have named : Texts.sameLetters "Content-Length".toList "Content-Length".toList = true := by
      decide
    have first : (response.fields version).find?
        (fun field => Texts.sameLetters field.1 "Content-Length".toList) =
        some ("Content-Length".toList, Nat.toDigits 10 response.content.length) :=
      List.find?_cons_of_pos named
    simp only [reply, Http.contentLength, first, Option.map_some, Http.readNumber_all_digits]

theorem PlainHead.short {version : Nat} {response : Response} (plain : response.PlainHead version)
    (bounded : response.content.length ≤ 5000) : response.Short version where
  status := plain.1.2
  fields := by
    intro field member
    rcases List.mem_cons.mp member with rfl | other
    · have digits : (Nat.toDigits 10 response.content.length).length ≤ 4 :=
        (Nat.length_toDigits_le_iff (by omega) (by omega)).mpr (by omega)
      have name : "Content-Length".toList.length = 14 := by decide
      simp only [Http.Field.text, List.length_append, Http.colon, Http.crlf, List.length_cons,
        List.length_nil, name]
      omega
    · exact (plain.2 field other).2

theorem page_plainHead (version : Nat) (content : List Char)
    (plain : (page []).PlainHead version) : (page content).PlainHead version := by
  have typed (content : List Char) :
      (AsyncBasicResponse.ofResponse (page content))._contentType = "text/html" := by
    simp [AsyncBasicResponse.ofResponse, AsyncBasicResponse.construct, page,
      AsyncBasicResponse.addHeader]
  have tail : ((page content).fields version).tail = ((page []).fields version).tail := by
    rw [fields, fields, typed, typed]
    rfl
  exact ⟨plain.1, fun field member => plain.2 field (tail ▸ member)⟩

theorem Served.bounded {response : Response} (served : response.Served) :
    response.content.length ≤ 5000 := by
  cases served with
  | redirect url known => exact Nat.zero_le _
  | empty code known => exact Nat.zero_le _
  | page content short => exact short

theorem Served.plainHead {response : Response} (served : response.Served) {version : Nat}
    (known : version < 2) : response.PlainHead version := by
  cases served with
  | redirect url among =>
      have closed : ∀ version < 2, ∀ url ∈ [localIPURL, "http://logout.net"],
          (Response.redirect url).PlainHead version := by decide
      exact closed version known url among
  | empty code among =>
      have closed : ∀ version < 2, ∀ code ∈ [200, 404],
          (Response.empty code).PlainHead version := by decide
      exact closed version known code among
  | page content short =>
      have closed : ∀ version < 2, (Response.page []).PlainHead version := by decide
      exact page_plainHead version content (closed version known)

end Response

end ResistorCutter
