import TrackerTraffic.Capture.Document
import TrackerTraffic.Adapter.Basic
import TrackerTraffic.Proofs.QueryPlace
import TrackerTraffic.Proofs.Traversal
import TrackerTraffic.Proofs.UrlBare

/-!
# Requests of captures

Every entry of a capture becomes one request, or the first entry without a URL or a body
decides.  The endpoint of a request is made of parts of its URL that start no query and no
fragment and follow no user name, so it is the same for URLs that differ in these only.
-/

namespace TrackerTraffic

open Url

/-! ### Endpoints -/

namespace Url

/-- What stands between the slashes and the path of an endpoint. -/
def authority (u : Url) : String :=
  u.hostText ++ match u.port with
    | some n => ":" ++ toString n
    | none => ""

theorem endpoint_eq (u : Url) : u.endpoint = u.scheme ++ "://" ++ u.authority ++ u.path := by
  rw [endpoint, authority]
  cases u.port <;> simp only [String.append_assoc]

namespace IsClear

variable {u : Url}

theorem freeOf_authority (h : u.IsClear) : FreeOf authoritySigns u.authority.toList := by
  rw [authority, String.toList_append]
  refine h.host.append ?_
  cases u.port with
  | none => decide
  | some n =>
    have hcolon : FreeOf authoritySigns ":".toList := by decide
    rw [String.toList_append]
    exact hcolon.append (freeOf_toString n)

theorem freeOf_endpoint (h : u.IsClear) : FreeOf querySigns u.endpoint.toList := by
  have hslashes : FreeOf querySigns "://".toList := by decide
  have hauthority : ∀ cs, FreeOf authoritySigns cs → FreeOf querySigns cs :=
    fun cs hcs sign hsign => hcs sign (mem_authoritySigns sign hsign)
  rw [endpoint_eq, String.toList_append, String.toList_append, String.toList_append]
  exact (((hauthority _ h.scheme).append hslashes).append (hauthority _ h.freeOf_authority)).append
    h.path

end IsClear

end Url

/-! ### Requests of entries -/

/-- The request shows the URL with its query apart: endpoint and path start no query and no
fragment, and the authority of the endpoint has no user name. -/
structure Request.Shows (r : Request) (u : Url) : Prop where
  endpointUrl : r.endpointUrl = u.scheme ++ "://" ++ u.authority ++ u.path
  authority : '@' ∉ u.authority.toList
  endpoint : FreeOf querySigns r.endpointUrl.toList
  path : FreeOf querySigns r.path.toList
  pathOnly : r.pathOnly = r.path
  queryString : r.queryString = u.query

theorem Request.pathOnly_of_not_mem {r : Request} (h : '?' ∉ r.path.toList) :
    r.pathOnly = r.path := by
  have hall : r.path.toList.takeWhile (· != '?') = r.path.toList := by
    rw [List.takeWhile_eq_self_iff]
    intro c hc
    have hne : c ≠ '?' := fun heq => h (heq ▸ hc)
    simpa using hne
  rw [pathOnly, hall, String.ofList_toList]

theorem Request.pathQuery?_of_not_mem {r : Request} (h : '?' ∉ r.path.toList) :
    r.pathQuery? = none := by
  have hnil : r.path.toList.dropWhile (· != '?') = [] := by
    rw [List.dropWhile_eq_nil_iff]
    intro c hc
    have hne : c ≠ '?' := fun heq => h (heq ▸ hc)
    simpa using hne
  rw [pathQuery?, hnil]

theorem Request.shows_of_isClear {r : Request} {u : Url} (h : u.IsClear) (hpath : r.path = u.path)
    (hendpoint : r.endpointUrl = u.endpoint) (hquery : r.query = u.query) : r.Shows u := by
  have hfree : FreeOf querySigns r.path.toList := by rw [hpath]; exact h.path
  have hnone : '?' ∉ r.path.toList := hfree '?' List.mem_cons_self
  refine ⟨hendpoint.trans u.endpoint_eq, ?_, ?_, hfree, pathOnly_of_not_mem hnone, ?_⟩
  · exact h.freeOf_authority '@' (by decide)
  · rw [hendpoint]
    exact h.freeOf_endpoint
  · rw [queryString, pathQuery?_of_not_mem hnone, Option.or_none, hquery]

namespace Capture

/-- Why an entry gives no request: its URL is none, or its body is not the base64 it claims. -/
inductive Entry.Fails (e : Entry) (index : Nat) : CaptureError → Prop where
  | url {cause : UrlError} (parse : Url.parse e.request.url = .error cause) :
      Fails e index (.url e.request.url cause)
  | body {u : Url} {body : PostData} {text : String} (parse : Url.parse e.request.url = .ok u)
      (postData : e.request.postData = some body) (content : body.text = some text)
      (encoding : body.encoding = some "base64") (decode : Base64.decode? text.toList = none) :
      Fails e index (.body index)

theorem PostData.content?_eq_none_iff {body : PostData} :
    body.content? = none ↔ ∃ text, body.text = some text ∧ body.encoding = some "base64" ∧
      Base64.decode? text.toList = none := by
  unfold PostData.content?
  cases body.text with
  | none => simp
  | some text =>
    by_cases hencoding : body.encoding = some "base64"
    · simp [hencoding]
    · simp [hencoding]

theorem Entry.toRequest_eq_error_iff {e : Entry} {index : Nat} {err : CaptureError} :
    e.toRequest index = .error err ↔ e.Fails index err := by
  unfold Entry.toRequest
  constructor
  · intro h
    split at h
    · rename_i cause hurl
      obtain rfl := Except.error.inj h
      exact .url hurl
    · rename_i u hurl
      split at h
      · rename_i hcontent
        obtain rfl := Except.error.inj h
        cases hpost : e.request.postData with
        | none =>
          rw [hpost] at hcontent
          cases hcontent
        | some body =>
          rw [hpost] at hcontent
          obtain ⟨text, htext, hencoding, hdecode⟩ := PostData.content?_eq_none_iff.1 hcontent
          exact .body hurl hpost htext hencoding hdecode
      · cases h
  · intro h
    cases h with
    | url hurl => rw [hurl]
    | body hurl hpost htext hencoding hdecode =>
      have hcontent := PostData.content?_eq_none_iff.2 ⟨_, htext, hencoding, hdecode⟩
      have helim : e.request.postData.elim (some none) PostData.content? = none := by
        rw [hpost]
        exact hcontent
      rw [hurl, helim]

theorem Entry.exists_url {e : Entry} {index : Nat} {r : Request} (h : e.toRequest index = .ok r) :
    ∃ u, Url.parse e.request.url = .ok u ∧ r.path = u.path ∧ r.endpointUrl = u.endpoint ∧
      r.query = u.query := by
  unfold Entry.toRequest at h
  split at h
  · cases h
  · rename_i u hurl
    split at h
    · cases h
    · obtain rfl := Except.ok.inj h
      exact ⟨u, hurl, rfl, rfl, rfl⟩

theorem Entry.exists_shows {e : Entry} {index : Nat} {r : Request} (h : e.toRequest index = .ok r) :
    ∃ u, Url.parse e.request.url = .ok u ∧ r.Shows u := by
  obtain ⟨u, hurl, hpath, hendpoint, hquery⟩ := e.exists_url h
  exact ⟨u, hurl, Request.shows_of_isClear (isClear_of_parse hurl) hpath hendpoint hquery⟩

/-- Whether an entry fails does not depend on its place. -/
theorem Entry.Fails.exists_at {e : Entry} {index : Nat} {err : CaptureError}
    (h : e.Fails index err) (i : Nat) : ∃ cause, e.Fails i cause := by
  cases h with
  | url hurl => exact ⟨_, .url hurl⟩
  | body hurl hpost htext hencoding hdecode => exact ⟨_, .body hurl hpost htext hencoding hdecode⟩

theorem Entry.not_fails_of_toRequest {e : Entry} {i : Nat} {r : Request}
    (h : e.toRequest i = .ok r) (index : Nat) (err : CaptureError) : ¬ e.Fails index err := by
  intro hfails
  obtain ⟨cause, hcause⟩ := hfails.exists_at i
  rw [e.toRequest_eq_error_iff.2 hcause] at h
  cases h

/-! ### Requests of captures -/

/-- The first entry that fails decides. -/
theorem requests_eq_error_iff {entries : List Entry} {err : CaptureError} :
    requests entries = .error err ↔ ∃ front e back, entries = front ++ e :: back ∧
      (∀ other ∈ front, ∀ index cause, ¬ other.Fails index cause) ∧ e.Fails front.length err := by
  rw [requests, mapM_eq_error_iff]
  constructor
  · rintro ⟨numbered, ⟨e, index⟩, behind, hsplit, hfront, he⟩
    obtain ⟨front, rest, rfl, rfl, hrest⟩ := List.zipIdx_eq_append_iff.1 hsplit
    -- the entry that fails is numbered by what stands in front of it
    obtain ⟨first, back, rfl, hfirst, -⟩ := List.zipIdx_eq_cons_iff.1 hrest.symm
    obtain ⟨rfl, rfl⟩ := Prod.mk.inj hfirst
    rw [Nat.zero_add] at he
    refine ⟨front, _, back, rfl, fun other hmem => ?_, Entry.toRequest_eq_error_iff.1 he⟩
    obtain ⟨i, hi⟩ := List.mem_iff_getElem?.1 hmem
    obtain ⟨r, hr⟩ := hfront (other, i) (List.mem_zipIdx_iff_getElem?.2 hi)
    exact Entry.not_fails_of_toRequest hr
  · rintro ⟨front, e, back, rfl, hfront, he⟩
    have hsplit : (front ++ e :: back).zipIdx =
        front.zipIdx ++ (e, front.length) :: back.zipIdx (front.length + 1) := by
      rw [List.zipIdx_append, Nat.zero_add, List.zipIdx_cons]
    refine ⟨_, _, _, hsplit, fun other hmem => ?_, Entry.toRequest_eq_error_iff.2 he⟩
    cases hother : other.1.toRequest other.2 with
    | ok r => exact ⟨r, hother⟩
    | error cause =>
      have hfails := Entry.toRequest_eq_error_iff.1 hother
      exact absurd hfails (hfront other.1 (List.fst_mem_of_mem_zipIdx hmem) other.2 cause)

/-- There is a request for each entry, in order. -/
theorem requests_eq_ok {entries : List Entry} {rs : List Request} (h : requests entries = .ok rs) :
    rs.length = entries.length ∧
      ∀ (i : Nat) (e : Entry) (r : Request), entries[i]? = some e → rs[i]? = some r →
        e.toRequest i = .ok r := by
  obtain ⟨hlength, heach⟩ := List.forall₂_iff_get.1 (forall₂_of_mapM h)
  refine ⟨by rw [← hlength, List.length_zipIdx], fun i e r he hr => ?_⟩
  obtain ⟨hi, rfl⟩ := List.getElem?_eq_some_iff.1 he
  obtain ⟨hi', rfl⟩ := List.getElem?_eq_some_iff.1 hr
  have hentry := heach i (by rwa [List.length_zipIdx]) hi'
  simpa using hentry

/-- A document gives one request for each of its entries, in order, with the query apart from
endpoint and path, unless one of its entries has no URL or no body: then the first of these decides.
URLs that are the same but for user name, password, query and fragment give the same endpoint. -/
theorem requestsOfText_entries (text : String) (entries : List Entry)
    (hread : ofText text = .ok entries) :
    (∀ rs, requestsOfText text = .ok rs → rs.length = entries.length ∧
      ∀ (i : Nat) (e : Entry) (r : Request), entries[i]? = some e → rs[i]? = some r →
        e.toRequest i = .ok r ∧ ∃ u, Url.parse e.request.url = .ok u ∧ r.Shows u) ∧
    (∀ err, requestsOfText text = .error err ↔ ∃ front e back, entries = front ++ e :: back ∧
      (∀ other ∈ front, ∀ index cause, ¬ other.Fails index cause) ∧ e.Fails front.length err) ∧
    (∀ rs, requestsOfText text = .ok rs →
      ∀ (i j : Nat) (e e' : Entry) (r r' : Request) (u u' : Url),
      entries[i]? = some e → entries[j]? = some e' → rs[i]? = some r → rs[j]? = some r' →
        Url.parse e.request.url = .ok u → Url.parse e'.request.url = .ok u' →
          u.SameEndpoint u' ∨ Url.bare? e.request.url = Url.bare? e'.request.url →
            r.endpointUrl = r'.endpointUrl ∧
              ∀ m : TextMatcher, m.fits r.endpointUrl = m.fits r'.endpointUrl) := by
  have hrequests : requestsOfText text = requests entries := by
    rw [requestsOfText, hread]
    rfl
  rw [hrequests]
  refine ⟨fun rs hrs => ?_, fun err => ?_, ?_⟩
  · obtain ⟨hlength, heach⟩ := requests_eq_ok hrs
    exact ⟨hlength, fun i e r he hr => ⟨heach i e r he hr, Entry.exists_shows (heach i e r he hr)⟩⟩
  · exact requests_eq_error_iff
  · intro rs hrs i j e e' r r' u u' he he' hr hr' hu hu' hsame
    obtain ⟨-, heach⟩ := requests_eq_ok hrs
    obtain ⟨v, hv, -, hendpoint, -⟩ := e.exists_url (heach i e r he hr)
    obtain ⟨v', hv', -, hendpoint', -⟩ := e'.exists_url (heach j e' r' he' hr')
    obtain rfl : u = v := Except.ok.inj (hu.symm.trans hv)
    obtain rfl : u' = v' := Except.ok.inj (hu'.symm.trans hv')
    have hparts : u.SameEndpoint u' := hsame.elim id (sameEndpoint_of_bare hu hu')
    have hendpoints : r.endpointUrl = r'.endpointUrl := by
      rw [hendpoint, hendpoint', hparts.endpoint]
    exact ⟨hendpoints, fun m => by rw [hendpoints]⟩

/-- A capture of two visits to one page, the second with a user and a fragment. -/
def visits : String :=
  "\x7b\"log\":\x7b\"entries\":[" ++
    "\x7b\"request\":\x7b\"method\":\"GET\",\"url\":\"app://h/p?q\"\x7d\x7d," ++
    "\x7b\"request\":\x7b\"method\":\"GET\",\"url\":\"app://u:pw@h/p#f\"\x7d\x7d]\x7d\x7d"

def visitOf (url : String) : Entry := ⟨none, "GET", url, [], [], none⟩

theorem requestsOfText_visits :
    ofText visits = .ok [visitOf "app://h/p?q", visitOf "app://u:pw@h/p#f"] ∧
    ∃ first second, requestsOfText visits = .ok [first, second] ∧
      first.endpointUrl = second.endpointUrl ∧
      (visitOf "app://h/p?q").toRequest 0 = .ok first ∧
      ∃ u, Url.parse "app://h/p?q" = .ok u ∧ first.Shows u := by
  have hread : ofText visits = .ok [visitOf "app://h/p?q", visitOf "app://u:pw@h/p#f"] := by
    decide +kernel
  have hurl : Url.parse "app://h/p?q" = .ok ⟨"app", some (.domain "h"), none, "/p", some "q"⟩ := by
    decide +kernel
  have hurl' : Url.parse "app://u:pw@h/p#f" =
      .ok ⟨"app", some (.domain "h"), none, "/p", none⟩ := by decide +kernel
  obtain ⟨heach, -, hsame⟩ := requestsOfText_entries visits _ hread
  have hrequests : ∃ first second, requestsOfText visits = .ok [first, second] := by
    rw [requestsOfText, hread]
    exact ⟨_, _, rfl⟩
  obtain ⟨first, second, hrequests⟩ := hrequests
  obtain ⟨hentry, hshows⟩ := (heach _ hrequests).2 0 _ first rfl rfl
  exact ⟨hread, first, second, hrequests,
    (hsame _ hrequests 0 1 _ _ first second _ _ rfl rfl rfl rfl hurl hurl'
      (.inr (by decide +kernel))).1, hentry, hshows⟩

end Capture

end TrackerTraffic
