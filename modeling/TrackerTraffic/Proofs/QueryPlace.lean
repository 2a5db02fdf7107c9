import TrackerTraffic.Detection.Processing
import TrackerTraffic.Proofs.FormRoundTrip

/-!
# Where a request keeps its query

A request may keep its query behind the question mark of its path or in a field of its
own.  Whatever reads a request reads the two through the same cut, so the place makes no
difference to what is found, and neither do the moment and the host.
-/

namespace TrackerTraffic

/-! ### What is seen of a request -/

/-- The requests show the same parts: they may differ in moment and host, and in how they keep
their path and query. -/
structure Request.SameParts (r s : Request) : Prop where
  method : r.method = s.method
  endpointUrl : r.endpointUrl = s.endpointUrl
  pathOnly : r.pathOnly = s.pathOnly
  queryString : r.queryString = s.queryString
  content : r.content = s.content
  headers : r.headers = s.headers
  cookies : r.cookies = s.cookies

variable {r s : Request}

theorem Request.SameParts.header (h : r.SameParts s) (name : String) :
    r.header name = s.header name := by
  rw [Request.header, Request.header, h.headers]

/-! ### Predicates -/

namespace RequestPredicate

mutual
/-- The predicate is put together from conditions on parts, without a function of its own. -/
def IsDeclared : RequestPredicate → Prop
  | contentStartsWith _ => True
  | contentMatches _ => True
  | headerEquals _ _ => True
  | headerPresent _ => True
  | methodIs _ => True
  | queryContains _ => True
  | all of => AreDeclared of
  | any of => AreDeclared of
  | not predicate => predicate.IsDeclared
  | custom _ => False

def AreDeclared : List RequestPredicate → Prop
  | [] => True
  | p :: rest => p.IsDeclared ∧ AreDeclared rest
end

mutual
/-- A predicate without functions of its own sees the parts of a request only. -/
theorem accepts_congr (h : r.SameParts s) :
    ∀ p : RequestPredicate, p.IsDeclared → p.accepts r = p.accepts s
  | contentStartsWith start, _ => by rw [accepts, accepts, h.content]
  | contentMatches regex, _ => by rw [accepts, accepts, h.content]
  | headerEquals name value, _ => by rw [accepts, accepts, h.header]
  | headerPresent name, _ => by rw [accepts, accepts, h.header]
  | methodIs method, _ => by rw [accepts, accepts, h.method]
  | queryContains part, _ => by rw [accepts, accepts, h.queryString]
  | all of, hof => by
    rw [accepts, accepts]
    exact acceptedByAll_congr h of hof
  | any of, hof => by
    rw [accepts, accepts]
    exact acceptedByAny_congr h of hof
  | not predicate, hpredicate => by
    rw [accepts, accepts, accepts_congr h predicate hpredicate]
  | custom _, hfalse => False.elim hfalse

theorem acceptedByAll_congr (h : r.SameParts s) :
    ∀ ps : List RequestPredicate, AreDeclared ps → acceptedByAll ps r = acceptedByAll ps s
  | [], _ => rfl
  | p :: rest, ⟨hp, hrest⟩ => by
    rw [acceptedByAll, acceptedByAll, accepts_congr h p hp, acceptedByAll_congr h rest hrest]

theorem acceptedByAny_congr (h : r.SameParts s) :
    ∀ ps : List RequestPredicate, AreDeclared ps → acceptedByAny ps r = acceptedByAny ps s
  | [], _ => rfl
  | p :: rest, ⟨hp, hrest⟩ => by
    rw [acceptedByAny, acceptedByAny, accepts_congr h p hp, acceptedByAny_congr h rest hrest]
end

end RequestPredicate

/-! ### Processing -/

namespace Adapter

/-- The adapter's predicate, if it has one, has no function of its own. -/
def IsDeclared (a : Adapter) : Prop := ∀ p, a.predicate = some p → p.IsDeclared

theorem accepts_congr (h : r.SameParts s) {a : Adapter} (ha : a.IsDeclared) :
    a.accepts r = a.accepts s := by
  rw [accepts, accepts, h.endpointUrl]
  cases hpredicate : a.predicate with
  | none => rfl
  | some p =>
    rw [Option.all_some, Option.all_some, RequestPredicate.accepts_congr h p (ha p hpredicate)]

theorem handling?_congr (h : r.SameParts s) {adapters : List Adapter}
    (hadapters : ∀ a ∈ adapters, a.IsDeclared) : handling? adapters r = handling? adapters s :=
  List.find?_congr fun a ha => accepts_congr h (hadapters a ha)

end Adapter

namespace Request.SameParts

theorem initialState (h : r.SameParts s) : r.initialState = s.initialState := by
  rw [Request.initialState, Request.initialState, h.headers, h.cookies, h.pathOnly, h.queryString,
    h.content]

theorem extract (h : r.SameParts s) (a : Adapter) : a.extract r = a.extract s := by
  rw [Adapter.extract, Adapter.extract, Request.decode, Request.decode, h.initialState]

theorem parts (h : r.SameParts s) : Indicator.parts r = Indicator.parts s := by
  rw [Indicator.parts, Indicator.parts, h.headers, h.cookies, h.pathOnly, h.queryString, h.content]

theorem fallback (h : r.SameParts s) (known : Option Indicators) :
    r.fallback known = s.fallback known := by
  have hmatches : Indicator.patternMatchesOf r = Indicator.patternMatchesOf s := by
    funext property value
    rw [Indicator.patternMatchesOf, Indicator.patternMatchesOf, h.parts]
  cases known with
  | none => rfl
  | some values =>
    show some (values.patternMatchesIn r) = some (values.patternMatchesIn s)
    rw [Indicators.patternMatchesIn, Indicators.patternMatchesIn, hmatches]

/-- Requests that show the same parts have the same matches, or fail alike. -/
theorem process (h : r.SameParts s) {adapters : List Adapter}
    (hadapters : ∀ a ∈ adapters, a.IsDeclared) (known : Option Indicators) :
    r.process adapters known = s.process adapters known := by
  rw [Request.process, Request.process, Adapter.handling?_congr h hadapters, h.fallback]
  cases Adapter.handling? adapters s with
  | none => rfl
  | some a =>
    show (a.extract r).map some = (a.extract s).map some
    rw [h.extract]

end Request.SameParts

/-! ### The cut at the question mark -/

namespace Request

theorem takeWhile_append_sign (front behind : List Char) :
    (front ++ '?' :: behind).takeWhile (· != '?') = front.takeWhile (· != '?') := by
  rw [List.takeWhile_append]
  split
  · rename_i hall
    have hfront := (List.takeWhile_prefix (· != '?')).eq_of_length hall
    simp [hfront]
  · rfl

/-- A question mark and what follows it do not count as path. -/
theorem pathOnly_append_sign {path behind : String} (h : r.path = path ++ "?" ++ behind) :
    r.pathOnly = ({ r with path } : Request).pathOnly := by
  have hpath : r.path.toList = path.toList ++ '?' :: behind.toList := by simp [h]
  rw [pathOnly, pathOnly, hpath, takeWhile_append_sign]

theorem pathQuery?_of_split {path query : String} (hpath : '?' ∉ path.toList)
    (h : r.path = path ++ "?" ++ query) : r.pathQuery? = some query := by
  have hsplit : r.path.toList = path.toList ++ '?' :: query.toList := by simp [h]
  rw [pathQuery?, hsplit, Form.dropWhile_ne_append hpath]
  exact congrArg some String.ofList_toList

/-- A query behind the path shows as one in the field. -/
theorem sameParts_of_path_query {path query : String} (hpath : '?' ∉ path.toList)
    (hquery : r.query = none) (h : r.path = path ++ "?" ++ query) :
    r.SameParts { r with path, query := some query } where
  method := rfl
  endpointUrl := rfl
  pathOnly := pathOnly_append_sign h
  queryString := by
    show r.query.or r.pathQuery? = (some query).or _
    rw [hquery, Option.none_or, pathQuery?_of_split hpath h, Option.some_or]
  content := rfl
  headers := rfl
  cookies := rfl

/-- Where the field holds a query, one behind the path does not show. -/
theorem sameParts_of_both_queries {path query behind : String} (hquery : r.query = some query)
    (h : r.path = path ++ "?" ++ behind) : r.SameParts { r with path } where
  method := rfl
  endpointUrl := rfl
  pathOnly := pathOnly_append_sign h
  queryString := by
    show r.query.or r.pathQuery? = r.query.or _
    rw [hquery, Option.some_or, Option.some_or]
  content := rfl
  headers := rfl
  cookies := rfl

theorem sameParts_of_moment_host (r : Request) (startTime : Option Instant) (host : String) :
    ({ r with startTime, host } : Request).SameParts r :=
  ⟨rfl, rfl, rfl, rfl, rfl, rfl, rfl⟩

/-- With adapters that have no predicates of their own, a query behind the path counts as one in the
field; beside one in the field it does not count; and moment and host never do. -/
theorem process_query_place (adapters : List Adapter) (hadapters : ∀ a ∈ adapters, a.IsDeclared)
    (known : Option Indicators) :
    (∀ (r : Request) (path query : String), '?' ∉ path.toList → r.query = none →
      r.path = path ++ "?" ++ query →
      r.process adapters known =
        ({ r with path, query := some query } : Request).process adapters known) ∧
    (∀ (r : Request) (path query behind : String), r.query = some query →
      r.path = path ++ "?" ++ behind →
      r.process adapters known = ({ r with path } : Request).process adapters known) ∧
    ∀ (r : Request) (startTime : Option Instant) (host : String),
      ({ r with startTime, host } : Request).process adapters known =
        r.process adapters known := by
  refine ⟨fun r path query hpath hquery h => ?_, fun r path query behind hquery h => ?_,
    fun r startTime host => ?_⟩
  · exact (sameParts_of_path_query hpath hquery h).process hadapters known
  · exact (sameParts_of_both_queries hquery h).process hadapters known
  · exact (r.sameParts_of_moment_host startTime host).process hadapters known

/-- A query that an adapter asks for and decodes. -/
theorem process_query_place_decoded :
    let a : Adapter :=
      { tracker := ⟨"t", "T", none, none⟩, slug := "a", endpoints := [.exact "https://t.example/c"],
        predicate := some (.all [.not (.queryContains "&"), .methodIs "get"]),
        steps := [⟨.parseQueryString, .single ⟨"query", [.child "query"]⟩,
          ⟨"res.query", [.name "res", .name "query"]⟩⟩],
        dataPaths := [(.userId, [⟨.query, ⟨"id", [.child "id"]⟩, "name", none, none⟩])] }
    let r : Request := { endpointUrl := "https://t.example/c", method := "GET", path := "/c?id=7" }
    let s : Request := { r with query := some "id=7&id=8" }
    (∀ b ∈ [a], b.IsDeclared) ∧ '?' ∉ "/c".toList ∧ r.query = none ∧
      r.path = "/c" ++ "?" ++ "id=7" ∧ s.query = some "id=7&id=8" ∧
      s.path = "/c" ++ "?" ++ "id=7" ∧
      r.process [a] none =
        .ok (some [⟨some "t/a", .userId, .query, "id", "name", .string "7"⟩]) ∧
      r.process [a] none =
        ({ r with path := "/c", query := some "id=7" } : Request).process [a] none ∧
      s.process [a] none = ({ s with path := "/c" } : Request).process [a] none ∧
      ({ r with startTime := none, host := "t.example" } : Request).process [a] none =
        r.process [a] none := by
  intro a r s
  have hdeclared : ∀ b ∈ [a], b.IsDeclared := by
    intro b hb p hp
    obtain rfl := List.mem_singleton.1 hb
    obtain rfl := Option.some.inj hp
    exact ⟨trivial, trivial, trivial⟩
  have hpath : '?' ∉ "/c".toList := by decide
  obtain ⟨hbehind, hboth, hmoment⟩ := process_query_place [a] hdeclared none
  exact ⟨hdeclared, hpath, rfl, rfl, rfl, rfl, by cbv, hbehind r "/c" "id=7" hpath rfl rfl,
    hboth s "/c" "id=7&id=8" "id=7" rfl rfl, hmoment r none "t.example"⟩

end Request

end TrackerTraffic
