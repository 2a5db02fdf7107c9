import TrackerTraffic.Proofs.Handling

/-!
# Batches

A batch says of every request what processing says of it alone.  Only an adapter fails,
so the requests that were matched, that were not, and that failed are all of them.
-/

namespace TrackerTraffic

/-! ### One request -/

/-- What a batch says of a request at a position: its number, the first adapter that accepts it, and
what processing it alone finds, or the text of the failure. -/
structure RequestResult.Reports (result : RequestResult) (batchId : String)
    (adapters : List Adapter) (known : Option Indicators) (position : Nat) (r : Request) : Prop where
  requestId : result.requestId = batchId ++ "/" ++ toString position
  handled : ∀ a, Adapter.IsFirst adapters r a → result.adapter = some a.id
  unhandled : r.Unhandled adapters → result.adapter = none
  processed : ∀ found, r.process adapters known = .ok found →
    result.found = found ∧ result.error = none
  failed : ∀ e, r.process adapters known = .error e →
    result.found = none ∧ result.error = some e.message

/-- A failure is an adapter's, and leaves nothing found. -/
def RequestResult.Contained (result : RequestResult) : Prop :=
  result.error ≠ none → result.adapter ≠ none ∧ result.found = none

namespace Request

theorem adapter_processAt (batchId : String) (adapters : List Adapter) (known : Option Indicators)
    (position : Nat) (r : Request) :
    (r.processAt batchId adapters known position).adapter =
      (Adapter.handling? adapters r).map Adapter.id := by
  unfold processAt
  cases r.process adapters known <;> rfl

theorem reports_processAt (batchId : String) (adapters : List Adapter) (known : Option Indicators)
    (position : Nat) (r : Request) :
    (r.processAt batchId adapters known position).Reports batchId adapters known position r where
  requestId := by
    unfold processAt
    cases r.process adapters known <;> rfl
  handled a ha := by
    rw [adapter_processAt, Adapter.handling?_eq_some_iff.2 ha, Option.map_some]
  unhandled h := by rw [adapter_processAt, Adapter.handling?_eq_none_iff.2 h, Option.map_none]
  processed found hfound := by
    unfold processAt
    rw [hfound]
    exact ⟨rfl, rfl⟩
  failed e he := by
    unfold processAt
    rw [he]
    exact ⟨rfl, rfl⟩

theorem contained_processAt (batchId : String) (adapters : List Adapter)
    (known : Option Indicators) (position : Nat) (r : Request) :
    (r.processAt batchId adapters known position).Contained := by
  intro herror
  have hreports := r.reports_processAt batchId adapters known position
  rcases isFirst_or_unhandled r adapters with ⟨a, hfirst⟩ | hnone
  · refine ⟨by simp [hreports.handled a hfirst], ?_⟩
    cases hprocess : r.process adapters known with
    | ok found => exact absurd (hreports.processed found hprocess).2 herror
    | error e => exact (hreports.failed e hprocess).1
  · -- The search for known values does not fail.
    have hprocess := process_of_unhandled hnone known
    exact absurd (hreports.processed _ hprocess).2 herror

end Request

/-! ### Counts -/

namespace RequestResult

def isUnmatched (r : RequestResult) : Bool := r.adapter.isNone

/-- Where failures are an adapter's, every result counts exactly once. -/
theorem length_eq_counts {results : List RequestResult} (h : ∀ r ∈ results, r.Contained) :
    results.length =
      results.countP isMatched + results.countP isUnmatched + results.countP isFailed := by
  induction results with
  | nil => rfl
  | cons r rest ih =>
    have hrest := ih fun s hs => h s (List.mem_cons_of_mem _ hs)
    have hone : (if r.isMatched then 1 else 0) + (if r.isUnmatched then 1 else 0) +
        (if r.isFailed then 1 else 0) = 1 := by
      have hcontained := h r List.mem_cons_self
      obtain ⟨_, adapter, _, error⟩ := r
      cases adapter with
      | some id => cases error <;> rfl
      | none =>
        cases error with
        | none => rfl
        | some e => exact absurd rfl (hcontained (Option.some_ne_none e)).1
    simp only [List.length_cons, List.countP_cons]
    omega

end RequestResult

/-! ### Positions -/

/-- Results under the numbers of another batch, from a position on. -/
def RequestResult.renumber (batchId : String) (start : Nat) (results : List RequestResult) :
    List RequestResult :=
  (results.zipIdx start).map fun (result, position) =>
    { result with requestId := batchId ++ "/" ++ toString position }

theorem RequestResult.countP_renumber {p : RequestResult → Bool}
    (hp : ∀ r id, p { r with requestId := id } = p r) (batchId : String) (start : Nat)
    (results : List RequestResult) :
    (renumber batchId start results).countP p = results.countP p := by
  induction results generalizing start with
  | nil => rfl
  | cons r rest ih =>
    have hrest := ih (start + 1)
    simp only [renumber, List.zipIdx_cons, List.map_cons, List.countP_cons, hp] at hrest ⊢
    rw [hrest]

def resultsFrom (batchId : String) (start : Nat) (requests : List Request)
    (adapters : List Adapter) (known : Option Indicators) : List RequestResult :=
  (requests.zipIdx start).map fun (r, position) => r.processAt batchId adapters known position

section

variable (batchId : String) (adapters : List Adapter) (known : Option Indicators)

theorem requests_processBatch (requests : List Request) :
    (processBatch batchId requests adapters known).requests =
      resultsFrom batchId 0 requests adapters known :=
  rfl

theorem getElem?_resultsFrom (start : Nat) (requests : List Request) (i : Nat) :
    (resultsFrom batchId start requests adapters known)[i]? =
      requests[i]?.map (·.processAt batchId adapters known (start + i)) := by
  rw [resultsFrom, List.getElem?_map, List.getElem?_zipIdx, Option.map_map]
  rfl

theorem length_resultsFrom (start : Nat) (requests : List Request) :
    (resultsFrom batchId start requests adapters known).length = requests.length := by
  rw [resultsFrom, List.length_map, List.length_zipIdx]

theorem contained_of_mem_resultsFrom {start : Nat} {requests : List Request}
    {result : RequestResult} (h : result ∈ resultsFrom batchId start requests adapters known) :
    result.Contained := by
  obtain ⟨⟨r, position⟩, -, rfl⟩ := List.mem_map.1 h
  exact r.contained_processAt batchId adapters known position

theorem resultsFrom_append (start : Nat) (first second : List Request) :
    resultsFrom batchId start (first ++ second) adapters known =
      resultsFrom batchId start first adapters known ++
        resultsFrom batchId (start + first.length) second adapters known := by
  rw [resultsFrom, List.zipIdx_append, List.map_append]
  rfl

/-- Nothing but the numbers depends on the batch and on the place in it. -/
theorem renumber_resultsFrom (other : String) (start place : Nat) (requests : List Request) :
    RequestResult.renumber batchId place (resultsFrom other start requests adapters known) =
      resultsFrom batchId place requests adapters known := by
  induction requests generalizing start place with
  | nil => rfl
  | cons r rest ih =>
    have hfirst : { r.processAt other adapters known start with
        requestId := batchId ++ "/" ++ toString place } =
          r.processAt batchId adapters known place := by
      unfold Request.processAt
      cases r.process adapters known <;> rfl
    have hrest := ih (start + 1) (place + 1)
    simp only [resultsFrom, RequestResult.renumber, List.zipIdx_cons, List.map_cons] at hrest ⊢
    rw [hfirst, hrest]

theorem requests_processBatch_append (firstId secondId : String) (first second : List Request) :
    (processBatch batchId (first ++ second) adapters known).requests =
      RequestResult.renumber batchId 0 (processBatch firstId first adapters known).requests ++
        RequestResult.renumber batchId first.length
          (processBatch secondId second adapters known).requests := by
  simp only [requests_processBatch, renumber_resultsFrom, resultsFrom_append, Nat.zero_add]

/-! ### Counts of a batch -/

/-- The subtractions that count unmatched requests are exact. -/
theorem counts_processBatch (requests : List Request) :
    let batch := processBatch batchId requests adapters known
    batch.matched + batch.failed ≤ batch.requests.length ∧
      batch.unmatched = batch.requests.countP RequestResult.isUnmatched := by
  intro batch
  have hcounts : batch.requests.length = batch.matched +
      batch.requests.countP RequestResult.isUnmatched + batch.failed :=
    RequestResult.length_eq_counts fun result hresult =>
      contained_of_mem_resultsFrom batchId adapters known hresult
  -- Subtraction of naturals stops at zero, so it is exact only by the count above.
  have hunmatched : batch.unmatched = batch.requests.length - batch.matched - batch.failed := rfl
  omega

theorem received_processBatch (requests : List Request) :
    let batch := processBatch batchId requests adapters known
    batch.received = batch.matched + batch.unmatched + batch.failed := by
  intro batch
  have hexact : batch.matched + batch.failed ≤ batch.requests.length :=
    (counts_processBatch batchId adapters known requests).1
  have hlength : batch.requests.length = batch.received :=
    length_resultsFrom batchId adapters known 0 requests
  have hunmatched : batch.unmatched = batch.requests.length - batch.matched - batch.failed := rfl
  omega

theorem counts_processBatch_append (firstId secondId : String) (first second : List Request) :
    let batch := processBatch batchId (first ++ second) adapters known
    let front := processBatch firstId first adapters known
    let back := processBatch secondId second adapters known
    batch.matched = front.matched + back.matched ∧
      batch.unmatched = front.unmatched + back.unmatched ∧
      batch.failed = front.failed + back.failed := by
  intro batch front back
  have hcount : ∀ p : RequestResult → Bool, (∀ r id, p { r with requestId := id } = p r) →
      batch.requests.countP p = front.requests.countP p + back.requests.countP p := by
    intro p hp
    have hrequests : batch.requests = _ :=
      requests_processBatch_append batchId adapters known firstId secondId first second
    rw [hrequests, List.countP_append, RequestResult.countP_renumber hp,
      RequestResult.countP_renumber hp]
  obtain ⟨-, hbatch⟩ := counts_processBatch batchId adapters known (first ++ second)
  obtain ⟨-, hfront⟩ := counts_processBatch firstId adapters known first
  obtain ⟨-, hback⟩ := counts_processBatch secondId adapters known second
  refine ⟨hcount RequestResult.isMatched fun _ _ => rfl, ?_,
    hcount RequestResult.isFailed fun _ _ => rfl⟩
  rw [hbatch, hfront, hback]
  exact hcount RequestResult.isUnmatched fun _ _ => rfl

/-- A batch has one result for each request, at its position and numbered by it, which says what
processing that request alone says.  Failures are an adapter's and leave nothing found, so that the
counts of matched, unmatched and failed requests are exact and come to all requests.  Of requests in
front of others the results stand in front of theirs, whose numbers are shifted, and counts add up. -/
theorem processBatch_by_request (requests : List Request) :
    let batch := processBatch batchId requests adapters known
    batch.requests.length = requests.length ∧
    (∀ i r, requests[i]? = some r → ∃ result : RequestResult, batch.requests[i]? = some result ∧
      result.Reports batchId adapters known i r) ∧
    (∀ result ∈ batch.requests, result.error ≠ none →
      result.adapter ≠ none ∧ result.found = none) ∧
    (batch.received = requests.length ∧
      batch.matched = batch.requests.countP (fun r => r.adapter.isSome && !r.error.isSome) ∧
      batch.unmatched = batch.requests.countP (fun r => r.adapter.isNone) ∧
      batch.failed = batch.requests.countP (fun r => r.error.isSome) ∧
      batch.matched + batch.failed ≤ batch.requests.length ∧
      batch.received = batch.matched + batch.unmatched + batch.failed) ∧
    ∀ first second firstId secondId, requests = first ++ second →
      let front := processBatch firstId first adapters known
      let back := processBatch secondId second adapters known
      batch.requests = RequestResult.renumber batchId 0 front.requests ++
          RequestResult.renumber batchId first.length back.requests ∧
        batch.received = front.received + back.received ∧
        batch.matched = front.matched + back.matched ∧
        batch.unmatched = front.unmatched + back.unmatched ∧
        batch.failed = front.failed + back.failed := by
  intro batch
  obtain ⟨hexact, hunmatched⟩ := counts_processBatch batchId adapters known requests
  refine ⟨length_resultsFrom batchId adapters known 0 requests, ?_, ?_,
    ⟨rfl, rfl, hunmatched, rfl, hexact, received_processBatch batchId adapters known requests⟩, ?_⟩
  · intro i r hr
    have hresult := getElem?_resultsFrom batchId adapters known 0 requests i
    rw [hr, Option.map_some, Nat.zero_add] at hresult
    exact ⟨_, hresult, r.reports_processAt batchId adapters known i⟩
  · intro result hresult
    exact contained_of_mem_resultsFrom batchId adapters known hresult
  · rintro first second firstId secondId rfl front back
    exact ⟨requests_processBatch_append batchId adapters known firstId secondId first second,
      List.length_append,
      counts_processBatch_append batchId adapters known firstId secondId first second⟩

end

end TrackerTraffic
