import TrackerTraffic.Proofs.PathReader
import TrackerTraffic.Proofs.UrlSigns

/-!
# URLs without what an endpoint leaves out

A URL's user name, password, query and fragment stand in its text around the parts that make
an endpoint.  The readers of these parts stop where a query or a fragment starts and begin
behind the user name, so texts that are the same without the four have the same endpoint.
-/

namespace TrackerTraffic.Url

/-! ### Bare texts -/

/-- The text behind a scheme without user name, password, query and fragment. -/
def bareRest (kind : SchemeKind) (cs : List Char) : List Char :=
  match kind, cs with
  | .file, cs => cs.takeWhile (!endsPath ·)
  | .special, cs => (cutUser .special (cs.dropWhile (isSlash .special))).2.takeWhile (!endsPath ·)
  | .other, '/' :: '/' :: cs => '/' :: '/' :: (cutUser .other cs).2.takeWhile (!endsPath ·)
  | .other, cs => cs.takeWhile (!endsPath ·)

/-- The scheme of a text, and what is bare behind it. -/
def bare? (text : String) : Option (String × List Char) :=
  (cutScheme? (clean text.toList)).map fun (scheme, rest) =>
    (scheme, bareRest (kindOf scheme) rest)

/-- The URLs are the same but for their queries. -/
structure SameEndpoint (u v : Url) : Prop where
  scheme : u.scheme = v.scheme
  host : u.host = v.host
  port : u.port = v.port
  path : u.path = v.path

theorem SameEndpoint.symm {u v : Url} (h : u.SameEndpoint v) : v.SameEndpoint u :=
  ⟨h.scheme.symm, h.host.symm, h.port.symm, h.path.symm⟩

theorem SameEndpoint.trans {u v w : Url} (h : u.SameEndpoint v) (h' : v.SameEndpoint w) :
    u.SameEndpoint w :=
  ⟨h.scheme.trans h'.scheme, h.host.trans h'.host, h.port.trans h'.port, h.path.trans h'.path⟩

theorem SameEndpoint.endpoint {u v : Url} (h : u.SameEndpoint v) : u.endpoint = v.endpoint := by
  rw [Url.endpoint, Url.endpoint, hostText, hostText, h.scheme, h.host, h.port, h.path]

/-! ### Texts in front of a query -/

section Append

open TrackerTraffic.Path (Stops)

variable {p : Char → Bool} {front back : List Char}

theorem takeWhile_append_stops (h : Stops p back) (front : List Char) :
    (front ++ back).takeWhile p = front.takeWhile p := by
  have hback : back.takeWhile p = [] := by
    cases back with
    | nil => rfl
    | cons c rest => exact List.takeWhile_cons_of_neg (by simp [h c rfl])
  rw [List.takeWhile_append, hback, List.append_nil]
  split
  · rename_i hall
    exact ((List.takeWhile_prefix p).eq_of_length hall).symm
  · rfl

theorem drop_append_takeWhile (p : Char → Bool) (front back : List Char) :
    (front ++ back).drop (front.takeWhile p).length =
      front.drop (front.takeWhile p).length ++ back :=
  List.drop_append_of_le_length (List.takeWhile_prefix p).length_le

/-- The text starts, if at all, with the sign of a query or a fragment. -/
def StartsBehindPath (back : List Char) : Prop := Stops (!endsPath ·) back

theorem startsBehindPath_dropWhile (cs : List Char) :
    StartsBehindPath (cs.dropWhile (!endsPath ·)) := by
  intro c hc
  have hhead := List.head?_dropWhile_not (!endsPath ·) cs
  rw [hc] at hhead
  exact hhead

theorem StartsBehindPath.stops (h : StartsBehindPath back)
    (hp : ∀ c, endsPath c = true → p c = false) : Stops p back := by
  intro c hc
  have hends := h c hc
  exact hp c (by simpa using hends)

theorem endsAuthority_of_endsPath {c : Char} (kind : SchemeKind) (h : endsPath c = true) :
    endsAuthority kind c = true := by
  have hsign : c = '?' ∨ c = '#' := by simpa [endsPath] using h
  rcases hsign with rfl | rfl <;> simp [endsAuthority]

theorem isSlash_of_endsPath {c : Char} (kind : SchemeKind) (h : endsPath c = true) :
    isSlash kind c = false := by
  have hsign : c = '?' ∨ c = '#' := by simpa [endsPath] using h
  rcases hsign with rfl | rfl <;> simp [isSlash]

theorem StartsBehindPath.stops_authority (h : StartsBehindPath back) (kind : SchemeKind) :
    Stops (!endsAuthority kind ·) back :=
  h.stops fun c hc => by rw [endsAuthority_of_endsPath kind hc]; rfl

/-! ### Authorities -/

theorem hostLength_append (h : StartsBehindPath back) (kind : SchemeKind) (inside : Bool)
    (front : List Char) :
    hostLength kind inside (front ++ back) = hostLength kind inside front := by
  induction front generalizing inside with
  | nil =>
    cases back with
    | nil => rfl
    | cons c rest =>
      have hends : endsAuthority kind c = true := by
        simpa using h.stops_authority kind c rfl
      show hostLength kind inside (c :: rest) = 0
      rw [hostLength, hends, Bool.or_true, if_pos rfl]
  | cons c rest ih => rw [List.cons_append, hostLength, hostLength, ih]

theorem hostLength_le (kind : SchemeKind) (inside : Bool) (cs : List Char) :
    hostLength kind inside cs ≤ cs.length := by
  induction cs generalizing inside with
  | nil => exact Nat.le_refl 0
  | cons c rest ih =>
    rw [hostLength]
    split
    · exact Nat.zero_le _
    · exact Nat.succ_le_succ (ih _)

/-- What stands behind a path is left when an authority is read in front of it. -/
theorem readAuthority_append (h : StartsBehindPath back) (scheme : String) (front : List Char) :
    readAuthority scheme (front ++ back) =
      (readAuthority scheme front).map fun (host, port, rest) => (host, port, rest ++ back) := by
  have hlength := hostLength_append h (kindOf scheme) false front
  have hle := hostLength_le (kindOf scheme) false front
  unfold readAuthority
  simp only [hlength, List.take_append_of_le_length hle, List.drop_append_of_le_length hle, bind,
    Except.bind, pure, Except.pure]
  cases readHost (kindOf scheme) (front.take (hostLength (kindOf scheme) false front)) with
  | error e => rfl
  | ok host =>
    generalize front.drop (hostLength (kindOf scheme) false front) = tail
    have hdigits : ∀ rest : List Char, (rest ++ back).takeWhile (!endsAuthority .special ·) =
        rest.takeWhile (!endsAuthority .special ·) :=
      takeWhile_append_stops (h.stops_authority .special)
    by_cases hcolon : ∃ rest, tail = ':' :: rest
    · obtain ⟨rest, rfl⟩ := hcolon
      simp only [List.cons_append, hdigits, drop_append_takeWhile]
      cases host.isNone with
      | true => rfl
      | false =>
        cases readPort scheme (rest.takeWhile (!endsAuthority .special ·)) <;> rfl
    · -- what is appended starts a query or a fragment, so it brings no colon either
      have hback : ∀ rest, tail ++ back ≠ ':' :: rest := by
        intro rest heq
        cases tail with
        | nil =>
          rw [List.nil_append] at heq
          have hends := h ':' (by rw [heq, List.head?_cons])
          revert hends
          decide
        | cons c behind => exact hcolon ⟨behind, by rw [(List.cons.inj heq).1]⟩
      simp only
      split
      · exact absurd ⟨_, rfl⟩ hcolon
      · rfl

end Append

theorem takeWhile_append_dropWhile_path (cs : List Char) :
    cs.takeWhile (!endsPath ·) ++ cs.dropWhile (!endsPath ·) = cs := List.takeWhile_append_dropWhile

/-- The parts of a URL with an authority come from the bare text behind the user name. -/
theorem readWithAuthority_bare {scheme : String} {cs : List Char} {u : Url}
    (h : readWithAuthority scheme cs = .ok u) :
    ∃ host port rest,
      readAuthority scheme ((cutUser (kindOf scheme) cs).2.takeWhile (!endsPath ·)) =
        .ok (host, port, rest) ∧
      u.SameEndpoint ⟨scheme, host, port, String.ofList
        (pathAfterAuthority (kindOf scheme) (rest.takeWhile (!endsPath ·))), none⟩ := by
  obtain ⟨host, port, rest, hread, rfl⟩ := readWithAuthority_spec h
  generalize (cutUser (kindOf scheme) cs).2 = behind at hread
  have hback := startsBehindPath_dropWhile behind
  rw [← takeWhile_append_dropWhile_path behind, readAuthority_append hback] at hread
  cases hfront : readAuthority scheme (behind.takeWhile (!endsPath ·)) with
  | error e =>
    rw [hfront] at hread
    cases hread
  | ok found =>
    obtain ⟨host', port', front⟩ := found
    rw [hfront] at hread
    have hparts : (host', port', front ++ behind.dropWhile (!endsPath ·)) = (host, port, rest) :=
      Except.ok.inj hread
    obtain ⟨hhost, htail⟩ := Prod.mk.inj hparts
    obtain ⟨hport, hrest⟩ := Prod.mk.inj htail
    refine ⟨host', port', front, rfl, rfl, hhost.symm, hport.symm, ?_⟩
    rw [← hrest, takeWhile_append_stops hback]

/-! ### Files and other schemes -/

section File

variable {front back : List Char}

theorem fileUrl_append (h : StartsBehindPath back) (host : Option Host) (front : List Char) :
    (fileUrl host (front ++ back)).SameEndpoint (fileUrl host front) := by
  have hpath := takeWhile_append_stops h front
  refine ⟨rfl, ?_, rfl, ?_⟩
  · simp only [fileUrl, hpath]
  · simp only [fileUrl, hpath]

theorem dropSlash_append (h : StartsBehindPath back) (front : List Char) :
    dropSlash (front ++ back) = dropSlash front ++ back := by
  cases front with
  | nil =>
    cases back with
    | nil => rfl
    | cons c rest =>
      have hends : endsPath c = true := by simpa using h c rfl
      have hslash : ¬ isSlash .file c = true := by simp [isSlash_of_endsPath .file hends]
      exact if_neg hslash
  | cons c rest =>
    rw [List.cons_append, dropSlash, dropSlash]
    split <;> rfl

theorem readFile_plain {cs : List Char}
    (h : ∀ c d rest, cs = c :: d :: rest → (isSlash .file c && isSlash .file d) = false) :
    readFile cs = .ok (fileUrl none (dropSlash cs)) := by
  unfold readFile
  split
  · rename_i c d rest
    rw [h c d rest rfl]
    rfl
  · rfl

/-- Two slashes at the start of a file's text both stand in front of its query. -/
theorem not_slashes_append (h : StartsBehindPath back)
    (hfront : ∀ c d rest, front = c :: d :: rest → (isSlash .file c && isSlash .file d) = false)
    {c d : Char} {rest : List Char} (heq : front ++ back = c :: d :: rest) :
    (isSlash .file c && isSlash .file d) = false := by
  have hback : ∀ e, back.head? = some e → isSlash .file e = false :=
    fun e he => isSlash_of_endsPath .file (by simpa using h e he)
  cases front with
  | nil =>
    rw [List.nil_append] at heq
    rw [hback c (by rw [heq, List.head?_cons]), Bool.false_and]
  | cons first behind =>
    obtain ⟨rfl, hbehind⟩ := List.cons.inj heq
    cases behind with
    | nil =>
      have hrest : back = d :: rest := hbehind
      rw [hback d (by rw [hrest, List.head?_cons]), Bool.and_false]
    | cons second behind =>
      obtain ⟨rfl, -⟩ := List.cons.inj hbehind
      exact hfront _ _ behind rfl

/-- What stands behind a path makes no difference to the other parts of a file. -/
theorem readFile_append (h : StartsBehindPath back) {u : Url}
    (hread : readFile (front ++ back) = .ok u) :
    ∃ w, readFile front = .ok w ∧ u.SameEndpoint w := by
  by_cases hslashes : ∃ c d rest,
      front = c :: d :: rest ∧ (isSlash .file c && isSlash .file d) = true
  · obtain ⟨c, d, rest, rfl, hcd⟩ := hslashes
    have hname := takeWhile_append_stops (h.stops_authority .file) rest
    simp only [List.cons_append, readFile, if_pos hcd, hname, drop_append_takeWhile,
      dropSlash_append h, bind, Except.bind, pure, Except.pure] at hread ⊢
    split at hread
    · rename_i hdrive
      rw [if_pos hdrive]
      exact ⟨_, rfl, Except.ok.inj hread ▸ fileUrl_append h none rest⟩
    · rename_i hdrive
      rw [if_neg hdrive]
      cases hhost : readFileHost (rest.takeWhile (!endsAuthority .file ·)) with
      | error e =>
        rw [hhost] at hread
        cases hread
      | ok host =>
        rw [hhost] at hread
        exact ⟨_, rfl, Except.ok.inj hread ▸ fileUrl_append h host _⟩
  · -- without two slashes in front there is no host, with or without what is appended
    have hfront : ∀ c d rest, front = c :: d :: rest →
        (isSlash .file c && isSlash .file d) = false := by
      intro c d rest heq
      by_contra hcd
      exact hslashes ⟨c, d, rest, heq, by simpa using hcd⟩
    have hwhole : ∀ c d rest, front ++ back = c :: d :: rest →
        (isSlash .file c && isSlash .file d) = false :=
      fun _ _ _ heq => not_slashes_append h hfront heq
    rw [readFile_plain hwhole, dropSlash_append h] at hread
    exact ⟨_, readFile_plain hfront, Except.ok.inj hread ▸ fileUrl_append h none _⟩

end File

theorem readWithoutAuthority_bare (scheme : String) (cs : List Char) :
    (readWithoutAuthority scheme cs).SameEndpoint
      (readWithoutAuthority scheme (cs.takeWhile (!endsPath ·))) := by
  have hpath : (cs.takeWhile (!endsPath ·)).takeWhile (!endsPath ·) = cs.takeWhile (!endsPath ·) :=
    List.takeWhile_eq_self_iff.2 fun c hc => List.all_eq_true.1 List.all_takeWhile c hc
  refine ⟨rfl, rfl, rfl, ?_⟩
  simp only [readWithoutAuthority, hpath]

/-! ### The whole text -/

/-- The URL of an authority that was read, without a query. -/
def authorityUrl (scheme : String) (found : Option Host × Option Nat × List Char) : Url :=
  ⟨scheme, found.1, found.2.1,
    String.ofList (pathAfterAuthority (kindOf scheme) (found.2.2.takeWhile (!endsPath ·))), none⟩

/-- What a bare text is read as behind a scheme. -/
def ofBare (scheme : String) (cs : List Char) : Except UrlError Url :=
  match kindOf scheme, cs with
  | .file, cs => readFile cs
  | .special, cs => (readAuthority scheme cs).map (authorityUrl scheme)
  | .other, '/' :: '/' :: cs => (readAuthority scheme cs).map (authorityUrl scheme)
  | .other, cs => .ok (readWithoutAuthority scheme cs)

theorem authorityUrl_bare {scheme : String} {cs : List Char} {u : Url}
    (h : readWithAuthority scheme cs = .ok u) :
    ∃ w, (readAuthority scheme ((cutUser (kindOf scheme) cs).2.takeWhile (!endsPath ·))).map
      (authorityUrl scheme) = .ok w ∧ u.SameEndpoint w := by
  obtain ⟨host, port, rest, hread, hsame⟩ := readWithAuthority_bare h
  exact ⟨_, by rw [hread]; rfl, hsame⟩

theorem not_slashes_of_takeWhile {rest : List Char} (h : ∀ cs, rest ≠ '/' :: '/' :: cs) :
    ∀ cs, rest.takeWhile (!endsPath ·) ≠ '/' :: '/' :: cs := by
  intro cs heq
  have hwhole := takeWhile_append_dropWhile_path rest
  rw [heq] at hwhole
  exact h _ hwhole.symm

theorem exists_ofBare {text : String} {u : Url} (h : parse text = .ok u) :
    ∃ scheme cs w, bare? text = some (scheme, cs) ∧ ofBare scheme cs = .ok w ∧
      u.SameEndpoint w := by
  unfold parse at h
  unfold bare?
  split at h
  · cases h
  · rename_i scheme rest hcut
    rw [hcut]
    suffices hbare : ∃ w, ofBare scheme (bareRest (kindOf scheme) rest) = .ok w ∧
        u.SameEndpoint w by
      obtain ⟨w, hread, hsame⟩ := hbare
      exact ⟨scheme, _, w, rfl, hread, hsame⟩
    unfold ofBare bareRest
    cases hkind : kindOf scheme with
    | file =>
      simp only [hkind] at h ⊢
      rw [← takeWhile_append_dropWhile_path rest] at h
      exact readFile_append (startsBehindPath_dropWhile rest) h
    | special =>
      simp only [hkind] at h ⊢
      have hread := authorityUrl_bare h
      rwa [hkind] at hread
    | other =>
      by_cases hslashes : ∃ cs, rest = '/' :: '/' :: cs
      · obtain ⟨cs, rfl⟩ := hslashes
        simp only [hkind] at h ⊢
        have hread := authorityUrl_bare h
        rwa [hkind] at hread
      · have hrest : ∀ cs, rest ≠ '/' :: '/' :: cs := fun cs heq => hslashes ⟨cs, heq⟩
        have hfront := not_slashes_of_takeWhile hrest
        have hsame := readWithoutAuthority_bare scheme rest
        simp only [hkind] at h ⊢
        exact ⟨_, rfl, Except.ok.inj h ▸ hsame⟩

/-- Accepted texts that are the same without user name, password, query and fragment have the same
scheme, host, port and path. -/
theorem sameEndpoint_of_bare {s t : String} {u v : Url} (hs : parse s = .ok u)
    (ht : parse t = .ok v) (h : bare? s = bare? t) : u.SameEndpoint v := by
  obtain ⟨scheme, cs, w, hbare, hread, hsame⟩ := exists_ofBare hs
  obtain ⟨scheme', cs', w', hbare', hread', hsame'⟩ := exists_ofBare ht
  rw [hbare, hbare'] at h
  obtain ⟨rfl, rfl⟩ := Prod.mk.inj (Option.some.inj h)
  obtain rfl : w = w' := Except.ok.inj (hread.symm.trans hread')
  exact hsame.trans hsame'.symm

end TrackerTraffic.Url
