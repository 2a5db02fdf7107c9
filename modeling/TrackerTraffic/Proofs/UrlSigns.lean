import TrackerTraffic.Proofs.Decimal
import TrackerTraffic.Proofs.FormRoundTrip
import TrackerTraffic.Url.Basic

/-!
# Signs of URLs

A question mark starts a query, a number sign a fragment, and an at sign ends a user name.
None of the three is left in the scheme, the host or the port that is read from a URL, and
neither of the first two in its path: they are refused there, cut off or percent encoded.
-/

namespace TrackerTraffic

/-! ### Percent encoding -/

theorem Utf8.le_of_mem_encodeChar {c : Char} (h : 0x80 ≤ c.toNat) {b : UInt8}
    (hb : b ∈ encodeChar c) : 0x80 ≤ b.toNat := by
  have hbounds := char_bounds c
  have htail : ∀ n, 0x80 ≤ (byte (0x80 + n % 64)).toNat := by
    intro n
    rw [byte_toNat (by omega)]
    omega
  unfold encodeChar at hb
  simp only [if_neg (Nat.not_lt.2 h)] at hb
  split at hb
  · have hhead : (byte (0xC0 + c.toNat / 64)).toNat = 0xC0 + c.toNat / 64 := byte_toNat (by omega)
    rcases List.mem_cons.1 hb with rfl | hb
    · omega
    · rw [List.mem_singleton.1 hb]
      exact htail _
  · split at hb
    · have hhead : (byte (0xE0 + c.toNat / 4096)).toNat = 0xE0 + c.toNat / 4096 :=
        byte_toNat (by omega)
      simp only [List.mem_cons, List.not_mem_nil, or_false] at hb
      rcases hb with rfl | rfl | rfl
      · omega
      · exact htail _
      · exact htail _
    · have hhead : (byte (0xF0 + c.toNat / 262144)).toNat = 0xF0 + c.toNat / 262144 :=
        byte_toNat (by omega)
      simp only [List.mem_cons, List.not_mem_nil, or_false] at hb
      rcases hb with rfl | rfl | rfl | rfl
      · omega
      · exact htail _
      · exact htail _
      · exact htail _

/-- Bytes of ASCII are characters of the text. -/
theorem Utf8.mem_of_mem_encode {cs : List Char} {b : UInt8} (hb : b ∈ encode cs)
    (hascii : b.toNat < 0x80) : Char.ofNat b.toNat ∈ cs := by
  obtain ⟨c, hc, hb⟩ := List.mem_flatMap.1 hb
  by_cases h : c.toNat < 0x80
  · rw [encodeChar_ascii h, List.mem_singleton] at hb
    rw [hb, byte_toNat (by omega), Char.ofNat_toNat]
    exact hc
  · have hlarge := le_of_mem_encodeChar (Nat.le_of_not_lt h) hb
    omega

/-- A sign that is escaped, or not there, is not in a percent encoded text. -/
theorem Percent.not_mem_encode {sign : Char} (hpercent : sign ≠ '%')
    (hdigit : ∀ n < 16, Text.upperHexDigit n ≠ sign) {escaped : UInt8 → Bool} {cs : List Char}
    (h : (∀ b, sign = Char.ofNat b.toNat → escaped b = true) ∨ sign ∉ cs) :
    sign ∉ encode escaped cs := by
  intro hmem
  obtain ⟨b, hb, hsign⟩ := List.mem_flatMap.1 hmem
  have hlt := b.toNat_lt
  split at hsign
  · rename_i hplain
    rw [List.mem_singleton] at hsign
    simp only [Bool.and_eq_true, decide_eq_true_eq, Bool.not_eq_true'] at hplain
    rcases h with hescaped | hnot
    · have hb := hescaped b hsign
      rw [hplain.2] at hb
      cases hb
    · rw [hsign] at hnot
      exact hnot (Utf8.mem_of_mem_encode hb hplain.1)
  · simp only [escape, List.mem_cons, List.not_mem_nil, or_false] at hsign
    rcases hsign with hsign | hsign | hsign
    · exact hpercent hsign
    · exact hdigit _ (by omega) hsign.symm
    · exact hdigit _ (by omega) hsign.symm

namespace Url

/-! ### Signs -/

/-- The signs in front of a query and of a fragment. -/
def querySigns : List Char := ['?', '#']

/-- The signs around an authority: also the one behind a user name. -/
def authoritySigns : List Char := ['?', '#', '@']

def FreeOf (signs cs : List Char) : Prop := ∀ sign ∈ signs, sign ∉ cs

-- over the signs, not over all characters
instance (signs cs : List Char) : Decidable (FreeOf signs cs) :=
  List.decidableBAll (fun sign => sign ∉ cs) signs

theorem forall_querySigns {P : Char → Prop} (hquery : P '?') (hfragment : P '#') :
    ∀ sign ∈ querySigns, P sign := by
  simp [querySigns, hquery, hfragment]

theorem forall_authoritySigns {P : Char → Prop} (hquery : P '?') (hfragment : P '#')
    (huser : P '@') : ∀ sign ∈ authoritySigns, P sign := by
  simp [authoritySigns, hquery, hfragment, huser]

section FreeOf

variable {signs cs ds : List Char}

theorem FreeOf.append (h : FreeOf signs cs) (h' : FreeOf signs ds) : FreeOf signs (cs ++ ds) := by
  intro sign hsign hmem
  rcases List.mem_append.1 hmem with hmem | hmem
  · exact h sign hsign hmem
  · exact h' sign hsign hmem

theorem FreeOf.subset (h : FreeOf signs cs) (hsubset : ∀ c ∈ ds, c ∈ cs) : FreeOf signs ds :=
  fun sign hsign hmem => h sign hsign (hsubset sign hmem)

theorem freeOf_of_forall {p : Char → Bool} (hsigns : ∀ sign ∈ signs, p sign = false)
    (h : ∀ c ∈ cs, p c = true) : FreeOf signs cs := by
  intro sign hsign hmem
  have hp := h sign hmem
  rw [hsigns sign hsign] at hp
  cases hp

theorem freeOf_intercalate {separator : List Char} (hseparator : FreeOf signs separator)
    {parts : List (List Char)} (h : ∀ part ∈ parts, FreeOf signs part) :
    FreeOf signs (separator.intercalate parts) := by
  induction parts with
  | nil => exact fun sign _ hmem => absurd hmem (by simp)
  | cons part rest ih =>
    have hpart := h part List.mem_cons_self
    have hrest := ih fun p hp => h p (List.mem_cons_of_mem _ hp)
    by_cases hnil : rest = []
    · rw [hnil, List.intercalate_singleton]
      exact hpart
    · rw [List.intercalate_cons_of_ne_nil hnil]
      exact (hpart.append hseparator).append hrest

end FreeOf

/-- No sign of an authority is a digit of an escape. -/
theorem freeOf_encode {signs : List Char} (hsigns : ∀ sign ∈ signs, sign ∈ authoritySigns)
    {escaped : UInt8 → Bool} {cs : List Char}
    (h : (∀ sign ∈ signs, ∀ b, sign = Char.ofNat b.toNat → escaped b = true) ∨ FreeOf signs cs) :
    FreeOf signs (Percent.encode escaped cs) := by
  intro sign hsign
  have hspec : ∀ sign ∈ authoritySigns,
      sign ≠ '%' ∧ ∀ n < 16, Text.upperHexDigit n ≠ sign :=
    forall_authoritySigns (by decide) (by decide) (by decide)
  obtain ⟨hpercent, hdigit⟩ := hspec sign (hsigns sign hsign)
  refine Percent.not_mem_encode hpercent hdigit ?_
  rcases h with hescaped | hfree
  · exact .inl (hescaped sign hsign)
  · exact .inr (hfree sign hsign)

theorem mem_authoritySigns : ∀ sign ∈ querySigns, sign ∈ authoritySigns :=
  forall_querySigns (by decide) (by decide)

/-! ### Paths -/

namespace Way

variable {w : Way} {segment : List Char}

/-- No segment of the way starts a query or a fragment. -/
def IsFree (w : Way) : Prop := ∀ segment ∈ w.segments, FreeOf querySigns segment

theorem IsFree.cons (hsegment : FreeOf querySigns segment) (h : w.IsFree) (hasDrive : Bool) :
    IsFree ⟨segment :: w.segments, hasDrive⟩ :=
  List.forall_mem_cons.2 ⟨hsegment, h⟩

theorem IsFree.back (h : w.IsFree) (kind : SchemeKind) : (w.back kind).IsFree := by
  unfold Way.back
  split
  · rename_i last rest hsegments
    split
    · exact h
    · intro segment hmem
      exact h segment (by rw [hsegments]; exact List.mem_cons_of_mem _ hmem)
  · exact h

theorem freeOf_keep (hsegment : FreeOf querySigns segment) (kind : SchemeKind) :
    FreeOf querySigns (w.keep kind segment).1 := by
  unfold keep
  split
  · have htake : FreeOf querySigns (segment.take 1) :=
      hsegment.subset fun c hc => List.mem_of_mem_take hc
    exact htake.append (by decide)
  · exact hsegment

theorem IsFree.pass (h : w.IsFree) (hsegment : FreeOf querySigns segment) (kind : SchemeKind) :
    (w.pass kind segment).IsFree := by
  unfold Way.pass
  split
  · exact h.back kind
  · split
    · exact h
    · exact h.cons (freeOf_keep hsegment kind) _

theorem IsFree.finish (h : w.IsFree) (hsegment : FreeOf querySigns segment) (kind : SchemeKind) :
    (w.finish kind segment).IsFree := by
  have hempty : FreeOf querySigns [] := by decide
  unfold Way.finish
  split
  · exact (h.back kind).cons hempty _
  · split
    · exact h.cons hempty _
    · exact h.cons (freeOf_keep hsegment kind) _

theorem IsFree.foldl (h : w.IsFree) (kind : SchemeKind) {segments : List (List Char)}
    (hsegments : ∀ segment ∈ segments, FreeOf querySigns segment) :
    (segments.foldl (Way.pass kind) w).IsFree := by
  induction segments generalizing w with
  | nil => exact h
  | cons first rest ih =>
    have hfirst := h.pass (hsegments first List.mem_cons_self) kind
    exact ih hfirst fun segment hmem => hsegments segment (List.mem_cons_of_mem _ hmem)

theorem IsFree.text (h : w.IsFree) : FreeOf querySigns w.text := by
  intro sign hsign hmem
  obtain ⟨segment, hsegment, hmem⟩ := List.mem_flatMap.1 hmem
  have hslash : ∀ sign ∈ querySigns, sign ≠ '/' := forall_querySigns (by decide) (by decide)
  rcases List.mem_cons.1 hmem with heq | hmem
  · exact hslash sign hsign heq
  · exact h segment (List.mem_reverse.1 hsegment) sign hsign hmem

end Way

theorem isEscapedInPath_of_querySign : ∀ sign ∈ querySigns, ∀ b : UInt8,
    sign = Char.ofNat b.toNat → isEscapedInPath b = true := by
  intro sign hsign b hb
  have hescaped : ∀ sign ∈ querySigns,
      ['"', '#', '<', '>', '?', '`', '\x7b', '\x7d'].contains sign = true :=
    forall_querySigns (by decide) (by decide)
  rw [isEscapedInPath, ← hb, hescaped sign hsign, Bool.or_true]

/-- A path that was resolved starts no query and no fragment. -/
theorem freeOf_resolvePath (kind : SchemeKind) (cs : List Char) :
    FreeOf querySigns (resolvePath kind cs).1 := by
  have hempty : FreeOf querySigns [] := by decide
  have hstart : Way.IsFree ⟨[], false⟩ := fun _ hmem => absurd hmem List.not_mem_nil
  have hslash : FreeOf querySigns ['/'] := by decide
  rw [resolvePath]
  generalize hcut : (CodeTable.cutAt '/' (cs.map fun c => if isSlash kind c then '/' else c)).map
    (Percent.encode isEscapedInPath) = segments
  have hsegments : ∀ segment ∈ segments, FreeOf querySigns segment := by
    intro segment hmem
    rw [← hcut] at hmem
    obtain ⟨part, -, rfl⟩ := List.mem_map.1 hmem
    exact freeOf_encode mem_authoritySigns (.inl isEscapedInPath_of_querySign)
  have hlast : FreeOf querySigns (segments.getLast?.getD []) := by
    cases hget : segments.getLast? with
    | none => exact hempty
    | some last => exact hsegments last (List.mem_of_getLast? hget)
  have hfront := hstart.foldl kind fun s hs => hsegments s (List.mem_of_mem_dropLast hs)
  have htext := (hfront.finish hlast kind).text
  split
  · exact hslash.append (htext.subset fun c hc => (List.dropWhile_sublist _).subset hc)
  · exact htext

/-! ### Domains -/

namespace Punycode

def IsLetter (c : Char) : Prop := ∃ n < 36, c = letter n

theorem isLetter_of_mem_encodeNumber {bias place n : Nat} {c : Char}
    (h : c ∈ encodeNumber bias place n) : IsLetter c := by
  fun_induction encodeNumber bias place n with
  | case1 place n t hlast =>
    have hbounds := threshold_bounds place bias
    exact ⟨n, by omega, List.mem_singleton.1 h⟩
  | case2 place n t hmore ih =>
    have hbounds := threshold_bounds place bias
    rcases List.mem_cons.1 h with rfl | h
    · have hdigit : (n - t) % (36 - t) < 36 - t := Nat.mod_lt _ (by omega)
      exact ⟨_, by omega, rfl⟩
    · exact ih h

theorem isLetter_of_mem_pass {ascii n : Nat} {w : Writer} (h : ∀ c ∈ w.out, IsLetter c) (d : Char) :
    ∀ c ∈ (w.pass ascii n d).out, IsLetter c := by
  unfold Writer.pass
  split
  · exact h
  · split
    · intro c hc
      rcases List.mem_append.1 hc with hc | hc
      · exact h c hc
      · exact isLetter_of_mem_encodeNumber hc
    · exact h

theorem isLetter_of_mem_foldl {ascii n : Nat} (cs : List Char) {w : Writer}
    (h : ∀ c ∈ w.out, IsLetter c) : ∀ c ∈ (cs.foldl (Writer.pass ascii n) w).out, IsLetter c := by
  induction cs generalizing w with
  | nil => exact h
  | cons d rest ih => exact ih (isLetter_of_mem_pass h d)

theorem isLetter_of_mem_encodeRounds {cs : List Char} {ascii least : Nat} {codes : List Nat}
    {w : Writer} (h : ∀ c ∈ w.out, IsLetter c) :
    ∀ c ∈ encodeRounds cs ascii least codes w, IsLetter c := by
  induction codes generalizing least w with
  | nil => exact h
  | cons n rest ih => exact ih (isLetter_of_mem_foldl cs h)

theorem freeOf_encode {cs : List Char} (h : FreeOf authoritySigns cs) :
    FreeOf authoritySigns (encode cs) := by
  have hletters : ∀ n < 36, letter n ∉ authoritySigns := by decide
  have hascii : FreeOf authoritySigns (cs.filter (·.toNat < 128)) :=
    h.subset fun c hc => (List.mem_filter.1 hc).1
  rw [encode]
  refine (hascii.append ?_).append ?_
  · split <;> decide
  · intro sign hsign hmem
    have hstart : ∀ c ∈ (⟨[], 0, 72, (cs.filter (·.toNat < 128)).length⟩ : Writer).out,
        IsLetter c := fun c hc => absurd hc List.not_mem_nil
    obtain ⟨n, hn, rfl⟩ := isLetter_of_mem_encodeRounds hstart sign hmem
    exact hletters n hn hsign

end Punycode

namespace Domain

theorem freeOf_of_isValidLabel {label : List Char} (h : isValidLabel label = true) :
    FreeOf authoritySigns label := by
  have hsigns : ∀ sign ∈ authoritySigns, isForbidden sign = true :=
    forall_authoritySigns (by decide) (by decide) (by decide)
  intro sign hsign hmem
  have hallowed := ((Bool.and_eq_true _ _).mp h).1
  rw [Bool.not_eq_true', List.any_eq_false] at hallowed
  exact hallowed sign hmem (hsigns sign hsign)

theorem freeOf_encodeLabel {label : List Char} (h : FreeOf authoritySigns label) :
    FreeOf authoritySigns (encodeLabel label) := by
  have hmark : FreeOf authoritySigns punycodeMark := by decide
  rw [encodeLabel]
  split
  · exact h
  · exact hmark.append (Punycode.freeOf_encode h)

theorem freeOf_join {labels : List (List Char)}
    (h : ∀ label ∈ labels, FreeOf authoritySigns label) :
    FreeOf authoritySigns (join labels) := by
  have hpoint : FreeOf authoritySigns ['.'] := by decide
  fun_induction join labels with
  | case1 => decide
  | case2 label => exact h label List.mem_cons_self
  | case3 label rest _ ih =>
    have hrest := ih fun l hl => h l (List.mem_cons_of_mem _ hl)
    exact (h label List.mem_cons_self).append (hpoint.append hrest)

/-- A domain in ASCII has no sign of an authority. -/
theorem freeOf_toAscii? {domain name : List Char} (h : toAscii? domain = some name) :
    FreeOf authoritySigns name := by
  obtain ⟨mapped, -, h⟩ := Option.bind_eq_some_iff.1 h
  obtain ⟨labels, -, h⟩ := Option.bind_eq_some_iff.1 h
  split at h
  · rename_i hvalid
    obtain rfl := Option.some.inj h
    have hlabels := List.all_eq_true.1 ((Bool.and_eq_true _ _).mp hvalid).1
    refine freeOf_join fun label hlabel => ?_
    obtain ⟨source, hsource, rfl⟩ := List.mem_map.1 hlabel
    exact freeOf_encodeLabel (freeOf_of_isValidLabel (hlabels source hsource))
  · cases h

end Domain

/-! ### Addresses -/

theorem freeOf_toDigits {base : Nat} (hbase : 1 < base) (hlimit : base ≤ 16) (n : Nat) :
    FreeOf authoritySigns (Nat.toDigits base n) := by
  have hdigits : ∀ d < 16, Nat.digitChar d ∉ authoritySigns := by decide
  have hdigit : ∀ d < base, FreeOf authoritySigns [Nat.digitChar d] := by
    intro d hd sign hsign hmem
    rw [List.mem_singleton.1 hmem] at hsign
    exact hdigits d (by omega) hsign
  induction n using Nat.strongRecOn with
  | ind n ih =>
    rw [Nat.toDigits_eq_if hbase]
    split
    · rename_i hlt
      exact hdigit n hlt
    · have hless : n / base < n := Nat.div_lt_self (by omega) hbase
      exact (ih _ hless).append (hdigit _ (Nat.mod_lt n (by omega)))

theorem freeOf_toString (n : Nat) : FreeOf authoritySigns (toString n).toList := by
  rw [Text.toString_toList]
  exact freeOf_toDigits (by decide) (by decide) n

theorem freeOf_ipv4 (address : Nat) : FreeOf authoritySigns (Ipv4.text address).toList := by
  rw [Ipv4.text, String.toList_intercalate]
  refine freeOf_intercalate (by decide) fun part hpart => ?_
  rw [List.map_map] at hpart
  obtain ⟨place, -, rfl⟩ := List.mem_map.1 hpart
  exact freeOf_toString _

theorem freeOf_colons (pieces : List Nat) : FreeOf authoritySigns (Ipv6.colons pieces).toList := by
  rw [Ipv6.colons, String.toList_intercalate]
  refine freeOf_intercalate (by decide) fun part hpart => ?_
  rw [List.map_map] at hpart
  obtain ⟨piece, -, rfl⟩ := List.mem_map.1 hpart
  rw [Function.comp_apply, Ipv6.pieceText, String.toList_ofList]
  exact freeOf_toDigits (by decide) (by decide) piece

theorem freeOf_ipv6 (pieces : List Nat) : FreeOf authoritySigns (Ipv6.text pieces).toList := by
  rw [Ipv6.text]
  generalize Ipv6.longestZeros pieces = longest
  obtain ⟨place, run⟩ := longest
  show FreeOf authoritySigns (if run < 2 then Ipv6.colons pieces else _).toList
  split
  · exact freeOf_colons pieces
  · rw [String.toList_append, String.toList_append]
    exact ((freeOf_colons _).append (by decide)).append (freeOf_colons _)

/-! ### Hosts -/

namespace Host

theorem freeOf_bracketed {cs : List Char} {host : Host} (h : bracketed cs = .ok host) :
    FreeOf authoritySigns host.text.toList := by
  unfold bracketed at h
  split at h
  · split at h
    · obtain rfl := Except.ok.inj h
      rw [text, String.toList_append, String.toList_append]
      have hopen : FreeOf authoritySigns "[".toList := by decide
      exact (hopen.append (freeOf_ipv6 _)).append (by decide)
    · cases h
  · cases h

theorem freeOf_read {cs : List Char} {host : Host} (h : read cs = .ok host) :
    FreeOf authoritySigns host.text.toList := by
  unfold read at h
  split at h
  · exact freeOf_bracketed h
  · split at h
    · cases h
    · cases h
    · rename_i name _ hname
      obtain ⟨decoded, -, hascii⟩ := Option.bind_eq_some_iff.1 hname
      split at h
      · split at h
        · obtain rfl := Except.ok.inj h
          exact freeOf_ipv4 _
        · cases h
      · obtain rfl := Except.ok.inj h
        rw [text, String.toList_ofList]
        exact Domain.freeOf_toAscii? hascii

theorem freeOf_readOpaque {cs : List Char} {host : Host} (h : readOpaque cs = .ok (some host)) :
    FreeOf authoritySigns host.text.toList := by
  unfold readOpaque at h
  split at h
  · cases h
  · split at h
    · cases hread : bracketed cs with
      | error e =>
        rw [hread] at h
        cases h
      | ok found =>
        rw [hread] at h
        obtain rfl := Option.some.inj (Except.ok.inj h)
        exact freeOf_bracketed hread
    · split at h
      · cases h
      · rename_i hallowed
        have hsigns : ∀ sign ∈ authoritySigns, isForbidden sign = true :=
          forall_authoritySigns (by decide) (by decide) (by decide)
        have hfree : FreeOf authoritySigns cs := by
          intro sign hsign hmem
          exact hallowed (List.any_eq_true.2 ⟨sign, hmem, hsigns sign hsign⟩)
        obtain rfl := Option.some.inj (Except.ok.inj h)
        rw [text, String.toList_ofList]
        exact Url.freeOf_encode (fun _ => id) (.inr hfree)

end Host

theorem freeOf_readHost {kind : SchemeKind} {cs : List Char} {host : Option Host}
    (h : readHost kind cs = .ok host) :
    ∀ found, host = some found → FreeOf authoritySigns found.text.toList := by
  rintro found rfl
  unfold readHost at h
  split at h
  · exact Host.freeOf_readOpaque h
  · split at h
    · cases h
    · cases hread : Host.read cs with
      | error e =>
        rw [hread] at h
        cases h
      | ok read =>
        rw [hread] at h
        obtain rfl := Option.some.inj (Except.ok.inj h)
        exact Host.freeOf_read hread

/-! ### Schemes with an authority -/

section Authority

variable {scheme : String} {cs : List Char} {u : Url}

theorem host_of_readAuthority {host : Option Host} {port : Option Nat} {rest : List Char}
    (h : readAuthority scheme cs = .ok (host, port, rest)) :
    readHost (kindOf scheme) (cs.take (hostLength (kindOf scheme) false cs)) = .ok host := by
  unfold readAuthority at h
  simp only [bind, Except.bind, pure, Except.pure] at h
  cases hhost : readHost (kindOf scheme) (cs.take (hostLength (kindOf scheme) false cs)) with
  | error e =>
    rw [hhost] at h
    cases h
  | ok found =>
    simp only [hhost] at h
    split at h
    · split at h
      · cases h
      · split at h
        · cases h
        · obtain ⟨rfl, -⟩ := Prod.mk.inj (Except.ok.inj h)
          rfl
    · obtain ⟨rfl, -⟩ := Prod.mk.inj (Except.ok.inj h)
      rfl

/-- A URL with an authority is what its authority and the rest are read as. -/
theorem readWithAuthority_spec (h : readWithAuthority scheme cs = .ok u) :
    ∃ host port rest, readAuthority scheme (cutUser (kindOf scheme) cs).2 = .ok (host, port, rest) ∧
      u = ⟨scheme, host, port,
        String.ofList (pathAfterAuthority (kindOf scheme) (rest.takeWhile (!endsPath ·))),
        readQuery (kindOf scheme) (rest.drop (rest.takeWhile (!endsPath ·)).length)⟩ := by
  unfold readWithAuthority at h
  simp only [bind, Except.bind, pure, Except.pure] at h
  split at h
  · cases h
  · cases hread : readAuthority scheme (cutUser (kindOf scheme) cs).2 with
    | error e =>
      simp only [hread] at h
      cases h
    | ok found =>
      obtain ⟨host, port, rest⟩ := found
      simp only [hread] at h
      split at h
      · cases h
      · exact ⟨host, port, rest, rfl, (Except.ok.inj h).symm⟩

end Authority

/-- The three parts of a URL that make an endpoint, but for its port, hold no sign that ends
them. -/
structure IsClear (u : Url) : Prop where
  scheme : FreeOf authoritySigns u.scheme.toList
  host : FreeOf authoritySigns u.hostText.toList
  path : FreeOf querySigns u.path.toList

theorem freeOf_hostText {host : Option Host}
    (h : ∀ found, host = some found → FreeOf authoritySigns found.text.toList) :
    FreeOf authoritySigns ((host.map Host.text).getD "").toList := by
  cases host with
  | none => exact fun _ _ hmem => absurd hmem List.not_mem_nil
  | some found => exact h found rfl

theorem freeOf_pathAfterAuthority (kind : SchemeKind) (cs : List Char) :
    FreeOf querySigns (pathAfterAuthority kind cs) := by
  unfold pathAfterAuthority
  split
  · split <;> decide
  · exact freeOf_resolvePath kind _

theorem isClear_withAuthority {scheme : String} {cs : List Char} {u : Url}
    (hscheme : FreeOf authoritySigns scheme.toList) (h : readWithAuthority scheme cs = .ok u) :
    u.IsClear := by
  obtain ⟨host, port, rest, hread, rfl⟩ := readWithAuthority_spec h
  refine ⟨hscheme, freeOf_hostText (freeOf_readHost (host_of_readAuthority hread)), ?_⟩
  rw [String.toList_ofList]
  exact freeOf_pathAfterAuthority _ _

/-! ### Files and other schemes -/

theorem isClear_fileUrl {host : Option Host}
    (h : ∀ found, host = some found → FreeOf authoritySigns found.text.toList) (cs : List Char) :
    (fileUrl host cs).IsClear := by
  have hscheme : FreeOf authoritySigns "file".toList := by decide
  refine ⟨hscheme, freeOf_hostText ?_, ?_⟩
  · intro found hfound
    simp only [fileUrl] at hfound
    split at hfound
    · cases hfound
    · exact h found hfound
  · simp only [fileUrl, String.toList_ofList]
    exact freeOf_resolvePath _ _

theorem freeOf_readFileHost {cs : List Char} {host : Option Host} (h : readFileHost cs = .ok host) :
    ∀ found, host = some found → FreeOf authoritySigns found.text.toList := by
  rintro found rfl
  unfold readFileHost at h
  split at h
  · cases h
  · cases hread : Host.read cs with
    | error e =>
      rw [hread] at h
      cases h
    | ok read =>
      rw [hread] at h
      have hfound : (if read = .domain "localhost" then none else some read) = some found :=
        Except.ok.inj h
      split at hfound
      · cases hfound
      · obtain rfl := Option.some.inj hfound
        exact Host.freeOf_read hread

theorem isClear_readFile {cs : List Char} {u : Url} (h : readFile cs = .ok u) : u.IsClear := by
  have hnone : ∀ found, (none : Option Host) = some found →
      FreeOf authoritySigns found.text.toList := fun _ hfound => by cases hfound
  unfold readFile at h
  simp only [bind, Except.bind, pure, Except.pure] at h
  split at h
  · split at h
    · split at h
      · rw [← Except.ok.inj h]
        exact isClear_fileUrl hnone _
      · split at h
        · cases h
        · rename_i host hread
          rw [← Except.ok.inj h]
          exact isClear_fileUrl (freeOf_readFileHost hread) _
    · rw [← Except.ok.inj h]
      exact isClear_fileUrl hnone _
  · rw [← Except.ok.inj h]
    exact isClear_fileUrl hnone _

theorem isClear_withoutAuthority {scheme : String} (hscheme : FreeOf authoritySigns scheme.toList)
    (cs : List Char) : (readWithoutAuthority scheme cs).IsClear := by
  have hplain : FreeOf querySigns (cs.takeWhile (!endsPath ·)) := by
    refine freeOf_of_forall (p := fun c => !endsPath c) (forall_querySigns rfl rfl) fun c hc => ?_
    exact List.all_eq_true.1 List.all_takeWhile c hc
  refine ⟨hscheme, freeOf_hostText fun _ hfound => (by cases hfound), ?_⟩
  simp only [readWithoutAuthority, String.toList_ofList]
  split
  · exact freeOf_resolvePath _ _
  · exact freeOf_encode mem_authoritySigns (.inr hplain)

/-! ### The whole text -/

theorem toLower_not_mem {c : Char} (h : isSchemeCharacter c = true) :
    c.toLower ∉ authoritySigns := by
  have hall : ∀ n < 128, isSchemeCharacter (Char.ofNat n) = true →
      (Char.ofNat n).toLower ∉ authoritySigns := by decide +kernel
  have hascii : c.toNat < 128 := by
    simp only [isSchemeCharacter, Char.isAlphanum, Char.isAlpha, Char.isUpper, Char.isLower,
      Char.isDigit, Bool.or_eq_true, Bool.and_eq_true, decide_eq_true_eq, beq_iff_eq, ge_iff_le,
      UInt32.le_iff_toNat_le] at h
    show c.val.toNat < 128
    rcases h with (((((h | h) | h) | rfl) | rfl) | rfl)
    · exact Nat.lt_of_le_of_lt h.2 (by decide)
    · exact Nat.lt_of_le_of_lt h.2 (by decide)
    · exact Nat.lt_of_le_of_lt h.2 (by decide)
    · decide
    · decide
    · decide
  have hchar := hall c.toNat hascii
  rw [Char.ofNat_toNat] at hchar
  exact hchar h

theorem freeOf_cutScheme? {cs rest : List Char} {scheme : String}
    (h : cutScheme? cs = some (scheme, rest)) : FreeOf authoritySigns scheme.toList := by
  unfold cutScheme? at h
  split at h
  · split at h
    · obtain ⟨rfl, -⟩ := Prod.mk.inj (Option.some.inj h)
      rw [String.toList_ofList]
      intro sign hsign hmem
      obtain ⟨c, hc, rfl⟩ := List.mem_map.1 hmem
      exact toLower_not_mem (List.all_eq_true.1 List.all_takeWhile c hc) hsign
    · cases h
  · cases h

theorem isClear_of_parse {text : String} {u : Url} (h : parse text = .ok u) : u.IsClear := by
  unfold parse at h
  split at h
  · cases h
  · rename_i scheme rest hcut
    have hscheme := freeOf_cutScheme? hcut
    split at h
    · exact isClear_readFile h
    · exact isClear_withAuthority hscheme h
    · exact isClear_withAuthority hscheme h
    · rw [← Except.ok.inj h]
      exact isClear_withoutAuthority hscheme _

end Url

end TrackerTraffic
